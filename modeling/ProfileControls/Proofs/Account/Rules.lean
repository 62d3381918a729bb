import ProfileControls.Proofs.Account.Handle

/-!
# The rules of handles

The text of a handle is a username, alone or with an `@` and a domain behind it. Two rules are about
the username and three about the domain, and a text that breaks one is no handle. Which texts are
handles is told by `Handle.WellFormed`, and which rule is reported for the others by
`HandleFault.IsFirst`: the rules overlap, and the first one in their order counts. The checks go
through the rules in this order (`fault?_eq_find?`), and both follow from that.
-/

namespace ProfileControls

namespace DomainFault

/-- The rules of domains in the order in which they are checked. -/
def order : List DomainFault :=
  [.empty, .outerDot, .illegalCharacter]

/-- The would-be domain has the fault. -/
def Found (domain : List Char) : DomainFault → Prop
  | .empty => domain = []
  | .outerDot => domain.head? = some '.' ∨ domain.getLast? = some '.'
  | .illegalCharacter => ∃ c ∈ domain, Text.isBlank c = true ∨ c ∈ ['/', '@', '?', '#']

instance (domain : List Char) : DecidablePred (Found domain)
  | .empty => inferInstanceAs (Decidable (_ = _))
  | .outerDot => inferInstanceAs (Decidable (_ ∨ _))
  | .illegalCharacter => List.decidableBEx _ domain

end DomainFault

namespace HandleFault

/-- The rules in the order in which they are checked. -/
def order : List HandleFault :=
  .emptyUsername :: .blankInUsername :: DomainFault.order.map .domain

/-- The parts of the would-be handle have the fault. -/
def Found (username : List Char) (domain : Option (List Char)) : HandleFault → Prop
  | .emptyUsername => username = []
  | .blankInUsername => ∃ c ∈ username, Text.isBlank c = true
  | .domain fault => ∃ d ∈ domain, fault.Found d

instance (username : List Char) (domain : Option (List Char)) :
    DecidablePred (Found username domain)
  | .emptyUsername => inferInstanceAs (Decidable (_ = _))
  | .blankInUsername => List.decidableBEx _ username
  | .domain fault => inferInstanceAs (Decidable (∃ d ∈ domain, fault.Found d))

/-- Of the faults that the parts have, this is the first in the order of the rules. -/
def IsFirst (username : List Char) (domain : Option (List Char)) (fault : HandleFault) : Prop :=
  ∃ earlier later, order = earlier ++ fault :: later ∧ fault.Found username domain ∧
    ∀ other ∈ earlier, ¬ other.Found username domain

end HandleFault

/-- The text may stand as the domain of a handle. -/
structure Domain.WellFormed (domain : String) : Prop where
  nonempty : domain ≠ ""
  start : domain.toList.head? ≠ some '.'
  finish : domain.toList.getLast? ≠ some '.'
  legal : ∀ c ∈ domain.toList, Text.isBlank c = false ∧ c ∉ ['/', '@', '?', '#']

/-- The parts may stand in a handle. -/
structure Handle.WellFormed (h : Handle) : Prop where
  nonempty : h.username ≠ ""
  legal : ∀ c ∈ h.username.toList, c ≠ '@' ∧ Text.isBlank c = false
  domain : ∀ d, h.domain = some d → Domain.WellFormed d

/-! ## Checking -/

/-- To look for the first fault is to check one rule and go on if it is kept. -/
lemma find?_cons_eq_ite {α : Type} {found : α → Prop} [DecidablePred found] {a : α} {test : Prop}
    [Decidable test] (same : test ↔ found a) (as : List α) :
    (a :: as).find? (found ·) = if test then some a else as.find? (found ·) := by
  by_cases yes : found a
  · rw [List.find?_cons_of_pos (p := (found ·)) (decide_eq_true yes), if_pos (same.2 yes)]
  · rw [List.find?_cons_of_neg (p := (found ·)) (mt of_decide_eq_true yes), if_neg (same.not.2 yes)]

/-- Illegal in a domain are blanks and the four reserved characters. -/
lemma Domain.isIllegal_iff {c : Char} :
    isIllegal c = true ↔ Text.isBlank c = true ∨ c ∈ ['/', '@', '?', '#'] := by
  simp [isIllegal, or_assoc]

/-- The check of a domain goes through the rules in their order. -/
lemma Domain.fault?_eq_find? (cs : List Char) :
    fault? cs = DomainFault.order.find? (DomainFault.Found cs ·) := by
  have empty : cs.isEmpty = true ↔ DomainFault.Found cs .empty := List.isEmpty_iff
  have dot : (decide (cs.head? = some '.') || decide (cs.getLast? = some '.')) = true ↔
      DomainFault.Found cs .outerDot := by
    rw [Bool.or_eq_true, decide_eq_true_iff, decide_eq_true_iff]
    rfl
  have illegal : cs.any isIllegal = true ↔ DomainFault.Found cs .illegalCharacter := by
    simp only [List.any_eq_true, isIllegal_iff]
    rfl
  rw [DomainFault.order, find?_cons_eq_ite empty, find?_cons_eq_ite dot, find?_cons_eq_ite illegal]
  rfl

/-- The check of a handle goes through the rules in their order. -/
lemma Handle.fault?_eq_find? (username : List Char) (domain : Option (List Char)) :
    fault? username domain = HandleFault.order.find? (HandleFault.Found username domain ·) := by
  have empty : username.isEmpty = true ↔ HandleFault.Found username domain .emptyUsername :=
    List.isEmpty_iff
  have blank : username.any Text.isBlank = true ↔
      HandleFault.Found username domain .blankInUsername := List.any_eq_true
  have rest : (domain.bind Domain.fault?).map HandleFault.domain =
      (DomainFault.order.map HandleFault.domain).find?
        (HandleFault.Found username domain ·) := by
    rw [List.find?_map]
    cases domain with
    | none => rfl
    | some d =>
      rw [Option.bind_some, Domain.fault?_eq_find?]
      congr 2
      funext fault
      simp [HandleFault.Found]
  rw [HandleFault.order, find?_cons_eq_ite empty, find?_cons_eq_ite blank, ← rest]
  rfl

/-- The check of a handle finds the first rule that it breaks. -/
lemma HandleFault.isFirst_iff {username : List Char} {domain : Option (List Char)}
    {fault : HandleFault} :
    fault.IsFirst username domain ↔ Handle.fault? username domain = some fault := by
  rw [Handle.fault?_eq_find?, List.find?_eq_some_iff_append]
  simp only [decide_eq_true_iff, Bool.not_eq_true', decide_eq_false_iff_not]
  constructor
  · rintro ⟨earlier, later, order, found, kept⟩
    exact ⟨found, earlier, later, order, kept⟩
  · rintro ⟨found, earlier, later, order, kept⟩
    exact ⟨earlier, later, order, found, kept⟩

/-! ## Accepted handles -/

/-- Every fault of a domain has its place in the order of the rules. -/
lemma DomainFault.mem_order (fault : DomainFault) : fault ∈ order := by
  cases fault <;> decide

/-- A domain has no fault exactly if it is well formed. -/
lemma Domain.fault?_eq_none_iff {domain : String} :
    fault? domain.toList = none ↔ WellFormed domain := by
  simp only [fault?_eq_find?, List.find?_eq_none, decide_eq_true_iff]
  constructor
  · intro kept
    have nonempty := kept _ (DomainFault.mem_order .empty)
    have dots := not_or.1 (kept _ (DomainFault.mem_order .outerDot))
    have legal := kept _ (DomainFault.mem_order .illegalCharacter)
    refine ⟨mt String.toList_eq_nil_iff.2 nonempty, dots.1, dots.2, fun c mem => ?_⟩
    have legal' := not_or.1 fun wrong => legal ⟨c, mem, wrong⟩
    exact ⟨Bool.eq_false_iff.2 legal'.1, legal'.2⟩
  · rintro ⟨nonempty, start, finish, legal⟩ fault -
    cases fault with
    | empty => exact mt String.toList_eq_nil_iff.1 nonempty
    | outerDot => exact not_or_intro start finish
    | illegalCharacter =>
      rintro ⟨c, mem, wrong⟩
      obtain ⟨notBlank, free⟩ := legal c mem
      exact wrong.elim (ne_true_of_eq_false notBlank) free

namespace Handle

/-- A handle has no fault exactly if its username is clean and its domain has none. -/
lemma fault?_eq_none_iff {username : List Char} {domain : Option (List Char)} :
    fault? username domain = none ↔
      username ≠ [] ∧ (∀ c ∈ username, Text.isBlank c = false) ∧
        ∀ d ∈ domain, Domain.fault? d = none := by
  rw [fault?]
  split
  case isTrue empty =>
    exact iff_of_false (Option.some_ne_none _) fun kept => kept.1 (List.isEmpty_iff.1 empty)
  case isFalse nonempty =>
    split
    case isTrue blank =>
      obtain ⟨c, mem, blank⟩ := List.any_eq_true.1 blank
      exact iff_of_false (Option.some_ne_none _) fun kept =>
        ne_true_of_eq_false (kept.2.1 c mem) blank
    case isFalse blankless =>
      have blankless' : ∀ c ∈ username, Text.isBlank c = false := by
        simpa only [List.any_eq_true, not_exists, not_and, Bool.not_eq_true] using blankless
      rw [Option.map_eq_none_iff, Option.bind_eq_none_iff]
      constructor
      · intro kept
        exact ⟨mt List.isEmpty_iff.2 nonempty, blankless', kept⟩
      · exact fun kept => kept.2.2

/-- Valid handles are the well-formed ones. -/
lemma valid_iff_wellFormed {h : Handle} : h.Valid ↔ h.WellFormed := by
  have domains : (∀ d ∈ h.domain.map String.toList, Domain.fault? d = none) ↔
      ∀ d, h.domain = some d → Domain.WellFormed d := by
    simp only [← Domain.fault?_eq_none_iff]
    cases h.domain with
    | none => simp
    | some d => simp
  constructor
  · rintro ⟨faultless, clean⟩
    obtain ⟨nonempty, blankless, domain⟩ := fault?_eq_none_iff.1 faultless
    refine ⟨mt String.toList_eq_nil_iff.2 nonempty, fun c mem => ⟨?_, blankless c mem⟩,
      domains.1 domain⟩
    rintro rfl
    exact clean mem
  · rintro ⟨nonempty, legal, domain⟩
    refine ⟨fault?_eq_none_iff.2 ⟨mt String.toList_eq_nil_iff.1 nonempty,
      fun c mem => (legal c mem).2, domains.2 domain⟩, fun mem => (legal _ mem).1 rfl⟩

/-! ## Reading -/

/-- Reading fails exactly with the fault of what is read, and names the text. -/
lemma parse_eq_error_iff {text : String} {e : InvalidHandle} :
    parse text = .error e ↔
      e.text = text ∧ fault? (split text.toList).1 (split text.toList).2 = some e.fault := by
  obtain ⟨wrong, fault⟩ := e
  rw [parse_eq]
  split
  case h_1 found first =>
    rw [first]
    simp [eq_comm]
  case h_2 faultless =>
    rw [faultless]
    exact iff_of_false nofun (fun wrong => nomatch wrong.2)

/-- Reading fails exactly with the first rule that is broken, and names the text. -/
lemma parse_eq_error_iff_isFirst {text : String} {e : InvalidHandle} :
    parse text = .error e ↔
      e.text = text ∧ ∃ username domain, '@' ∉ username ∧ text.toList = join username domain ∧
        e.fault.IsFirst username domain := by
  rw [parse_eq_error_iff]
  apply and_congr_right
  rintro -
  constructor
  · intro first
    obtain ⟨clean, joined⟩ := join_split text.toList
    exact ⟨_, _, clean, joined.symm, HandleFault.isFirst_iff.2 first⟩
  · rintro ⟨username, domain, clean, joined, first⟩
    rw [split_eq_iff.2 ⟨clean, joined⟩]
    exact HandleFault.isFirst_iff.1 first

/-- The texts that can be read are those of well-formed handles, also when these are written in
full. Any other text is reported with the first rule that it breaks. -/
theorem parse_by_rules (text : String) :
    (∀ h, parse text = .ok h ↔ h.WellFormed ∧ text = h.text) ∧
    (∀ h localDomain, parse text = .ok h → Domain.fault? localDomain.toList = none →
      parse (h.qualified localDomain) = .ok ⟨h.username, some (h.domain.getD localDomain)⟩ ∧
        ∀ otherDomain,
          qualified ⟨h.username, some (h.domain.getD localDomain)⟩ otherDomain =
            h.qualified localDomain) ∧
    (∀ e, parse text = .error e ↔
      e.text = text ∧ ∃ username domain, '@' ∉ username ∧ text.toList = join username domain ∧
        e.fault.IsFirst username domain) ∧
    HandleFault.order.map HandleFault.reason =
      ["empty username", "whitespace in username", "empty domain",
        "domain starts or ends with a dot", "illegal character in domain"] := by
  refine ⟨fun h => ?_, fun h localDomain read known => ?_, fun e => parse_eq_error_iff_isFirst, rfl⟩
  · rw [parse_eq_ok_iff, valid_iff_wellFormed]
  · obtain ⟨valid, -⟩ := parse_eq_ok_iff.1 read
    exact ⟨valid.parse_qualified known, fun _ => rfl⟩

/-- A handle without a domain is read, qualified and read again, and a bad one breaks its first
rule. -/
theorem parse_by_rules_bob :
    parse "bob" = .ok ⟨"bob", none⟩ ∧ Domain.fault? "home.example".toList = none ∧
      parse "bob@home.example" = .ok ⟨"bob", some "home.example"⟩ ∧
      parse "b b@.x/" = .error ⟨"b b@.x/", .blankInUsername⟩ := by
  have read : parse "bob" = .ok ⟨"bob", none⟩ := by decide
  have known : Domain.fault? "home.example".toList = none := by decide
  obtain ⟨-, inFull, -⟩ := parse_by_rules "bob"
  obtain ⟨-, -, wrong, -⟩ := parse_by_rules "b b@.x/"
  refine ⟨read, known, (inFull _ _ read known).1, (wrong _).2 ⟨rfl, "b b".toList, some ".x/".toList,
    by decide, by decide, [.emptyUsername], _, rfl, by decide, by decide⟩⟩

end Handle

end ProfileControls

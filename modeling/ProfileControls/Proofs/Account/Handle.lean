import Mathlib.Data.List.TakeWhile
import ProfileControls.Account

/-!
# Reading handles

Reading and writing of handles are inverse to each other (`Handle.parse_eq_ok_iff`): the handles
that are read are those whose parts may stand in one (`Handle.Valid`), and each is read from the
text that writes it and from no other. What holds the two together is that the username has no `@`,
so that the first `@` of the text is where the parts were joined (`split_eq_iff`).

To write a handle in full is to write another handle, which names its domain even if that is the
local one (`Handle.inFull`). So the text that `qualified` makes can be read again
(`Valid.parse_qualified`).
-/

namespace ProfileControls

namespace Handle

/-- The characters of a handle: those of the username, alone or joined by `@` to those of the
domain. -/
def join (username : List Char) : Option (List Char) → List Char
  | none => username
  | some domain => username ++ '@' :: domain

/-- The parts of the handle are free of faults, and the first `@` of its text joins them. -/
structure Valid (h : Handle) : Prop where
  faultless : fault? h.username.toList (h.domain.map String.toList) = none
  username : '@' ∉ h.username.toList

/-- The handle with its domain, that of the local server if it has none of its own. -/
def inFull (h : Handle) (localDomain : String) : Handle where
  username := h.username
  domain := some (h.domain.getD localDomain)

variable {h : Handle} {localDomain : String}

/-! ## Taking texts apart -/

/-- No character before the first mark is a mark. -/
lemma ne_at_of_not_mem {u : List Char} (clean : '@' ∉ u) : ∀ c ∈ u, (c != '@') = true := by
  intro c mem
  rw [bne_iff_ne]
  rintro rfl
  exact clean mem

/-- What is joined is split where it was joined, if there is no mark before. -/
lemma split_join {u : List Char} (clean : '@' ∉ u) (d : Option (List Char)) :
    split (join u d) = (u, d) := by
  have before := ne_at_of_not_mem clean
  cases d with
  | none =>
    have rest : u.dropWhile (· != '@') = [] := List.dropWhile_eq_nil_iff.2 before
    simp only [split, join, rest]
  | some d =>
    have rest : (u ++ '@' :: d).dropWhile (· != '@') = '@' :: d := by
      rw [List.dropWhile_append_of_pos before, List.dropWhile_cons_of_neg (by decide)]
    have start : (u ++ '@' :: d).takeWhile (· != '@') = u := by
      rw [List.takeWhile_append_of_pos before, List.takeWhile_cons_of_neg (by decide),
        List.append_nil]
    simp only [split, join, rest, start]

/-- Splitting loses nothing, and leaves no mark before the split. -/
lemma join_split (cs : List Char) :
    '@' ∉ (split cs).1 ∧ join (split cs).1 (split cs).2 = cs := by
  have clean : '@' ∉ cs.takeWhile (· != '@') := by
    intro mem
    have ne := List.mem_takeWhile_imp mem
    exact absurd ne (by decide)
  have whole := List.takeWhile_append_dropWhile (p := (· != '@')) (l := cs)
  unfold split
  split
  case h_1 none =>
    rw [none, List.append_nil] at whole
    rw [whole] at clean
    exact ⟨clean, rfl⟩
  case h_2 c rest some =>
    -- what is dropped starts with the first character that is an `@`
    have stop : (c != '@') = false := by
      have first := List.head_dropWhile_not (· != '@') (l := cs) (by rw [some]; exact nofun)
      simpa only [some, List.head_cons] using first
    obtain rfl : c = '@' := by simpa using stop
    rw [some] at whole
    exact ⟨clean, whole⟩

/-- A text comes apart where a username without `@` was joined to what follows. -/
lemma split_eq_iff {cs u : List Char} {d : Option (List Char)} :
    split cs = (u, d) ↔ '@' ∉ u ∧ cs = join u d := by
  constructor
  · intro apart
    obtain ⟨clean, joined⟩ := join_split cs
    rw [apart] at clean joined
    exact ⟨clean, joined.symm⟩
  · rintro ⟨clean, rfl⟩
    exact split_join clean d

/-- A name, a mark and a domain in one text are the two joined. -/
lemma toList_mark (name d : String) :
    (name ++ "@" ++ d).toList = join name.toList (some d.toList) := by
  rw [String.toList_append, String.toList_append, List.append_assoc]
  rfl

/-! ## Reading -/

/-- What a text is read as depends on its two parts. -/
lemma parse_eq (text : String) :
    parse text =
      match fault? (split text.toList).1 (split text.toList).2 with
      | some fault => .error ⟨text, fault⟩
      | none =>
        .ok ⟨String.ofList (split text.toList).1, (split text.toList).2.map String.ofList⟩ := rfl

/-- The text of a handle is its username and its domain joined. -/
lemma toList_text (h : Handle) :
    h.text.toList = join h.username.toList (h.domain.map String.toList) := by
  obtain ⟨u, d⟩ := h
  cases d with
  | none => rfl
  | some d =>
    show (u ++ "@" ++ d).toList = u.toList ++ '@' :: d.toList
    rw [String.toList_append, String.toList_append, List.append_assoc]
    rfl

/-- A domain is not changed by taking its text apart and putting it together. -/
lemma map_ofList_toList (d : Option String) : (d.map String.toList).map String.ofList = d := by
  cases d with
  | none => rfl
  | some d => exact congrArg some String.ofList_toList

/-- A valid handle is read back from its text. -/
lemma Valid.parse_text (valid : h.Valid) : parse h.text = .ok h := by
  have apart := split_join valid.username (h.domain.map String.toList)
  rw [parse_eq, toList_text, apart]
  simp only [valid.faultless, String.ofList_toList, map_ofList_toList]

/-- Only valid handles are read, and only from their own texts. -/
lemma valid_of_parse {text : String} (read : parse text = .ok h) : h.Valid ∧ text = h.text := by
  obtain ⟨clean, joined⟩ := join_split text.toList
  rw [parse_eq] at read
  split at read
  case h_1 => cases read
  case h_2 faultless =>
    cases read
    have same : (((split text.toList).2.map String.ofList).map String.toList) =
        (split text.toList).2 := by
      cases (split text.toList).2 with
      | none => rfl
      | some d => exact congrArg some String.toList_ofList
    refine ⟨⟨?_, ?_⟩, ?_⟩
    · simpa only [String.toList_ofList, same] using faultless
    · simpa only [String.toList_ofList] using clean
    · rw [← String.toList_inj, toList_text]
      simp only [String.toList_ofList, same, joined]

/-- A handle is read exactly from the text that writes it. -/
theorem parse_eq_ok_iff {text : String} : parse text = .ok h ↔ h.Valid ∧ text = h.text := by
  constructor
  · exact valid_of_parse
  · rintro ⟨valid, rfl⟩
    exact valid.parse_text

/-! ## Writing in full -/

/-- To qualify a handle is to write it in full. -/
lemma qualified_eq (h : Handle) (localDomain : String) :
    h.qualified localDomain = (h.inFull localDomain).text := rfl

/-- In full, a valid handle is valid if the domain of the local server is. -/
lemma Valid.inFull (valid : h.Valid) (known : Domain.fault? localDomain.toList = none) :
    (h.inFull localDomain).Valid := by
  refine ⟨?_, valid.username⟩
  obtain ⟨u, d⟩ := h
  cases d with
  | some d => exact valid.faultless
  | none =>
    have named := valid.faultless
    show fault? u.toList (some localDomain.toList) = none
    simp only [fault?, Option.bind_some, known] at named ⊢
    exact named

/-- A handle that is written in full is read with its domain. -/
lemma Valid.parse_qualified (valid : h.Valid) (known : Domain.fault? localDomain.toList = none) :
    parse (h.qualified localDomain) = .ok (h.inFull localDomain) := by
  rw [qualified_eq]
  exact (valid.inFull known).parse_text

/-- To name the local domain does not make a handle remote. -/
lemma isRemoteFor_inFull (h : Handle) (localDomain : String) :
    (h.inFull localDomain).isRemoteFor localDomain = h.isRemoteFor localDomain := by
  obtain ⟨u, d⟩ := h
  cases d with
  | some d => rfl
  | none =>
    show (!Text.sameUpToCase localDomain localDomain) = false
    rw [Text.sameUpToCase_iff.2 rfl]
    rfl

/-- A remote handle has a domain of its own, which it keeps in full. -/
lemma domain_of_isRemoteFor (remote : h.isRemoteFor localDomain = true) :
    (h.inFull localDomain).domain = h.domain := by
  obtain ⟨u, d⟩ := h
  cases d with
  | some d => rfl
  | none => cases remote

end Handle

/-! ## Accounts -/

namespace Account

variable {a : Account} {h : Handle}

/-- A text that is a handle has an `@` exactly if the handle has a domain. -/
lemma hasDomainPart_of_handle (read : a.handle = .ok h) : a.hasDomainPart = h.domain.isSome := by
  obtain ⟨valid, text⟩ := Handle.parse_eq_ok_iff.1 read
  rw [hasDomainPart, text, Handle.toList_text]
  cases h.domain with
  | none =>
    apply Bool.eq_false_iff.2
    intro found
    exact valid.username (List.contains_iff_mem.1 found)
  | some d =>
    apply List.contains_iff_mem.2
    exact List.mem_append_right _ List.mem_cons_self

end Account

end ProfileControls

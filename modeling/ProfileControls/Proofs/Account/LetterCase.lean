import ProfileControls.Proofs.Account.Handle

/-!
# Letter case

Domains are compared without regard to the case of ASCII letters. The rules of domains do not see it
either, since none of them is about letters (`Domain.fault?_map_toLower`), and the first `@` of a
text stands where it stood however the letters behind it are written. So two texts that differ in
nothing but the case of these letters (`Handle.Respelled`) are both handles or both none, and as
handles they have one username and domains that are compared as equal (`Handle.Respelled.parse`).
-/

namespace ProfileControls

/-- The two texts differ at most in the case of ASCII letters behind the first `@`. -/
def Handle.Respelled (text text' : String) : Prop :=
  text' = text ∨ ∃ name d d' : String, '@' ∉ name.toList ∧ Text.sameUpToCase d d' = true ∧
    text = name ++ "@" ++ d ∧ text' = name ++ "@" ++ d'

/-- The two handles have one username, and domains that differ at most in the case of ASCII
letters. -/
structure Handle.Alike (h h' : Handle) : Prop where
  username : h'.username = h.username
  domain : h'.domain.map Text.lowerAscii = h.domain.map Text.lowerAscii

namespace Text

variable {a a' b b' : String}

/-! ## Letters -/

/-- Only letters have a lower case of their own, which is a letter too. -/
lemma toLower_eq_or_isAlpha (c : Char) :
    c.toLower = c ∨ c.isAlpha = true ∧ c.toLower.isAlpha = true := by
  by_cases upper : c.val ≥ 'A'.val ∧ c.val ≤ 'Z'.val
  · right
    have code : c.toLower.val = c.val + ('a'.val - 'A'.val) := congrArg Char.val (dif_pos upper)
    have lower : c.toLower.val ≥ 'a'.val ∧ c.toLower.val ≤ 'z'.val := by
      rw [code]
      obtain ⟨least, greatest⟩ := upper
      simp [UInt32.le_iff_toNat_le] at least greatest ⊢
      omega
    have capital : c.isUpper = true := decide_eq_true upper
    have small : c.toLower.isLower = true :=
      Bool.and_eq_true_iff.2 ⟨decide_eq_true lower.1, decide_eq_true lower.2⟩
    exact ⟨Bool.or_eq_true_iff.2 (.inl capital), Bool.or_eq_true_iff.2 (.inr small)⟩
  · exact .inl (dif_neg upper)

/-- What holds of no letter does not see the case of letters. -/
lemma apply_toLower {p : Char → Bool} (letterless : ∀ c, c.isAlpha = true → p c = false)
    (c : Char) : p c.toLower = p c := by
  obtain same | ⟨letter, letter'⟩ := toLower_eq_or_isAlpha c
  · rw [same]
  · rw [letterless c letter, letterless _ letter']

/-- Letters have the codes of ASCII letters. -/
lemma code_of_isAlpha {c : Char} (letter : c.isAlpha = true) :
    65 ≤ c.toNat ∧ c.toNat ≤ 90 ∨ 97 ≤ c.toNat ∧ c.toNat ≤ 122 := by
  obtain upper | lower := Bool.or_eq_true_iff.1 letter
  · exact .inl (of_decide_eq_true upper)
  · obtain ⟨least, greatest⟩ := Bool.and_eq_true_iff.1 lower
    exact .inr ⟨of_decide_eq_true least, of_decide_eq_true greatest⟩

/-- The characters before the letters are no letters. -/
lemma beq_of_isAlpha {c d : Char} (small : d.toNat < 65) (letter : c.isAlpha = true) :
    (c == d) = false := by
  rw [beq_eq_false_iff_ne]
  rintro rfl
  have code := code_of_isAlpha letter
  omega

/-- Letters are not blank. -/
lemma isBlank_of_isAlpha {c : Char} (letter : c.isAlpha = true) : isBlank c = false := by
  have code := code_of_isAlpha letter
  simp [isBlank]
  omega

/-! ## Texts -/

/-- A text is the same as itself up to case. -/
lemma sameUpToCase_refl (a : String) : sameUpToCase a a = true :=
  sameUpToCase_iff.2 rfl

/-- The lower case of two texts in a row is that of one and then that of the other. -/
lemma lowerAscii_append (a b : String) :
    lowerAscii (a ++ b) = lowerAscii a ++ lowerAscii b := by
  rw [lowerAscii, String.toList_append, List.map_append, String.ofList_append]
  rfl

/-- Texts that are the same up to case may be put together. -/
lemma sameUpToCase_append (start : sameUpToCase a a' = true) (rest : sameUpToCase b b' = true) :
    sameUpToCase (a ++ b) (a' ++ b') = true := by
  rw [sameUpToCase_iff] at start rest ⊢
  rw [lowerAscii_append, lowerAscii_append, start, rest]

/-- The comparison does not see the case of letters on either side. -/
lemma sameUpToCase_congr (left : lowerAscii a = lowerAscii a')
    (right : lowerAscii b = lowerAscii b') : sameUpToCase a b = sameUpToCase a' b' := by
  rw [Bool.eq_iff_iff, sameUpToCase_iff, sameUpToCase_iff, left, right]

end Text

/-! ## Domains -/

namespace Domain

/-- Letters may stand in domains. -/
lemma isIllegal_of_isAlpha {c : Char} (letter : c.isAlpha = true) : isIllegal c = false := by
  rw [isIllegal, Text.isBlank_of_isAlpha letter, Text.beq_of_isAlpha (by decide) letter,
    Text.beq_of_isAlpha (by decide) letter, Text.beq_of_isAlpha (by decide) letter,
    Text.beq_of_isAlpha (by decide) letter]
  rfl

/-- No letter has a dot for its lower case. -/
lemma map_toLower_eq_dot_iff {c? : Option Char} :
    c?.map Char.toLower = some '.' ↔ c? = some '.' := by
  have dot (c : Char) : (c.toLower == '.') = (c == '.') :=
    Text.apply_toLower (p := (· == '.')) (fun _ => Text.beq_of_isAlpha (by decide)) c
  cases c? with
  | none => exact Iff.rfl
  | some c => rw [Option.map_some, Option.some_inj, Option.some_inj, ← beq_iff_eq, dot, beq_iff_eq]

/-- No rule of domains tells the two cases of a letter apart. -/
lemma fault?_map_toLower (cs : List Char) : fault? (cs.map Char.toLower) = fault? cs := by
  have illegal : isIllegal ∘ Char.toLower = isIllegal :=
    funext (Text.apply_toLower fun _ => isIllegal_of_isAlpha)
  simp only [fault?, List.isEmpty_map, List.head?_map, List.getLast?_map, List.any_map, illegal,
    map_toLower_eq_dot_iff]

/-- Domains that are the same up to case have the same fault. -/
lemma fault?_congr {d d' : String} (same : Text.sameUpToCase d d' = true) :
    fault? d.toList = fault? d'.toList := by
  rw [Text.sameUpToCase, beq_iff_eq] at same
  rw [← fault?_map_toLower, same, fault?_map_toLower]

end Domain

/-! ## Handles -/

namespace Handle

variable {text text' name d d' : String}

/-- A handle is split at its first mark. -/
lemma split_mark (clean : '@' ∉ name.toList) (d : String) :
    split (name ++ "@" ++ d).toList = (name.toList, some d.toList) := by
  rw [toList_mark, split_join clean]

/-- What a text with an `@` is read as. -/
lemma parse_mark (clean : '@' ∉ name.toList) (d : String) :
    parse (name ++ "@" ++ d) =
      match fault? name.toList (some d.toList) with
      | some fault => .error ⟨name ++ "@" ++ d, fault⟩
      | none => .ok ⟨name, some d⟩ := by
  rw [parse_eq, split_mark clean]
  cases fault? name.toList (some d.toList) with
  | some fault => rfl
  | none =>
    show Except.ok (Handle.mk (String.ofList name.toList) (some (String.ofList d.toList))) = _
    rw [String.ofList_toList, String.ofList_toList]

/-- Handles whose domains are the same up to case have the same fault. -/
lemma fault?_congr {username : List Char} (same : Text.sameUpToCase d d' = true) :
    fault? username (some d.toList) = fault? username (some d'.toList) := by
  rw [fault?, fault?, Option.bind_some, Option.bind_some, Domain.fault?_congr same]

/-- Respelling a handle neither adds a mark nor removes one. -/
lemma Respelled.mem_iff (respelled : Respelled text text') :
    '@' ∈ text'.toList ↔ '@' ∈ text.toList := by
  obtain rfl | ⟨name, d, d', -, -, rfl, rfl⟩ := respelled
  · rfl
  · simp

/-- A handle that is respelled is the same up to case. -/
lemma Respelled.sameUpToCase (respelled : Respelled text text') :
    Text.sameUpToCase text text' = true := by
  obtain rfl | ⟨name, d, d', -, same, rfl, rfl⟩ := respelled
  · exact Text.sameUpToCase_refl text'
  · exact Text.sameUpToCase_append (Text.sameUpToCase_refl _) same

/-- Texts that differ in nothing but the case of the letters of their domains are read alike. -/
lemma Respelled.parse (respelled : Respelled text text') :
    (∃ e e', Handle.parse text = .error e ∧ Handle.parse text' = .error e' ∧ e'.fault = e.fault) ∨
      ∃ h h', Handle.parse text = .ok h ∧ Handle.parse text' = .ok h' ∧ h.Alike h' := by
  obtain rfl | ⟨name, d, d', clean, same, rfl, rfl⟩ := respelled
  · cases read : Handle.parse text' with
    | error e => exact .inl ⟨e, e, rfl, rfl, rfl⟩
    | ok h => exact .inr ⟨h, h, rfl, rfl, rfl, rfl⟩
  · rw [parse_mark clean, parse_mark clean, ← fault?_congr same]
    cases fault? name.toList (some d.toList) with
    | some fault => exact .inl ⟨_, _, rfl, rfl, rfl⟩
    | none =>
      have domain := congrArg some (Text.sameUpToCase_iff.1 same).symm
      exact .inr ⟨_, _, rfl, rfl, rfl, domain⟩

/-- A handle belongs to the local server however its domain and the local one are written. -/
lemma Alike.all_sameUpToCase {h h' : Handle} {l l' : String} (alike : h.Alike h')
    (known : Text.sameUpToCase l l' = true) :
    h'.domain.all (Text.sameUpToCase · l') = h.domain.all (Text.sameUpToCase · l) := by
  have domain := alike.domain
  cases named : h.domain with
  | none =>
    rw [named, Option.map_none, Option.map_eq_none_iff] at domain
    rw [domain, Option.all_none, Option.all_none]
  | some d =>
    rw [named, Option.map_some, Option.map_eq_some_iff] at domain
    obtain ⟨d', named', same⟩ := domain
    rw [named', Option.all_some, Option.all_some]
    exact Text.sameUpToCase_congr same (Text.sameUpToCase_iff.1 known).symm

end Handle

end ProfileControls

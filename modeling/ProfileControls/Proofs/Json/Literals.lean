import Mathlib.Tactic.Lemma
import ProfileControls.Json.Printer
import ProfileControls.Json.Token

/-!
# Literals that are read back

The literals of texts and numbers are scanned back to what they were written for, whatever follows
them. A text ends with its quote. A number has no mark at its end, so what follows must not go on
with it (`EndsNumber`).

A text is read one written character at a time (`scanText_escapedChar`), a number in the three parts
in which it is scanned.
-/

namespace ProfileControls.Json

open Text (scanDigits decimalNumber hexNumber?)

/-- What follows a number does not go on with it. -/
def EndsNumber (rest : List Char) : Prop :=
  ∀ c ∈ rest.head?, c.isDigit = false ∧ c ≠ '.' ∧ c ≠ 'e' ∧ c ≠ 'E'

variable {s rest : List Char} {c : Char}

/-! ## Texts -/

/-- A short escape is read as the character that it stands for. -/
lemma scanText_escape {e : Char} (meaning : simpleEscape? e = some c) (rest : List Char) :
    scanText ('\\' :: e :: rest) =
      (scanText rest).map fun (pieces, rest) => (.char c :: pieces, rest) := by
  rw [scanText, meaning]
  · cases scanText rest with
    | none => rfl
    | some read => rfl
  · rintro _ _ _ _ _ rfl
    cases meaning

/-- Two digits write every control character. -/
lemma hexNumber?_control : ∀ n < 0x20,
    hexNumber? ['0', '0', Nat.digitChar (n / 16), Nat.digitChar (n % 16)] = some n := by
  decide

/-- A control character is read from the escape with its number. -/
lemma scanText_control (control : c.toNat < 0x20) (rest : List Char) :
    scanText ('\\' :: 'u' :: '0' :: '0' :: Nat.digitChar (c.toNat / 16) ::
        Nat.digitChar (c.toNat % 16) :: rest) =
      (scanText rest).map fun (pieces, rest) => (.char c :: pieces, rest) := by
  have unit : Piece.ofUnit c.toNat = .char c := by
    rw [Piece.ofUnit, if_neg (by omega), if_neg (by omega), Char.ofNat_toNat]
  rw [scanText, hexNumber?_control _ control]
  cases scanText rest with
  | none => rfl
  | some read => exact congrArg (fun piece => some (piece :: read.1, read.2)) unit

/-- A character without an escape is read as itself. -/
lemma scanText_plain (quote : c ≠ '"') (backslash : c ≠ '\\') (plain : ¬ c.toNat < 0x20)
    (rest : List Char) :
    scanText (c :: rest) =
      (scanText rest).map fun (pieces, rest) => (.char c :: pieces, rest) := by
  rw [scanText, if_neg (by simp [backslash, plain])]
  · rintro rfl
    exact quote rfl
  · rintro _ _ _ _ _ rfl
    exact fun _ => backslash rfl
  · rintro _ _ rfl
    exact fun _ => backslash rfl

/-- Whatever is written for a character is read as that character. -/
lemma scanText_escapedChar (c : Char) (rest : List Char) :
    scanText (escapedChar c ++ rest) =
      (scanText rest).map fun (pieces, rest) => (.char c :: pieces, rest) := by
  unfold escapedChar
  split
  case h_8 quote backslash _ _ _ _ _ =>
    by_cases control : c.toNat < 0x20
    · rw [if_pos control]
      exact scanText_control control rest
    · rw [if_neg control]
      exact scanText_plain quote backslash control rest
  all_goals exact scanText_escape rfl rest

/-- A literal is read up to its closing quote. -/
lemma scanText_escaped (s rest : List Char) :
    scanText (s.flatMap escapedChar ++ '"' :: rest) = some (s.map .char, rest) := by
  induction s with
  | nil => rfl
  | cons c s ih =>
    rw [List.flatMap_cons, List.append_assoc, scanText_escapedChar, ih]
    rfl

/-- Characters without surrogates make a text. -/
lemma joinPieces_char (s : List Char) : joinPieces (s.map .char) = some s := by
  induction s with
  | nil => rfl
  | cons c s ih =>
    rw [List.map_cons, joinPieces, ih]
    rfl

/-- A text is scanned back from its literal. -/
lemma scanToken_text (s : String) (rest : List Char) :
    scanToken '"' (s.toList.flatMap escapedChar ++ ['"'] ++ rest) =
      some (.text (some s), rest) := by
  have scanned := scanText_escaped s.toList rest
  have joined : (joinPieces (s.toList.map .char)).map String.ofList = some s := by
    rw [joinPieces_char, Option.map_some, String.ofList_toList]
  rw [List.append_assoc, scanToken, List.singleton_append, scanned, Option.map_some]
  exact congrArg (fun text => some (Token.text text, rest)) joined

/-! ## Digits -/

/-- A number is written in digits. -/
lemma isDigit_of_mem_toDigits {n : Nat} : ∀ c ∈ Nat.toDigits 10 n, c.isDigit :=
  fun _ => Nat.isDigit_of_mem_toDigits (by decide) (by decide)

/-- What is written for a number begins with a digit. -/
lemma toDigits_append_ne (n : Nat) (other : c.isDigit = false) (rest s : List Char) :
    Nat.toDigits 10 n ++ rest ≠ c :: s := by
  intro eq
  cases written : Nat.toDigits 10 n with
  | nil => exact Nat.toDigits_ne_nil written
  | cons d ds =>
    rw [written] at eq
    have digit : d.isDigit := isDigit_of_mem_toDigits d (written ▸ List.mem_cons_self)
    rw [(List.cons.inj eq).1, other] at digit
    cases digit

/-- Only zero itself is written with a leading zero. -/
lemma toDigits_append_ne_zero {n : Nat} (positive : 0 < n) (rest s : List Char) :
    Nat.toDigits 10 n ++ rest ≠ '0' :: s := by
  induction n using Nat.strongRecOn generalizing rest with
  | ind n ih =>
    by_cases small : n < 10
    · rw [Nat.toDigits_of_lt_base small]
      intro eq
      have zero : n = 0 := Nat.digitChar_eq_zero.1 (List.cons.inj eq).1
      omega
    · rw [Nat.toDigits_of_base_le (by decide) (by omega), List.append_assoc]
      exact ih (n / 10) (by omega) (by omega) _

/-- Digits are scanned up to the first character that is none. -/
lemma scanDigits_toDigits (n : Nat) (ends : ∀ c ∈ rest.head?, c.isDigit = false) :
    scanDigits (Nat.toDigits 10 n ++ rest) = some (Nat.toDigits 10 n, rest) := by
  have taken : rest.takeWhile Char.isDigit = [] := by
    cases rest with
    | nil => rfl
    | cons c rest => exact List.takeWhile_cons_of_neg (by simp [ends c rfl])
  have left : rest.dropWhile Char.isDigit = rest := by
    cases rest with
    | nil => rfl
    | cons c rest => exact List.dropWhile_cons_of_neg (by simp [ends c rfl])
  rw [scanDigits, List.takeWhile_append_of_pos isDigit_of_mem_toDigits, taken, List.append_nil,
    List.dropWhile_append_of_pos isDigit_of_mem_toDigits, left]
  cases written : Nat.toDigits 10 n with
  | nil => exact absurd written Nat.toDigits_ne_nil
  | cons d ds => rfl

/-- The digits of a number have that number for their value. -/
lemma decimalNumber_toDigits (n : Nat) : decimalNumber (Nat.toDigits 10 n) = n :=
  Nat.ofDigitChars_ten_toDigits

/-! ## Numbers -/

/-- The digits of a number are a whole number in the sense of the grammar. -/
lemma scanWhole_toDigits (n : Nat) (ends : ∀ c ∈ rest.head?, c.isDigit = false) :
    scanWhole (Nat.toDigits 10 n ++ rest) = some (Nat.toDigits 10 n, rest) := by
  by_cases zero : n = 0
  · rw [zero]
    rfl
  · unfold scanWhole
    split
    case h_1 eq => exact absurd eq (toDigits_append_ne_zero (Nat.pos_of_ne_zero zero) _ _)
    case h_2 => exact scanDigits_toDigits n ends

/-- Without a point there is no fraction. -/
lemma scanFraction_none (ends : ∀ c ∈ rest.head?, c ≠ '.') :
    scanFraction rest = some (none, rest) := by
  unfold scanFraction
  split
  case h_1 => exact absurd rfl (ends '.' rfl)
  case h_2 => rfl

/-- Without its letter there is no power of ten. -/
lemma scanExponent_none (ends : ∀ c ∈ rest.head?, c ≠ 'e' ∧ c ≠ 'E') :
    scanExponent rest = some (none, rest) := by
  unfold scanExponent
  split
  case h_1 c rest =>
    obtain ⟨small, capital⟩ := ends c rfl
    rw [if_neg (by simp [small, capital])]
  case h_2 => rfl

/-- A power of ten that is not negative is scanned back. -/
lemma scanExponent_ofNat (e : Nat) (ends : ∀ c ∈ rest.head?, c.isDigit = false) :
    scanExponent ('e' :: (Nat.toDigits 10 e ++ rest)) = some (some (.ofNat e), rest) := by
  rw [scanExponent, if_pos (by decide), scanDigits_toDigits e ends, Option.map_some]
  · exact congrArg (fun n : Nat => some (some (Int.ofNat n), rest)) (decimalNumber_toDigits e)
  · exact fun s eq => toDigits_append_ne e rfl rest s eq
  · exact fun s eq => toDigits_append_ne e rfl rest s eq

/-- A negative power of ten is scanned back. -/
lemma scanExponent_negSucc (e : Nat) (ends : ∀ c ∈ rest.head?, c.isDigit = false) :
    scanExponent ('e' :: '-' :: (Nat.toDigits 10 (e + 1) ++ rest)) =
      some (some (.negSucc e), rest) := by
  rw [scanExponent, if_pos (by decide), scanDigits_toDigits (e + 1) ends, Option.map_some]
  exact congrArg (fun n : Nat => some (some (-Int.ofNat n), rest)) (decimalNumber_toDigits (e + 1))

/-- A coefficient before whatever is scanned as a power of ten. -/
lemma scanUnsigned_toDigits {negative : Bool} {power : Option Int} (n : Nat)
    (ends : ∀ c ∈ s.head?, c.isDigit = false ∧ c ≠ '.')
    (scanned : scanExponent s = some (power, rest)) :
    scanUnsigned negative (Nat.toDigits 10 n ++ s) = some (⟨negative, n, power⟩, rest) := by
  have whole := scanWhole_toDigits n fun c first => (ends c first).1
  have fraction := scanFraction_none fun c first => (ends c first).2
  rw [scanUnsigned, whole]
  simp only [Option.bind_eq_bind, Option.bind_some, fraction, scanned, Option.getD_none,
    List.append_nil, decimalNumber_toDigits, List.length_nil]
  cases power with
  | none => rfl
  | some e => simp

/-- The power of ten that is written behind the digits of a number. -/
def Number.powerText (n : Number) : List Char :=
  match n.exponent with
  | none => []
  | some (.ofNat e) => 'e' :: Nat.toDigits 10 e
  | some (.negSucc e) => 'e' :: '-' :: Nat.toDigits 10 (e + 1)

/-- A number is scanned back from its digits and its power of ten. -/
lemma scanUnsigned_number (n : Number) (ends : EndsNumber rest) :
    scanUnsigned n.negative (Nat.toDigits 10 n.coefficient ++ (n.powerText ++ rest)) =
      some (n, rest) := by
  have digits : ∀ c ∈ rest.head?, c.isDigit = false := fun c first => (ends c first).1
  obtain ⟨negative, coefficient, exponent⟩ := n
  match exponent with
  | none =>
    have noPower := scanExponent_none fun c first => (ends c first).2.2
    exact scanUnsigned_toDigits coefficient (fun c first => ⟨digits c first, (ends c first).2.1⟩)
      noPower
  | some (.ofNat e) =>
    refine scanUnsigned_toDigits coefficient ?_ (scanExponent_ofNat e digits)
    rintro _ ⟨⟩
    decide
  | some (.negSucc e) =>
    refine scanUnsigned_toDigits coefficient ?_ (scanExponent_negSucc e digits)
    rintro _ ⟨⟩
    decide

/-- A token that begins with a digit is a number. -/
lemma scanToken_digit (digit : c.isDigit) :
    scanToken c s = (scanUnsigned false (c :: s)).map fun (n, s) => (.number n, s) := by
  unfold scanToken
  split
  case h_12 => exact if_pos digit
  all_goals exact absurd digit (by decide)

/-- There are four blanks. -/
lemma eq_of_isSpace (space : isSpace c) : c = ' ' ∨ c = '\t' ∨ c = '\n' ∨ c = '\r' := by
  simpa [isSpace, or_assoc] using space

/-- No digit is a blank. -/
lemma isSpace_of_isDigit (digit : c.isDigit) : isSpace c = false := by
  cases space : isSpace c with
  | false => rfl
  | true => obtain rfl | rfl | rfl | rfl := eq_of_isSpace space <;> exact absurd digit (by decide)

/-- A number is scanned from its first character on, a sign or a digit. -/
lemma Number.scanToken_text (n : Number) (ends : EndsNumber rest) :
    ∃ c s, n.text = c :: s ∧ isSpace c = false ∧
      scanToken c (s ++ rest) = some (.number n, rest) := by
  have scanned := scanUnsigned_number n ends
  obtain ⟨negative, coefficient, exponent⟩ := n
  cases negative with
  | true =>
    refine ⟨'-', Nat.toDigits 10 coefficient ++ powerText ⟨true, coefficient, exponent⟩, rfl, rfl,
      ?_⟩
    rw [List.append_assoc]
    exact congrArg (Option.map _) scanned
  | false =>
    cases written : Nat.toDigits 10 coefficient with
    | nil => exact absurd written Nat.toDigits_ne_nil
    | cons d ds =>
      have digit : d.isDigit := isDigit_of_mem_toDigits d (written ▸ List.mem_cons_self)
      refine ⟨d, ds ++ powerText ⟨false, coefficient, exponent⟩, ?_, isSpace_of_isDigit digit, ?_⟩
      · exact congrArg (· ++ powerText ⟨false, coefficient, exponent⟩) written
      · rw [scanToken_digit digit, List.append_assoc, ← List.cons_append, ← written]
        exact congrArg (Option.map _) scanned

end ProfileControls.Json

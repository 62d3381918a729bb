import ProfileControls.Json.Value
import ProfileControls.Text.Digits

/-!
# Number literals in JSON

A number is written with digits before the point, perhaps digits behind it, and perhaps a power of
ten. What is read keeps all digits as one coefficient.
-/

namespace ProfileControls.Json

open Text (scanDigits decimalNumber length_scanDigits)

/-- The digits before the point: a single zero, or digits that do not begin with one. -/
def scanWhole : List Char → Option (List Char × List Char)
  | '0' :: rest => some (['0'], rest)
  | s => scanDigits s

/-- The digits behind a point, none if there is no point. -/
def scanFraction : List Char → Option (Option (List Char) × List Char)
  | '.' :: rest => (scanDigits rest).map fun (digits, rest) => (some digits, rest)
  | s => some (none, s)

/-- The power of ten behind the letter `e`, none if there is no such letter. -/
def scanExponent : List Char → Option (Option Int × List Char)
  | c :: rest =>
    if c == 'e' || c == 'E' then
      match rest with
      | '+' :: rest => (scanDigits rest).map fun (ds, rest) => (some (decimalNumber ds), rest)
      | '-' :: rest => (scanDigits rest).map fun (ds, rest) => (some (-decimalNumber ds), rest)
      | rest => (scanDigits rest).map fun (ds, rest) => (some (decimalNumber ds), rest)
    else some (none, c :: rest)
  | [] => some (none, [])

/-- A number from behind its sign, and what follows it. -/
def scanUnsigned (negative : Bool) (s : List Char) : Option (Number × List Char) := do
  let (whole, s) ← scanWhole s
  let (fraction, s) ← scanFraction s
  let (power, s) ← scanExponent s
  let places := (fraction.getD []).length
  let exponent :=
    if fraction.isNone && power.isNone then none else some (power.getD 0 - (places : Int))
  some (⟨negative, decimalNumber (whole ++ fraction.getD []), exponent⟩, s)

/-- A whole number takes at least one character. -/
theorem length_scanWhole {s rest ds : List Char} (h : scanWhole s = some (ds, rest)) :
    rest.length < s.length := by
  unfold scanWhole at h
  split at h
  · simp_all
  · exact length_scanDigits h

/-- What is left after a fraction, which may be missing, is no longer than before. -/
theorem length_scanFraction {s rest : List Char} {ds : Option (List Char)}
    (h : scanFraction s = some (ds, rest)) : rest.length ≤ s.length := by
  unfold scanFraction at h
  split at h
  · simp only [Option.map_eq_some_iff, Prod.mk.injEq, Prod.exists] at h
    obtain ⟨_, _, h, _, rfl⟩ := h
    have := length_scanDigits h
    simp only [List.length_cons]
    omega
  · simp_all

/-- What is left after a power of ten, which may be missing, is no longer than before. -/
theorem length_scanExponent {s rest : List Char} {e : Option Int}
    (h : scanExponent s = some (e, rest)) : rest.length ≤ s.length := by
  unfold scanExponent at h
  split at h
  · split at h
    · split at h <;>
      · simp only [Option.map_eq_some_iff, Prod.mk.injEq, Prod.exists] at h
        obtain ⟨_, _, h, _, rfl⟩ := h
        have := length_scanDigits h
        simp only [List.length_cons]
        omega
    · simp_all
  · simp_all

/-- A number without its sign takes at least one character. -/
theorem length_scanUnsigned {b : Bool} {s rest : List Char} {n : Number}
    (h : scanUnsigned b s = some (n, rest)) : rest.length < s.length := by
  simp only [scanUnsigned, Option.bind_eq_bind, Option.bind_eq_some_iff, Option.some.injEq,
    Prod.mk.injEq, Prod.exists] at h
  obtain ⟨_, _, h₁, _, _, h₂, _, _, h₃, _, rfl⟩ := h
  have := length_scanWhole h₁
  have := length_scanFraction h₂
  have := length_scanExponent h₃
  omega

end ProfileControls.Json

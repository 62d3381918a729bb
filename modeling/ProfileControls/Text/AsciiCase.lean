/-!
# Comparison without regard to ASCII case

Domain names are compared letter by letter, where only the 26 ASCII letters have two cases; every
other character stands for itself alone.
-/

namespace ProfileControls.Text

/-- The text with `A` to `Z` written small. -/
def lowerAscii (s : String) : String :=
  String.ofList (s.toList.map Char.toLower)

/-- The two texts differ at most in the case of ASCII letters. -/
def sameUpToCase (a b : String) : Bool :=
  a.toList.map Char.toLower == b.toList.map Char.toLower

/-- Two texts agree up to case exactly when they are written the same in small letters. -/
theorem sameUpToCase_iff {a b : String} :
    sameUpToCase a b = true ↔ lowerAscii a = lowerAscii b := by
  simp [sameUpToCase, lowerAscii, String.ofList_inj]

end ProfileControls.Text

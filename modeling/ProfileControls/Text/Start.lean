/-!
# Beginnings of texts

What is left of a text behind a given beginning, as characters.
-/

namespace ProfileControls.Text

/-- What follows the characters `start` at the head of `cs`, if they stand there. -/
def dropStart? : List Char → List Char → Option (List Char)
  | [], cs => some cs
  | _ :: _, [] => none
  | s :: start, c :: cs => if s = c then dropStart? start cs else none

/-- The characters of `text` behind the beginning `start`, if it begins so. -/
def after? (start text : String) : Option (List Char) :=
  dropStart? start.toList text.toList

/-- What is left after a start is what stands behind it. -/
theorem dropStart?_eq_some_iff {start cs rest : List Char} :
    dropStart? start cs = some rest ↔ cs = start ++ rest := by
  fun_induction dropStart? start cs with
  | case1 => simp [eq_comm]
  | case2 => simp
  | case3 s start cs ih => simp [ih]
  | case4 s start c cs h => simp [Ne.symm h]

end ProfileControls.Text

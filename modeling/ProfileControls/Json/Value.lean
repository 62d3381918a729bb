/-!
# JSON values

A value keeps what a reader of records may ask about: the members of an object in the order of the
text with repeated keys kept, and for a number whether it was written as a plain integer.

A string literal whose escapes leave half a surrogate pair stands for no text. Such a literal is
`unreadable`, and so is an object with such a key: no record can be taken from it, but it may stand
where a value is skipped.
-/

namespace ProfileControls.Json

/--
A number as it is written. `coefficient` holds the digits read as one natural number; `exponent` is
`none` for a plain integer, and otherwise the power of ten that goes with the coefficient.
-/
structure Number where
  negative : Bool
  coefficient : Nat
  exponent : Option Int
deriving DecidableEq, Repr

/-- A JSON value. -/
inductive Value where
  | null
  | bool (b : Bool)
  | number (n : Number)
  | string (s : String)
  | array (items : List Value)
  | object (members : List (String × Value))
  | unreadable
deriving Repr, Inhabited

namespace Value

/-- The plain non-negative integer `n`. -/
def nat (n : Nat) : Value :=
  .number ⟨false, n, none⟩

/-- `null` for nothing, and otherwise what `f` makes of the content. -/
def orNull {α : Type} (f : α → Value) : Option α → Value
  | none => .null
  | some a => f a

/-- The text of a string. -/
def string? : Value → Option String
  | .string s => some s
  | _ => none

/-- The truth value of a boolean. -/
def bool? : Value → Option Bool
  | .bool b => some b
  | _ => none

/-- The number of a plain non-negative integer. Minus zero is not one. -/
def nat? : Value → Option Nat
  | .number ⟨false, n, none⟩ => some n
  | _ => none

/-- The number of a plain integer. Minus zero is not one. -/
def int? : Value → Option Int
  | .number ⟨false, n, none⟩ => some n
  | .number ⟨true, n, none⟩ => if n = 0 then none else some (-n)
  | _ => none

end Value

end ProfileControls.Json

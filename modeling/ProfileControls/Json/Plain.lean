import ProfileControls.Json.Value
import ProfileControls.Text.Decimal

/-!
# Plain values

A value that is set aside before it is known what to make of it has to be held as data. That needs
more than well-formedness: every string must stand for a text, every number must be finite when it
is computed in doubles, and arrays and objects may nest only so deep.
-/

namespace ProfileControls.Json

/-- The number without its sign. -/
def Number.decimal (n : Number) : Text.Decimal :=
  ⟨n.coefficient, n.exponent.getD 0⟩

/-- The value holds data only, with arrays and objects nested at most `room` deep. -/
def Value.isPlain : Nat → Value → Bool
  | _, .number n => n.decimal.isFiniteProduct
  | 0, .array _ => false
  | 0, .object _ => false
  | room + 1, .array items => items.all (isPlain room)
  | room + 1, .object members => members.all fun (_, v) => isPlain room v
  | _, .unreadable => false
  | _, _ => true

end ProfileControls.Json

/-!
# Decimal numbers as doubles

A number written in decimal is a coefficient and a power of ten. Doubles end at a certain size, and
whether a number is beyond it has two answers: one for the exact value, and one for the value that
is computed in doubles, where the digits and the power of ten are rounded on their own and
their product is rounded again.
-/

namespace ProfileControls.Text

/-- The number `coefficient * 10 ^ exponent`. -/
structure Decimal where
  coefficient : Nat
  exponent : Int
deriving DecidableEq, Repr

/-- The least magnitude that rounds to infinity as a double. -/
def infinityThreshold : Nat :=
  Nat.pow 2 1024 - Nat.pow 2 970

/--
The natural number nearest to `n` of those with at most 53 binary digits before their zeros; of two
that are equally near, the one that is even at its last digit.
-/
def nearestDouble (n : Nat) : Nat :=
  let unit := Nat.pow 2 (n.log2 - 52)
  let below := n / unit
  let rest := n % unit
  if unit < 2 * rest || (unit == 2 * rest && below % 2 == 1) then (below + 1) * unit
  else below * unit

/-- Numbers of at most 53 binary digits are not rounded. -/
theorem nearestDouble_of_log2_le {n : Nat} (h : n.log2 ≤ 52) : nearestDouble n = n := by
  simp [nearestDouble, Nat.sub_eq_zero_of_le h, Nat.mod_one]

/-- Rounding moves a number by at most half the distance of its neighbours. -/
theorem two_mul_nearestDouble_le (n : Nat) :
    2 * nearestDouble n ≤ 2 * n + Nat.pow 2 (n.log2 - 52) ∧
      2 * n ≤ 2 * nearestDouble n + Nat.pow 2 (n.log2 - 52) := by
  unfold nearestDouble
  have hu : 0 < Nat.pow 2 (n.log2 - 52) := Nat.two_pow_pos _
  generalize Nat.pow 2 (n.log2 - 52) = unit at hu ⊢
  have hn := Nat.div_add_mod n unit
  rw [Nat.mul_comm] at hn
  have hs : (n / unit + 1) * unit = n / unit * unit + unit := Nat.succ_mul ..
  have hr := Nat.mod_lt n hu
  simp only [Bool.or_eq_true, Bool.and_eq_true, decide_eq_true_eq, beq_iff_eq]
  split <;> omega

namespace Decimal

/--
Some finite double is nearest to the number. A power of ten is never computed beyond the size at
which the question is settled.
-/
def isFinite (d : Decimal) : Bool :=
  d.coefficient == 0 ||
    match d.exponent with
    | .ofNat e => e < 310 && d.coefficient * Nat.pow 10 e < infinityThreshold
    | .negSucc e =>
      d.coefficient / Nat.pow 10 (min (e + 1) d.coefficient.log2) < infinityThreshold

/-- The number with as many leading digits as 64 bits can hold, and zeros in place of the others. -/
def leading (d : Decimal) : Decimal :=
  if d.coefficient < UInt64.size then d else leading ⟨d.coefficient / 10, d.exponent + 1⟩
termination_by d.coefficient
decreasing_by
  have : 0 < UInt64.size := by decide
  exact Nat.div_lt_self (by omega) (by decide)

/-- The leading digits of a number fit into 64 bits. -/
theorem coefficient_leading_lt (d : Decimal) : d.leading.coefficient < UInt64.size := by
  fun_induction leading d with
  | case1 d h => exact h
  | case2 d h ih => exact ih

/--
The number is finite when it is computed in doubles: as the product of its leading digits with
their power of ten. No power of ten beyond the 308th is a double.
-/
def isFiniteProduct (d : Decimal) : Bool :=
  let d := d.leading
  d.coefficient == 0 ||
    match d.exponent with
    | .ofNat e =>
      e ≤ 308 && nearestDouble d.coefficient * nearestDouble (Nat.pow 10 e) < infinityThreshold
    | .negSucc _ => true

end Decimal

end ProfileControls.Text

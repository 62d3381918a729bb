import ProfileControls.Text.Decimal
import ProfileControls.Text.Digits

/-!
# TOML scalars

Which words are numbers, truth values, dates or times. A word is taken whole: everything up to the
next character that cannot be part of a scalar. Integers must fit 64 bits with a sign, a float must
not be so large that it becomes positive infinity, and dates must exist in the calendar.
-/

namespace ProfileControls.Toml

/-- A character that numbers, truth values, dates and times are made of. -/
def isWordChar (c : Char) : Bool :=
  c.isAlphanum || c == '+' || c == '-' || c == '_' || c == '.' || c == ':'

/-- Digits, with single underscores between them. -/
def isDigitRow (isDigit : Char → Bool) : List Char → Bool
  | [] => false
  | [c] => isDigit c
  | c :: '_' :: s => isDigit c && isDigitRow isDigit s
  | c :: s => isDigit c && isDigitRow isDigit s

/-- The number that digits to a base write, underscores aside. -/
def rowNumber (base : Nat) (s : List Char) : Nat :=
  (s.filterMap Text.hexDigit?).foldl (fun n d => base * n + d) 0

/-- The word without its sign, and whether the sign was a minus. -/
def unsigned : List Char → Bool × List Char
  | '+' :: s => (false, s)
  | '-' :: s => (true, s)
  | s => (false, s)

/-- Decimal digits that begin with a zero only if there is no other. -/
def isDecimalRow (s : List Char) : Bool :=
  isDigitRow Char.isDigit s && (s == ['0'] || s.head? != some '0')

/-- The least number too large for 63 bits. -/
def integerBound : Nat :=
  9223372036854775808

/-- A decimal integer. The negative ones reach one further than the positive ones. -/
def isDecimalInteger (s : List Char) : Bool :=
  let (negative, digits) := unsigned s
  isDecimalRow digits && rowNumber 10 digits < integerBound + (if negative then 1 else 0)

/-- An integer to one of the bases sixteen, eight and two. -/
def isPrefixedInteger : List Char → Bool
  | '0' :: 'x' :: s => isDigitRow (Text.hexDigit? · |>.isSome) s && rowNumber 16 s < integerBound
  | '0' :: 'o' :: s => isDigitRow (fun c => '0' ≤ c && c ≤ '7') s && rowNumber 8 s < integerBound
  | '0' :: 'b' :: s => isDigitRow (fun c => c == '0' || c == '1') s && rowNumber 2 s < integerBound
  | _ => false

/-- The power of ten behind the letter `e`, if that is well written. -/
def power? (s : List Char) : Option Int :=
  let (negative, digits) := unsigned s
  if isDigitRow Char.isDigit digits then
    some (if negative then -rowNumber 10 digits else rowNumber 10 digits)
  else none

/-- A float with a point or a power of ten. -/
def isDecimalFloat (s : List Char) : Bool :=
  let (negative, s) := unsigned s
  let isExponentLetter c := c == 'e' || c == 'E'
  let mantissa := s.takeWhile (!isExponentLetter ·)
  let power := s.dropWhile (!isExponentLetter ·)
  let whole := mantissa.takeWhile (· != '.')
  let fraction := mantissa.dropWhile (· != '.')
  let fractionFits := fraction.isEmpty || isDigitRow Char.isDigit fraction.tail
  let power? := if power.isEmpty then some 0 else power? power.tail
  match power? with
  | none => false
  | some exponent =>
    isDecimalRow whole && fractionFits && !(fraction.isEmpty && power.isEmpty) &&
      (negative ||
        Text.Decimal.isFinite ⟨rowNumber 10 (whole ++ fraction.tail),
          exponent - (fraction.tail.filter Char.isDigit).length⟩)

/-- Infinity, or not a number. -/
def isSpecialFloat (s : List Char) : Bool :=
  let s := (unsigned s).2
  s == ['i', 'n', 'f'] || s == ['n', 'a', 'n']

/-- The number that exactly `n` decimal digits at the front write, and what follows them. -/
def digits? (n : Nat) (s : List Char) : Option (Nat × List Char) :=
  let digits := s.take n
  if digits.length = n ∧ digits.all Char.isDigit then some (Text.decimalNumber digits, s.drop n)
  else none

/-- What follows the character `c`, if it stands at the front. -/
def mark? (c : Char) (s : List Char) : Option (List Char) :=
  if s.head? = some c then some s.tail else none

/-- The number of days of a month. -/
def daysOf (year month : Nat) : Nat :=
  if month = 2 then
    if year % 4 = 0 ∧ (year % 100 ≠ 0 ∨ year % 400 = 0) then 29 else 28
  else if month ∈ [4, 6, 9, 11] then 30
  else 31

/-- What follows a date of the calendar. -/
def date? (s : List Char) : Option (List Char) := do
  let (year, s) ← digits? 4 s
  let s ← mark? '-' s
  let (month, s) ← digits? 2 s
  let s ← mark? '-' s
  let (day, s) ← digits? 2 s
  if 1 ≤ month ∧ month ≤ 12 ∧ 1 ≤ day ∧ day ≤ daysOf year month then some s else none

/-- What follows a time of day. A minute may have 61 seconds. -/
def time? (s : List Char) : Option (List Char) := do
  let (hour, s) ← digits? 2 s
  let s ← mark? ':' s
  let (minute, s) ← digits? 2 s
  let s ← mark? ':' s
  let (second, s) ← digits? 2 s
  if 23 < hour ∨ 59 < minute ∨ 60 < second then none
  else
    match s with
    | '.' :: s => (Text.scanDigits s).map (·.2)
    | s => some s

/-- An offset from universal time, or nothing. -/
def isOffset : List Char → Bool
  | [] => true
  | ['Z'] | ['z'] => true
  | ['+', a, b, ':', c, d] | ['-', a, b, ':', c, d] =>
    match digits? 2 [a, b], digits? 2 [c, d] with
    | some (hour, _), some (minute, _) => hour ≤ 23 && minute ≤ 59
    | _, _ => false
  | _ => false

/-- A time of day, with an offset or without. -/
def isTimeWithOffset (s : List Char) : Bool :=
  match time? s with
  | some rest => isOffset rest
  | none => false

/-- A date, alone or followed by `T` and a time. -/
def isDateWord (s : List Char) : Bool :=
  match date? s with
  | some [] => true
  | some ('T' :: rest) | some ('t' :: rest) => isTimeWithOffset rest
  | _ => false

/-- The word is a scalar. -/
def isScalar (word : List Char) : Bool :=
  word == ['t', 'r', 'u', 'e'] || word == ['f', 'a', 'l', 's', 'e'] || isDecimalInteger word ||
    isPrefixedInteger word || isDecimalFloat word || isSpecialFloat word || isDateWord word ||
    time? word == some []

/--
What follows a scalar. A date may be separated from its time by a single space, so a time that
follows a date in that way belongs to it.
-/
def scalarEnd? (s : List Char) : Option (List Char) :=
  let word := s.takeWhile isWordChar
  let rest := s.dropWhile isWordChar
  if isScalar word then
    match date? word, rest with
    | some [], ' ' :: c :: more =>
      if c.isDigit then
        if isTimeWithOffset ((c :: more).takeWhile isWordChar) then
          some ((c :: more).dropWhile isWordChar)
        else none
      else some rest
    | _, _ => some rest
  else none

end ProfileControls.Toml

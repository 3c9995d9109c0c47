import ScriptHost.Number.Rounding

/-!
# Decimal texts of numbers

`shortest` finds the fewest decimal digits that lie within given bounds around a positive number,
and of those the digits nearest to it.  A `Style` says how such digits are laid out: which
magnitudes are written positionally, what follows a whole number, what stands before an exponent,
and where a tie goes.  `fixed` writes a number to a given count of places.
-/

namespace ScriptHost.Number

-- A power is the one by recursion on the exponent, whichever other instances are in scope.
attribute [local instance (2000)] instPowNat

/-- The decimal digits of a natural, the first one first. -/
def digitChars (n : Nat) : List Char :=
  Nat.toDigits 10 n

/-- The digits `d₁ d₂ …` stand for `0.d₁d₂… * 10 ^ point`. -/
structure Decimal where
  digits : List Char
  point : Int
  deriving DecidableEq

/-- Which of two equally near digits is taken. -/
inductive Tie where
  | up
  | toEven
  deriving DecidableEq

/-- A positive number and the bounds around it, over one denominator.  The bounds themselves belong
to the interval if it is `closed`. -/
structure Interval where
  low : Nat
  value : Nat
  high : Nat
  den : Nat
  closed : Bool

namespace Interval

/-- How many places after the point are looked at for a leading digit. -/
def reach : Nat := 60

/-- The place of the leading digit: `10 ^ (place - 1) ≤ value < 10 ^ place`, for values from
`10 ^ (-reach)` on. -/
def place (i : Interval) : Int :=
  (digitChars (i.value * 10 ^ reach / i.den)).length - reach

/-- Whether `c * 10 ^ e` lies in the interval. -/
def holds (i : Interval) (c : Nat) (e : Int) : Bool :=
  let scale := if 0 ≤ e then i.den * 10 ^ e.toNat else i.den
  let unscale := if 0 ≤ e then 1 else 10 ^ (-e).toNat
  let x := c * scale
  if i.closed then i.low * unscale ≤ x && x ≤ i.high * unscale
  else i.low * unscale < x && x < i.high * unscale

/-- The whole part of `value / 10 ^ e`, and how the rest compares with a half. -/
def cut (i : Interval) (e : Int) : Nat × Ordering :=
  let num := if 0 ≤ e then i.value else i.value * 10 ^ (-e).toNat
  let den := if 0 ≤ e then i.den * 10 ^ e.toNat else i.den
  (num / den, compare (2 * (num % den)) den)

/-- The nearest of the two neighbours of the value on the grid of `10 ^ e` that lies in the
interval. -/
def onGrid (i : Interval) (tie : Tie) (e : Int) : Option Nat :=
  let (c, rest) := i.cut e
  match i.holds c e, i.holds (c + 1) e with
  | true, true =>
    match rest, tie with
    | .lt, _ => some c
    | .gt, _ => some (c + 1)
    | .eq, .up => some (c + 1)
    | .eq, .toEven => some (c + c % 2)
  | true, false => some c
  | false, true => some (c + 1)
  | false, false => none

/-- The first grid with a hit, from `count` digits on. -/
def search (i : Interval) (tie : Tie) : Nat → Nat → Nat × Int
  | 0, count => ((i.cut (i.place - count)).1, i.place - count)
  | tries + 1, count =>
    match i.onGrid tie (i.place - count) with
    | some c => (c, i.place - count)
    | none => search i tie tries (count + 1)

/-- The fewest digits in the interval, and of those the nearest to the value; at most 17. -/
def shortest (i : Interval) (tie : Tie) : Decimal :=
  let (c, e) := i.search tie 16 1
  let digits := digitChars c
  ⟨(digits.reverse.dropWhile (· == '0')).reverse, digits.length + e⟩

end Interval

/-- How digits are laid out. -/
structure Style where
  /-- The points at which a number is written positionally, and not with an exponent. -/
  positional : Int → Bool
  /-- What follows the digits of a whole number that is written positionally. -/
  wholeMark : String
  /-- What stands before an exponent that is not negative. -/
  exponentMark : String
  /-- Which of two shortest forms is taken when the number lies in the middle between them. -/
  tie : Tie

namespace Decimal

/-- The digits with a decimal point among them. -/
def positional (d : Decimal) (wholeMark : String) : String :=
  if d.point ≤ 0 then
    "0." ++ String.ofList (List.replicate (-d.point).toNat '0' ++ d.digits)
  else
    let whole := d.point.toNat
    if d.digits.length ≤ whole then
      String.ofList (d.digits ++ List.replicate (whole - d.digits.length) '0') ++ wholeMark
    else
      String.ofList (d.digits.take whole) ++ "." ++ String.ofList (d.digits.drop whole)

/-- The digits with a point after the first, and a power of ten. -/
def scientific (d : Decimal) (exponentMark : String) : String :=
  let head := String.ofList (d.digits.take 1)
  let tail := d.digits.drop 1
  let mantissa := if tail.isEmpty then head else head ++ "." ++ String.ofList tail
  let exponent := d.point - 1
  mantissa ++ "e" ++ (if 0 ≤ exponent then exponentMark else "") ++ toString exponent

def render (d : Decimal) (style : Style) : String :=
  if style.positional d.point then d.positional style.wholeMark else d.scientific style.exponentMark

end Decimal

/-- A fraction to a count of decimal places, a tie going to the even digit. -/
def fixed (num den places : Nat) : String :=
  let digits := digitChars (roundDiv (num * 10 ^ places) den)
  let padded := List.replicate (places + 1 - digits.length) '0' ++ digits
  let whole := String.ofList (padded.take (padded.length - places))
  if places = 0 then whole
  else whole ++ "." ++ String.ofList (padded.drop (padded.length - places))

end ScriptHost.Number

import ScriptHost.Number.Dyadic

/-!
# Single-precision numbers

A `Single` is a 32-bit floating-point number, kept as its bits so that every number, the signed
zeros and the not-a-numbers included, is told apart.  Every finite number is a whole multiple of
`2 ^ (-149)`; `scaled` is that whole number, and each operation computes exactly with it and rounds
once.
-/

namespace ScriptHost

-- A power is the one by recursion on the exponent, whichever other instances are in scope.
attribute [local instance (2000)] instPowNat

/-- A 32-bit floating-point number: sign, eight exponent bits, 23 fraction bits. -/
structure Single where
  bits : UInt32
  deriving DecidableEq, Inhabited

namespace Single

open Number

/-- The format that finite singles are rounded into. -/
def format : BinaryFormat := ⟨24, -149, 104⟩

def zero : Single := ⟨0⟩

def negOne : Single := ⟨0xbf800000⟩

def infinity : Single := ⟨0x7f800000⟩

/-- What an operation without a meaningful result gives. -/
def indeterminate : Single := ⟨0xffc00000⟩

/-- The weight of the sign bit. -/
abbrev signBit : Nat := 0x80000000

/-- The weight of the lowest exponent bit; the bits below it are the fraction. -/
abbrev exponentBit : Nat := 0x800000

/-- One, as a multiple of `2 ^ (-149)`. -/
def scale : Nat := 2 ^ format.minExp.natAbs

/-- The bits below the sign. -/
def magnitude (x : Single) : Nat :=
  x.bits.toNat % signBit

def isNegative (x : Single) : Bool :=
  signBit ≤ x.bits.toNat

def isNaN (x : Single) : Bool :=
  0x7f800000 < x.magnitude

def isInfinite (x : Single) : Bool :=
  x.magnitude == 0x7f800000

def isFinite (x : Single) : Bool :=
  x.magnitude < 0x7f800000

/-- A number from its sign and the bits below it. -/
def ofParts (negative : Bool) (magnitude : Nat) : Single :=
  ⟨UInt32.ofNat (magnitude % signBit + if negative then signBit else 0)⟩

/-- The number with the other sign. -/
def neg (x : Single) : Single :=
  ofParts (!x.isNegative) x.magnitude

/-- The number without its sign. -/
def abs (x : Single) : Single :=
  ofParts false x.magnitude

/-- A not-a-number as it leaves an operation: its leading fraction bit is set. -/
def quiet (x : Single) : Single :=
  ⟨x.bits ||| 0x00400000⟩

/-- The size of the last place of a finite number, as a multiple of `2 ^ (-149)`. -/
def unit (x : Single) : Nat :=
  2 ^ (x.magnitude / exponentBit - 1)

/-- The whole number of last places in the size of a finite number. -/
def significand (x : Single) : Nat :=
  x.magnitude % exponentBit + if x.magnitude < exponentBit then 0 else exponentBit

/-- The size of a finite number, as a multiple of `2 ^ (-149)`. -/
def size (x : Single) : Nat :=
  x.significand * x.unit

/-- A finite number, as a multiple of `2 ^ (-149)`. -/
def scaled (x : Single) : Int :=
  if x.isNegative then -x.size else x.size

/-- The number nearest to `± num / den`, infinite if that is too large. -/
def ofFraction (negative : Bool) (num den : Nat) : Single :=
  match format.round num den with
  | some (m, e) => ofParts negative ((e - format.minExp).toNat * exponentBit + m)
  | none => ofParts negative infinity.magnitude

/-- The number nearest to a whole number. -/
def ofInt (n : Int) : Single :=
  ofFraction (n < 0) n.natAbs 1

/-! ## Arithmetic -/

/-- The first operand that is not a number, as the result. -/
def propagate (x y : Single) : Option Single :=
  if x.isNaN then some x.quiet
  else if y.isNaN then some y.quiet
  else none

def add (x y : Single) : Single :=
  match propagate x y with
  | some r => r
  | none =>
    if x.isInfinite then
      if y.isInfinite ∧ x.isNegative ≠ y.isNegative then indeterminate else x
    else if y.isInfinite then y
    else
      let sum := x.scaled + y.scaled
      if sum = 0 then ofParts (x.isNegative && y.isNegative) 0
      else ofFraction (sum < 0) sum.natAbs scale

def sub (x y : Single) : Single :=
  match propagate x y with
  | some r => r
  | none => x.add y.neg

def mul (x y : Single) : Single :=
  match propagate x y with
  | some r => r
  | none =>
    let negative := x.isNegative != y.isNegative
    if x.isInfinite ∨ y.isInfinite then
      if x.magnitude = 0 ∨ y.magnitude = 0 then indeterminate
      else ofParts negative infinity.magnitude
    else ofFraction negative (x.size * y.size) (scale * scale)

/-- The square root.  That of `size / scale` is that of `size * scale` over `scale`; the whole root
has more than enough places to round from, and a half more stands for what it leaves out. -/
def sqrt (x : Single) : Single :=
  if x.isNaN then x.quiet
  else if x.magnitude = 0 then x
  else if x.isNegative then indeterminate
  else if x.isInfinite then x
  else
    let n := x.size * scale
    let root := Number.sqrt n
    ofFraction false (2 * root + if root * root = n then 0 else 1) (2 * scale)

/-! ## Comparison -/

/-- Numerical equality: the two zeros are equal, and a not-a-number equals nothing. -/
def eq (x y : Single) : Bool :=
  !x.isNaN && !y.isNaN && (x.bits == y.bits || (x.magnitude == 0 && y.magnitude == 0))

/-- Whether a number is above zero. -/
def isPositive (x : Single) : Bool :=
  !x.isNaN && !x.isNegative && x.magnitude != 0

/-- The place of a number in the total order of bit patterns: negative not-a-numbers, negative
numbers, the negative zero, the positive zero, positive numbers, positive not-a-numbers. -/
def rank (x : Single) : Int :=
  if x.isNegative then -(x.magnitude : Int) - 1 else x.magnitude

/-- Comparison in the total order of bit patterns. -/
def totalCompare (x y : Single) : Ordering :=
  compare x.rank y.rank

/-! ## Conversions to whole numbers -/

/-- The whole part, held within 32 bits; zero if not a number. -/
def toInt32 (x : Single) : Int32 :=
  if x.isNaN then 0
  else if x.isInfinite then if x.isNegative then Int32.minValue else Int32.maxValue
  else Int32.ofInt (max Int32.minValue.toInt (min Int32.maxValue.toInt (x.scaled.tdiv scale)))

/-- The size of a finite number in double precision, which has room for it as it is. -/
def widen (x : Single) : Number.Dyadic :=
  ⟨x.significand, (x.magnitude / exponentBit - 1 : Nat) + format.minExp⟩

/-- Seconds as whole milliseconds, by a product in double precision; a half rounds up, and the count
is held within 64 bits.  Nothing that is not above zero counts. -/
def toMillis (x : Single) : UInt64 :=
  if !x.isPositive then 0
  else if x.isInfinite then UInt64.ofNat (UInt64.size - 1)
  else
    match x.widen.mul ⟨1000, 0⟩ with
    | some product => UInt64.ofNat (min (UInt64.size - 1) product.nearest)
    | none => UInt64.ofNat (UInt64.size - 1)

end Single

end ScriptHost

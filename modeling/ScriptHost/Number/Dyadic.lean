import ScriptHost.Number.Rounding

/-!
# Sizes in double precision

A `Dyadic` is a size without a sign, `m * 2 ^ e`.  A product or a quotient is computed exactly and
rounded once into double precision.
-/

namespace ScriptHost.Number

-- A power is the one by recursion on the exponent, whichever other instances are in scope.
attribute [local instance (2000)] instPowNat

/-- Double precision. -/
def double : BinaryFormat := ⟨53, -1074, 971⟩

/-- A size in double precision: `m * 2 ^ e`. -/
structure Dyadic where
  m : Nat
  e : Int
  deriving DecidableEq

namespace Dyadic

/-- The nearest size to a fraction; nothing if it is too large. -/
def ofFraction (num den : Nat) : Option Dyadic :=
  (double.round num den).map fun (m, e) ↦ ⟨m, e⟩

/-- The nearest size to `m * 2 ^ e / den`. -/
def ofScaled (m : Nat) (e : Int) (den : Nat) : Option Dyadic :=
  if 0 ≤ e then ofFraction (m * 2 ^ e.toNat) den else ofFraction m (den * 2 ^ (-e).toNat)

def mul (x y : Dyadic) : Option Dyadic :=
  ofScaled (x.m * y.m) (x.e + y.e) 1

def div (x y : Dyadic) : Option Dyadic :=
  ofScaled x.m (x.e - y.e) y.m

/-- The whole number nearest to a size, a half going up. -/
def nearest (x : Dyadic) : Nat :=
  if 0 ≤ x.e then x.m * 2 ^ x.e.toNat
  else (2 * x.m + 2 ^ (-x.e).toNat) / (2 * 2 ^ (-x.e).toNat)

end Dyadic

end ScriptHost.Number

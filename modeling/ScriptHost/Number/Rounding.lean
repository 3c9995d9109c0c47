/-!
# Rounding a fraction

Fractions are pairs of naturals, and every rounding goes to the nearest neighbour, a tie to the
even one.  `BinaryFormat.round` rounds a fraction into a binary floating-point format; the
arithmetic of such a format is then exact arithmetic on fractions with one rounding at the end.
-/

namespace ScriptHost.Number

-- A power is the one by recursion on the exponent, whichever other instances are in scope.
attribute [local instance (2000)] instPowNat

/-- The natural nearest to `num / den`, a tie going to the even one. -/
def roundDiv (num den : Nat) : Nat :=
  let q := num / den
  let r := num % den
  if 2 * r < den then q
  else if den < 2 * r then q + 1
  else q + q % 2

/-- The largest natural whose square is at most `n`, found bit by bit from `2 ^ bits` down, among
those with the upper bits `root`. -/
def sqrtBits (n : Nat) : Nat → Nat → Nat
  | 0, root => root
  | bits + 1, root =>
    let next := root + 2 ^ bits
    sqrtBits n bits (if next * next ≤ n then next else root)

/-- The whole part of the square root. -/
def sqrt (n : Nat) : Nat :=
  sqrtBits n (n.log2 / 2 + 1) 0

/-- The numbers `m * 2 ^ e` with `m < 2 ^ precision` and `minExp ≤ e ≤ maxExp`. -/
structure BinaryFormat where
  precision : Nat
  minExp : Int
  maxExp : Int

namespace BinaryFormat

/-- The exponent of the last place that a nonzero fraction has in the format, were the exponents
not limited above. -/
def unitExp (f : BinaryFormat) (num den : Nat) : Int :=
  let k : Int := (num.log2 : Int) - den.log2
  let reached := if 0 ≤ k then den * 2 ^ k.toNat ≤ num else den ≤ num * 2 ^ (-k).toNat
  let lead := if reached then k else k - 1
  max f.minExp (lead - (f.precision - 1))

/-- A fraction rounded into the format, as `m` and `e`; nothing if it is too large.  The carry of a
rounding up may leave `m = 2 ^ precision`. -/
def round (f : BinaryFormat) (num den : Nat) : Option (Nat × Int) :=
  if num = 0 then some (0, f.minExp)
  else
    let e := f.unitExp num den
    let m := if 0 ≤ e then roundDiv num (den * 2 ^ e.toNat) else roundDiv (num * 2 ^ (-e).toNat) den
    if f.maxExp < e ∨ (e = f.maxExp ∧ 2 ^ f.precision ≤ m) then none else some (m, e)

end BinaryFormat

end ScriptHost.Number

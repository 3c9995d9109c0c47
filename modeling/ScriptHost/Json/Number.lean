import ScriptHost.Json.Reader
import ScriptHost.Single.Text

/-!
# What JSON numbers mean

A number without point and exponent that fits 64 bits is a whole number, except for a negative
zero.  Any other number is a fraction in double precision: its leading digits as far as they fit 64
bits, scaled by one power of ten.  Both become single-precision numbers by one more rounding.
-/

namespace ScriptHost.Json

-- A power is the one by recursion on the exponent, whichever other instances are in scope.
attribute [local instance (2000)] instPowNat

open Text Number

/-- The whole number that a number stands for, if it is one. -/
def Numeral.toInt? (n : Numeral) : Option Int :=
  if n.fraction.isSome ∨ n.exponent.isSome then none
  else
    let size := numeral 10 n.whole
    if n.negative then
      if 0 < size ∧ 2 * size ≤ UInt64.size then some (-size) else none
    else if size < UInt64.size then some size
    else none

/-- The number before and after digits were appended as long as it fits 64 bits, and the digits
that were left over. -/
def absorb (n : Nat) : List Char → Nat × List Char
  | [] => (n, [])
  | d :: ds =>
    let n' := n * 10 + digitValue d
    if n' < UInt64.size then absorb n' ds else (n, d :: ds)

end ScriptHost.Json

namespace ScriptHost.Number.Dyadic

-- A power is the one by recursion on the exponent, whichever other instances are in scope.
attribute [local instance (2000)] instPowNat

/-- A power of ten. -/
def tenTo (n : Nat) : Option Dyadic :=
  ofFraction (10 ^ n) 1

/-- Divides by powers of ten of at most 308 at a time; two such steps leave nothing. -/
def divTens (x : Dyadic) (n : Nat) : Nat → Option Dyadic
  | 0 => some ⟨0, 0⟩
  | steps + 1 => do
    if n ≤ 308 then x.div (← tenTo n)
    else
      let x ← x.div (← tenTo 308)
      if x.m = 0 then some x else x.divTens (n - 308) steps

/-- Scales by a power of ten; nothing if the result is too large. -/
def scaleTens (x : Dyadic) (e : Int) : Option Dyadic :=
  if x.m = 0 then some x
  else if e < 0 then x.divTens (-e).toNat 3
  else if e ≤ 308 then do x.mul (← tenTo e.toNat)
  else none

/-- The nearest single-precision number. -/
def toSingle (x : Dyadic) (negative : Bool) : Single :=
  if 0 ≤ x.e then Single.ofFraction negative (x.m * 2 ^ x.e.toNat) 1
  else Single.ofFraction negative x.m (2 ^ (-x.e).toNat)

end ScriptHost.Number.Dyadic

namespace ScriptHost.Json

open Text Number

/-- The fraction that a number stands for, without its sign; nothing if it is too large. -/
def Numeral.toDyadic? (n : Numeral) : Option Number.Dyadic := do
  let fraction := n.fraction.getD []
  let (size, left) := absorb 0 n.whole
  let (size, leftAfter) := absorb size fraction
  let taken := fraction.length - leftAfter.length
  let x ← Number.Dyadic.ofFraction size 1
  x.scaleTens (left.length - taken + n.exponent.getD 0)

/-- The single-precision number that a number stands for; nothing if it is too large. -/
def Numeral.toSingle? (n : Numeral) : Option Single :=
  match n.toInt? with
  | some i => some (Single.ofInt i)
  | none => n.toDyadic?.map (·.toSingle n.negative)

/-- The parts of a number that was kept as written. -/
def parseToken (token : String) : Option Numeral :=
  match readNumeral token.toList with
  | some (n, []) => some n
  | _ => none

/-- The whole number in a node. -/
def Node.int? : Node → Option Int
  | .number token => (parseToken token).bind (·.toInt?)
  | _ => none

/-- The single-precision number in a node. -/
def Node.single? : Node → Option Single
  | .number token => (parseToken token).bind (·.toSingle?)
  | _ => none

/-- The node of a single-precision number; what is not finite is nothing. -/
def Node.ofSingle (x : Single) : Node :=
  if x.isFinite then .number x.stored else .null

/-- The node of a whole number. -/
def Node.ofInt (n : Int) : Node := .number (toString n)

end ScriptHost.Json

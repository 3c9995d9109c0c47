import ScriptHost.Single
import ScriptHost.Number.Decimal

/-!
# Texts of single-precision numbers

Three layouts of the same shortest digits (diagnostic, plain and stored), and fixed places with a
least width.
-/

namespace ScriptHost.Single

open Number

/-- The numbers that round to a positive finite number: half a place to either side, a quarter
below where the places get finer, the ends included if the number is even. -/
def roundingInterval (x : Single) : Interval where
  low :=
    if x.magnitude % exponentBit = 0 ∧ 2 * exponentBit ≤ x.magnitude then 4 * x.size - x.unit
    else 4 * x.size - 2 * x.unit
  value := 4 * x.size
  high := 4 * x.size + 2 * x.unit
  den := 4 * scale
  closed := x.significand % 2 == 0

/-- The fewest digits that read back as the number. -/
def decimal (x : Single) (tie : Tie) : Decimal :=
  if x.magnitude = 0 then ⟨['0'], 1⟩ else x.roundingInterval.shortest tie

def signMark (x : Single) : String :=
  if x.isNegative then "-" else ""

/-- A number in a given layout; the exceptional numbers have names. -/
def render (x : Single) (style : Style) : String :=
  if x.isNaN then "NaN"
  else if x.isInfinite then x.signMark ++ "inf"
  else x.signMark ++ (x.decimal style.tie).render style

/-- Diagnostic texts are positional from `1e-4` up to `1e16`, with at least one place; a tie goes
up. -/
def diagnosticStyle : Style := ⟨fun point ↦ -3 ≤ point && point ≤ 16, ".0", "", .up⟩

/-- Plain texts never have an exponent, and a whole number has no point. -/
def plainStyle : Style := ⟨fun _ ↦ true, "", "", .up⟩

/-- Stored texts are positional from `1e-6` up to `1e13`, with at least one place; above, the
exponent has its sign, and a tie goes to the even digit. -/
def storedStyle : Style := ⟨fun point ↦ -5 ≤ point && point ≤ 13, ".0", "+", .toEven⟩

def diagnostic (x : Single) : String := x.render diagnosticStyle

def plain (x : Single) : String := x.render plainStyle

/-- The text of a finite number that is kept in storage. -/
def stored (x : Single) : String := x.render storedStyle

/-- A number to a count of places, padded with blanks on the left to a width. -/
def fixedWidth (x : Single) (width places : Nat) : String :=
  let text :=
    if x.isNaN then "NaN"
    else if x.isInfinite then x.signMark ++ "inf"
    else x.signMark ++ fixed x.size scale places
  String.ofList (List.replicate (width - text.length) ' ') ++ text

end ScriptHost.Single

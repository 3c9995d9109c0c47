import ScriptHost.Single.Text
import ScriptHost.Text.Blank
import ScriptHost.Text.Reader

/-!
# Numbers in scripts

How scripts turn numbers into texts and texts into numbers.
-/

namespace ScriptHost

open Text

/-- A number to so many places in a field of so many columns: at most nine places and eighteen
columns. -/
def formatFloat (x : Single) (width places : Int32) : String :=
  x.fixedWidth (min 18 width.toInt.toNat) (min 9 places.toInt.toNat)

/-- A whole number held within 32 bits. -/
def clampInt32 (n : Int) : Int32 :=
  Int32.ofInt (max Int32.minValue.toInt (min Int32.maxValue.toInt n))

/-- The most that counting up digits comes to. -/
def digitLimit : Int64 := 2147483648

/-- Counts up digits from the first on in 64 bits, and stays at the limit once it is reached. -/
def saturate (digits : List Char) : Int64 :=
  digits.foldl (fun n c ↦ min (n * 10 + Int64.ofNat (digitValue c)) digitLimit) 0

/-- The number that a text begins with, after blanks and a sign: the value of the longest run of
digits, held within 32 bits, and zero if there is none. -/
def leadingInt (text : String) : Int32 :=
  match dropBlanks text.toList with
  | '-' :: cs => clampInt32 (-saturate (cs.takeWhile isDecimalDigit)).toInt
  | '+' :: cs => clampInt32 (saturate (cs.takeWhile isDecimalDigit)).toInt
  | cs => clampInt32 (saturate (cs.takeWhile isDecimalDigit)).toInt

/-- The length of a text in characters, held within 32 bits. -/
def stringLength (text : String) : Int32 :=
  clampInt32 text.length

end ScriptHost

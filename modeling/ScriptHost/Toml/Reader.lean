import ScriptHost.Text.Reader
import ScriptHost.Toml.Value

/-!
# Reading documents of settings

The grammar of TOML 1.0.  A document is a sequence of lines: settings, headers and comments.
`read?` gives the table that they describe.
-/

namespace ScriptHost.Toml

-- A power is the one by recursion on the exponent, whichever other instances are in scope.
attribute [local instance (2000)] instPowNat

open Text Text.Reader

/-! ## Blanks, comments and line ends -/

def isBlank (c : Char) : Bool :=
  c == ' ' || c == '\t'

/-- Characters that may stand in a comment. -/
def isPlain (c : Char) : Bool :=
  c == '\t' || (0x20 ≤ c.toNat && c.toNat != 0x7f)

def blanks : Reader Unit := do
  let _ ← span isBlank

def lineEnd : Reader Unit :=
  char '\n' <|> literal "\r\n"

def comment : Reader Unit := do
  char '#'
  let _ ← span isPlain

/-- What may follow on the line of a setting or a header. -/
def lineRest : Reader Unit := do
  blanks
  let _ ← maybe comment
  lineEnd <|> atEnd

/-- Blanks, line ends and comments between the items of an array. -/
def gap : Reader Unit := do
  let _ ← many ((do let _ ← satisfy isBlank) <|> lineEnd <|> comment)

/-! ## Strings -/

/-- Characters that stand for themselves between double quotes. -/
def isBasic (c : Char) : Bool :=
  isPlain c && c != '"' && c != '\\'

/-- Characters that stand for themselves between apostrophes. -/
def isLiteral (c : Char) : Bool :=
  isPlain c && c != '\''

/-- The character with a number, if there is one. -/
def scalar (n : Nat) : Reader Char :=
  if n.isValidChar then pure (Char.ofNat n) else fail

def escape : Reader Char := do
  char '\\'
  match ← satisfy fun _ ↦ true with
  | 'b' => return '\x08'
  | 't' => return '\t'
  | 'n' => return '\n'
  | 'f' => return '\x0c'
  | 'r' => return '\r'
  | '"' => return '"'
  | '\\' => return '\\'
  | 'u' => scalar (numeral 16 (← exactly (satisfy isHexDigit) 4))
  | 'U' => scalar (numeral 16 (← exactly (satisfy isHexDigit) 8))
  | _ => fail

def basicString : Reader String := do
  char '"'
  let cs ← many (satisfy isBasic <|> escape)
  char '"'
  return String.ofList cs

def literalString : Reader String := do
  char '\''
  let cs ← span isLiteral
  char '\''
  return String.ofList cs

/-- A backslash at the end of a line takes the blanks and line ends that follow with it. -/
def continuation : Reader (List Char) := do
  char '\\'
  blanks
  lineEnd
  let _ ← many ((do let _ ← satisfy isBlank) <|> lineEnd)
  return []

/-- One or two quotes that do not begin a closing mark. -/
def innerQuotes (quote : Char) : Reader (List Char) := do
  let quotes ← span (· == quote)
  if quotes.isEmpty || 3 ≤ quotes.length then fail else return quotes

/-- The closing mark of three quotes, with up to two more that belong to the content. -/
def closingQuotes (quote : Char) : Reader (List Char) := do
  let quotes ← span (· == quote)
  if 3 ≤ quotes.length && quotes.length ≤ 5 then return quotes.drop 3 else fail

def single (r : Reader Char) : Reader (List Char) := do
  return [← r]

def newline : Reader (List Char) := do
  lineEnd
  return ['\n']

def longString (quote : Char) (piece : Reader (List Char)) : Reader String := do
  literal (String.ofList [quote, quote, quote])
  let _ ← maybe lineEnd
  let pieces ← many (piece <|> newline <|> innerQuotes quote)
  let more ← closingQuotes quote
  return String.ofList (pieces.flatten ++ more)

def anyString : Reader String :=
  longString '"' (single (satisfy isBasic) <|> continuation <|> single escape) <|>
    basicString <|> longString '\'' (single (satisfy isLiteral)) <|> literalString

/-! ## Names -/

def isBare (c : Char) : Bool :=
  c.isAlphanum || c == '_' || c == '-'

def bareName : Reader String := do
  let first ← satisfy isBare
  let rest ← span isBare
  return String.ofList (first :: rest)

/-- The most steps that a dotted name may have, and the most levels that values may have. -/
def maxDepth : Nat := 79

/-- A dotted name: the steps before the last, and the last. -/
def dottedName : Reader (List String × String) := do
  let part : Reader String := do
    blanks
    let name ← basicString <|> literalString <|> bareName
    blanks
    return name
  let parts ← separated part (char '.')
  if maxDepth < parts.length then fail
  else
    match parts.getLast? with
    | none => fail
    | some last => return (parts.dropLast, last)

/-! ## Numbers and dates -/

def sign : Reader (Option Char) :=
  maybe (satisfy fun c ↦ c == '+' || c == '-')

/-- Digits, with single underscores between them. -/
def digitRun (p : Char → Bool) : Reader (List Char) := do
  let first ← satisfy p
  let rest ← many (satisfy p <|> do char '_'; satisfy p)
  return first :: rest

/-- Decimal digits without leading zeros. -/
def wholeDigits : Reader (List Char) := fun cs ↦
  match digitRun isDecimalDigit cs with
  | none => none
  | some ('0' :: _, _) => ((char '0' : Reader Unit) cs).map fun (_, rest) ↦ (['0'], rest)
  | some r => some r

/-- Whether a number has a place among the integers of 64 bits. -/
def inRange (n : Int) : Bool :=
  Int64.minValue.toInt ≤ n && n ≤ Int64.maxValue.toInt

def integer : Reader Int := do
  let n : Int ←
    (do literal "0x"; return (numeral 16 (← digitRun isHexDigit) : Int)) <|>
    (do literal "0o"; return (numeral 8 (← digitRun fun c ↦ '0' ≤ c && c ≤ '7') : Int)) <|>
    (do literal "0b"; return (numeral 2 (← digitRun fun c ↦ c == '0' || c == '1') : Int)) <|>
    (do
      let s ← sign
      let n := numeral 10 (← wholeDigits)
      return if s = some '-' then -(n : Int) else n)
  if inRange n then return n else fail

/-- The least number that rounds to infinity in 64 bits: half a last place above the largest one. -/
def floatLimit : Nat :=
  (2 ^ (54 : Nat) - 1) * 2 ^ (970 : Nat)

/-- Whether `digits * 10 ^ exponent` is too large for a floating number of 64 bits. -/
def overflows (digits : Nat) (exponent : Int) : Bool :=
  let places : Int := (Nat.toDigits 10 digits).length + exponent
  if digits = 0 ∨ places < 300 then false
  else if 310 < places then true
  else
    if 0 ≤ exponent then floatLimit ≤ digits * 10 ^ exponent.toNat
    else floatLimit * 10 ^ (-exponent).toNat ≤ digits

def exponent : Reader Int := do
  let _ ← satisfy fun c ↦ c == 'e' || c == 'E'
  let s ← sign
  let n := numeral 10 (← digitRun isDecimalDigit)
  return if s = some '-' then -(n : Int) else n

/-- A floating number.  Positive numbers that are too large are refused. -/
def float : Reader Unit :=
  (do
    let s ← sign
    let whole ← wholeDigits
    let fraction ← maybe (do char '.'; digitRun isDecimalDigit)
    let e : Int ← if fraction.isSome then (·.getD 0) <$> maybe exponent else exponent
    let places := fraction.getD []
    if s ≠ some '-' ∧ overflows (numeral 10 (whole ++ places)) (e - places.length) then fail) <|>
  (do
    let _ ← sign
    literal "inf" <|> literal "nan")

/-- A number of so many digits, within bounds. -/
def field (digits low high : Nat) : Reader Nat := do
  let n := numeral 10 (← exactly (satisfy isDecimalDigit) digits)
  if low ≤ n ∧ n ≤ high then return n else fail

/-- The days of a month. -/
def monthLength (year month : Nat) : Nat :=
  if month = 2 then
    if year % 4 = 0 ∧ (year % 100 ≠ 0 ∨ year % 400 = 0) then 29 else 28
  else if month = 4 ∨ month = 6 ∨ month = 9 ∨ month = 11 then 30
  else 31

def date : Reader Unit := do
  let year ← field 4 0 9999
  char '-'
  let month ← field 2 1 12
  char '-'
  let _ ← field 2 1 (monthLength year month)

def time : Reader Unit := do
  let _ ← field 2 0 23
  char ':'
  let _ ← field 2 0 59
  char ':'
  let _ ← field 2 0 60
  let _ ← maybe do
    char '.'
    let _ ← satisfy isDecimalDigit
    span isDecimalDigit

def offset : Reader Unit :=
  (do let _ ← satisfy fun c ↦ c == 'Z' || c == 'z') <|> do
    let _ ← satisfy fun c ↦ c == '+' || c == '-'
    let _ ← field 2 0 23
    char ':'
    let _ ← field 2 0 59

def datetime : Reader Unit :=
  (do
    date
    let _ ← maybe do
      let _ ← satisfy fun c ↦ c == 'T' || c == 't' || c == ' '
      time
      maybe offset) <|> time

/-- The text that a reader takes. -/
def taken (r : Reader Unit) : Reader String := fun cs ↦
  (r cs).map fun (_, rest) ↦ (String.ofList (cs.take (cs.length - rest.length)), rest)

/-! ## Values -/

def setting (value : Reader Value) : Reader ((List String × String) × Value) := do
  let name ← dottedName
  char '='
  blanks
  let v ← value
  return (name, v)

def array (value : Reader Value) : Reader Value := do
  char '['
  let items ← separated (do gap; let v ← value; gap; return v) (char ',')
  let _ ← if items.isEmpty then pure none else maybe (char ',')
  gap
  char ']'
  return .array items

def inlineTable (value : Reader Value) : Reader Value := do
  char '\x7b'
  let settings ← separated (do let s ← setting value; blanks; return s) (char ',')
  blanks
  char '\x7d'
  match settings.foldlM (fun t ((path, name), v) ↦ t.define path name v) (Table.empty .inline) with
  | some t => return .table t
  | none => fail

/-- A value of at most so many levels. -/
def value : Nat → Reader Value
  | 0 => scalarValue
  | depth + 1 => array (value depth) <|> inlineTable (value depth) <|> scalarValue
where
  scalarValue : Reader Value :=
    (do return .string (← anyString)) <|>
    (do return .datetime (← taken datetime)) <|>
    (do return .float (← taken float)) <|>
    (do return .integer (← integer)) <|>
    (do literal "true"; return .boolean true) <|>
    (do literal "false"; return .boolean false)

/-! ## Documents -/

/-- A line of a document. -/
inductive Line where
  | empty
  | header (path : List String) (name : String)
  | repeatedHeader (path : List String) (name : String)
  | setting (path : List String) (name : String) (v : Value)

def line : Reader Line := do
  blanks
  match ← peek with
  | none => fail
  | some '\n' | some '\r' => lineEnd; return .empty
  | some '#' => lineRest; return .empty
  | some '[' =>
    let (path, name, isRepeated) ←
      (do
        literal "[["
        let (path, name) ← dottedName
        literal "]]"
        return (path, name, true)) <|>
      (do
        char '['
        let (path, name) ← dottedName
        char ']'
        return (path, name, false))
    lineRest
    return if isRepeated then .repeatedHeader path name else .header path name
  | some _ =>
    let ((path, name), v) ← setting (value maxDepth)
    lineRest
    return .setting path name v

/-- The lines of a document, which may begin with a byte order mark. -/
def document : Reader (List Line) := do
  let _ ← maybe (char '\ufeff')
  let lines ← many line
  blanks
  atEnd
  return lines

/-- The root table and the header in force, after one more line. -/
def applyLine : Table × List String → Line → Option (Table × List String)
  | state, .empty => some state
  | (root, _), .header path name => do
    let root ← root.openTable path name
    some (root, path ++ [name])
  | (root, _), .repeatedHeader path name => do
    let root ← root.openRepeated path name
    some (root, path ++ [name])
  | (root, header), .setting path name v => do
    let root ← root.defineUnder header path name v
    some (root, header)

/-- The table that a document describes. -/
def read? (text : String) : Option Table := do
  let lines ← document.run text
  let (root, _) ← lines.foldlM applyLine (Table.empty .header, [])
  return root

end ScriptHost.Toml

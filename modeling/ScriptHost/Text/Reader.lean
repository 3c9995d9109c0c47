/-!
# Reading text

A `Reader` takes something off the front of a text, or fails.  Alternatives start over from the
same place.
-/

namespace ScriptHost.Text

/-- Takes an `α` off the front of a text. -/
abbrev Reader := StateT (List Char) Option

namespace Reader

variable {α : Type}

def fail : Reader α := fun _ ↦ none

/-- The next character, left where it is. -/
def peek : Reader (Option Char) := fun cs ↦ some (cs.head?, cs)

/-- The next character, if it passes a test. -/
def satisfy (p : Char → Bool) : Reader Char
  | [] => none
  | c :: cs => if p c then some (c, cs) else none

def char (c : Char) : Reader Unit := do
  let _ ← satisfy (· == c)

/-- The longest run of characters that pass a test. -/
def span (p : Char → Bool) : Reader (List Char) := fun cs ↦
  some (cs.takeWhile p, cs.dropWhile p)

/-- A fixed text. -/
def literal (s : String) : Reader Unit := fun cs ↦
  if s.toList.isPrefixOf cs then some ((), cs.drop s.toList.length) else none

/-- The end of the text. -/
def atEnd : Reader Unit := fun cs ↦
  if cs.isEmpty then some ((), cs) else none

def maybe (r : Reader α) : Reader (Option α) := fun cs ↦
  match r cs with
  | some (a, rest) => some (some a, rest)
  | none => some (none, cs)

/-- As many as there are, at most `limit`. -/
def upTo (r : Reader α) : Nat → Reader (List α)
  | 0 => fun cs ↦ some ([], cs)
  | limit + 1 => fun cs ↦
    match r cs with
    | none => some ([], cs)
    | some (a, rest) => (upTo r limit rest).map fun (as, rest) ↦ (a :: as, rest)

/-- As many as there are; each takes at least one character. -/
def many (r : Reader α) : Reader (List α) := fun cs ↦ upTo r cs.length cs

/-- So many, one after the other. -/
def exactly (r : Reader α) : Nat → Reader (List α)
  | 0 => pure []
  | n + 1 => do
    let a ← r
    let as ← exactly r n
    return a :: as

/-- Items with a separator between each two. -/
def separated (item : Reader α) (separator : Reader Unit) : Reader (List α) := do
  match ← maybe item with
  | none => return []
  | some first =>
    let rest ← many do
      separator
      item
    return first :: rest

/-- The whole text. -/
def run (r : Reader α) (text : String) : Option α :=
  match r text.toList with
  | some (a, []) => some a
  | _ => none

end Reader

/-- The value of a digit in a base up to sixteen. -/
def digitValue (c : Char) : Nat :=
  if '0' ≤ c ∧ c ≤ '9' then c.toNat - '0'.toNat
  else if 'a' ≤ c ∧ c ≤ 'f' then c.toNat - 'a'.toNat + 10
  else c.toNat - 'A'.toNat + 10

def isDecimalDigit (c : Char) : Bool :=
  '0' ≤ c && c ≤ '9'

def isHexDigit (c : Char) : Bool :=
  isDecimalDigit c || ('a' ≤ c && c ≤ 'f') || ('A' ≤ c && c ≤ 'F')

/-- The number that digits stand for. -/
def numeral (base : Nat) (digits : List Char) : Nat :=
  digits.foldl (fun n c ↦ n * base + digitValue c) 0

end ScriptHost.Text

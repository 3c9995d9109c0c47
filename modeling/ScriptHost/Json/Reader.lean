import ScriptHost.Json.Node
import ScriptHost.Text.Reader

/-!
# Reading JSON texts

`read?` gives the tree of a text that follows the grammar of JSON from end to end.
-/

namespace ScriptHost.Json

open Text

def isBlank (c : Char) : Bool :=
  c == ' ' || c == '\n' || c == '\t' || c == '\r'

def skipBlanks (cs : List Char) : List Char :=
  cs.dropWhile isBlank

/-! ## Strings -/

/-- A piece of a string: a character, or a code unit that was given by number. -/
inductive Piece where
  | char (c : Char)
  | unit (n : Nat)

/-- The character of an escape by letter. -/
def letterEscape : Char → Option Char
  | '"' => some '"'
  | '\\' => some '\\'
  | '/' => some '/'
  | 'b' => some '\x08'
  | 'f' => some '\x0c'
  | 'n' => some '\n'
  | 'r' => some '\r'
  | 't' => some '\t'
  | _ => none

/-- The pieces of a string after its opening quote, and what follows its closing quote. -/
def readPieces : List Char → Option (List Piece × List Char)
  | [] => none
  | '"' :: rest => some ([], rest)
  | '\\' :: 'u' :: a :: b :: c :: d :: rest =>
    if [a, b, c, d].all isHexDigit then
      (readPieces rest).map fun (ps, rest) ↦ (.unit (numeral 16 [a, b, c, d]) :: ps, rest)
    else none
  | '\\' :: e :: rest =>
    match letterEscape e with
    | some c => (readPieces rest).map fun (ps, rest) ↦ (.char c :: ps, rest)
    | none => none
  | c :: rest =>
    if c.toNat < 0x20 then none
    else (readPieces rest).map fun (ps, rest) ↦ (.char c :: ps, rest)

/-- The text of pieces: a leading and a trailing surrogate together are one character, and half of
such a pair is none. -/
def joinPieces : List Piece → Option (List Char)
  | [] => some []
  | .char c :: rest => (joinPieces rest).map (c :: ·)
  | .unit lead :: .unit trail :: rest =>
    if 0xd800 ≤ lead ∧ lead < 0xdc00 then
      if 0xdc00 ≤ trail ∧ trail < 0xe000 then
        (joinPieces rest).map
          (Char.ofNat (0x10000 + (lead - 0xd800) * 0x400 + (trail - 0xdc00)) :: ·)
      else none
    else if 0xdc00 ≤ lead ∧ lead < 0xe000 then none
    else (joinPieces (.unit trail :: rest)).map (Char.ofNat lead :: ·)
  | .unit n :: rest =>
    if 0xd800 ≤ n ∧ n < 0xe000 then none else (joinPieces rest).map (Char.ofNat n :: ·)

/-- A string after its opening quote. -/
def readString (cs : List Char) : Option (Option String × List Char) :=
  (readPieces cs).map fun (ps, rest) ↦ ((joinPieces ps).map String.ofList, rest)

/-! ## Numbers -/

/-- The parts of a number as written. -/
structure Numeral where
  negative : Bool
  whole : List Char
  /-- The digits after the point. -/
  fraction : Option (List Char)
  exponent : Option Int
  deriving DecidableEq

/-- At least one decimal digit. -/
def digits1 (cs : List Char) : Option (List Char × List Char) :=
  match cs.takeWhile isDecimalDigit with
  | [] => none
  | ds => some (ds, cs.dropWhile isDecimalDigit)

/-- Digits without leading zeros. -/
def wholePart : List Char → Option (List Char × List Char)
  | '0' :: rest => if rest.head?.any isDecimalDigit then none else some (['0'], rest)
  | cs => digits1 cs

def fractionPart : List Char → Option (Option (List Char) × List Char)
  | '.' :: rest => (digits1 rest).map fun (ds, rest) ↦ (some ds, rest)
  | cs => some (none, cs)

def exponentPart : List Char → Option (Option Int × List Char)
  | [] => some (none, [])
  | c :: rest =>
    if c = 'e' ∨ c = 'E' then
      match rest with
      | '+' :: rest => (digits1 rest).map fun (ds, rest) ↦ (some (numeral 10 ds : Int), rest)
      | '-' :: rest => (digits1 rest).map fun (ds, rest) ↦ (some (-(numeral 10 ds : Int)), rest)
      | rest => (digits1 rest).map fun (ds, rest) ↦ (some (numeral 10 ds : Int), rest)
    else some (none, c :: rest)

/-- A number on the front of a text. -/
def readNumeral (cs : List Char) : Option (Numeral × List Char) := do
  let negative := cs.head? == some '-'
  let (whole, cs) ← wholePart (if negative then cs.drop 1 else cs)
  let (fraction, cs) ← fractionPart cs
  let (exponent, cs) ← exponentPart cs
  return (⟨negative, whole, fraction, exponent⟩, cs)

/-- A number on the front of a text, as written. -/
def readToken (cs : List Char) : Option (String × List Char) :=
  (readNumeral cs).map fun (_, rest) ↦ (String.ofList (cs.take (cs.length - rest.length)), rest)

/-! ## Trees -/

mutual

/-- A tree on the front of a text.  Reading goes down at most two levels for each character, so
that `limit` is never reached from `read?`. -/
def readNode : Nat → List Char → Option (Node × List Char)
  | 0, _ => none
  | limit + 1, cs =>
    match skipBlanks cs with
    | '"' :: rest => (readString rest).map fun (s, rest) ↦ (.text s, rest)
    | '[' :: rest =>
      match skipBlanks rest with
      | ']' :: rest => some (.list [], rest)
      | rest => (readItems limit rest).map fun (ns, rest) ↦ (.list ns, rest)
    | '\x7b' :: rest =>
      match skipBlanks rest with
      | '\x7d' :: rest => some (.object [], rest)
      | rest => (readMembers limit rest).map fun (ms, rest) ↦ (.object ms, rest)
    | 'n' :: 'u' :: 'l' :: 'l' :: rest => some (.null, rest)
    | 't' :: 'r' :: 'u' :: 'e' :: rest => some (.bool true, rest)
    | 'f' :: 'a' :: 'l' :: 's' :: 'e' :: rest => some (.bool false, rest)
    | cs => (readToken cs).map fun (token, rest) ↦ (.number token, rest)

/-- The items of a list up to its end. -/
def readItems : Nat → List Char → Option (List Node × List Char)
  | 0, _ => none
  | limit + 1, cs =>
    match readNode limit cs with
    | none => none
    | some (n, rest) =>
      match skipBlanks rest with
      | ',' :: rest => (readItems limit rest).map fun (ns, rest) ↦ (n :: ns, rest)
      | ']' :: rest => some ([n], rest)
      | _ => none

/-- The members of an object up to its end. -/
def readMembers : Nat → List Char → Option (List (Option String × Node) × List Char)
  | 0, _ => none
  | limit + 1, cs =>
    match skipBlanks cs with
    | '"' :: rest =>
      match readString rest with
      | none => none
      | some (name, rest) =>
        match skipBlanks rest with
        | ':' :: rest =>
          match readNode limit rest with
          | none => none
          | some (n, rest) =>
            match skipBlanks rest with
            | ',' :: rest => (readMembers limit rest).map fun (ms, rest) ↦ ((name, n) :: ms, rest)
            | '\x7d' :: rest => some ([(name, n)], rest)
            | _ => none
        | _ => none
    | _ => none

end

/-- The tree of a text. -/
def read? (text : String) : Option Node :=
  let cs := text.toList
  match readNode (2 * cs.length + 2) cs with
  | some (n, rest) => if (skipBlanks rest).isEmpty then some n else none
  | none => none

end ScriptHost.Json

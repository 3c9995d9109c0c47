import ScriptHost.Text.Quoted

/-!
# JSON texts as trees

A `Node` is the content of a JSON text.  Numbers are kept as written, because what a number means
depends on what is to be read from it.  A string may hold half of a surrogate pair; then it is no
text, and such a string may only stand where it is passed over.
-/

namespace ScriptHost.Json

/-- The content of a JSON text. -/
inductive Node where
  | null
  | bool (b : Bool)
  | number (token : String)
  /-- A string, if it is a text. -/
  | text (s : Option String)
  | list (items : List Node)
  /-- An object, its members in the order of the text. -/
  | object (members : List (Option String × Node))

namespace Node

/-- A text node. -/
def ofString (s : String) : Node := .text (some s)

/-- An object node. -/
def ofMembers (members : List (String × Node)) : Node :=
  .object (members.map fun (name, n) ↦ (some name, n))

end Node

/-! ## Writing -/

/-- A number in hexadecimal, padded with zeros to four digits. -/
def hex4 (n : Nat) : String :=
  let digits := Nat.toDigits 16 n
  String.ofList (List.replicate (4 - digits.length) '0' ++ digits)

/-- One character as it stands in a string: only quotes, backslashes and control characters are
escaped. -/
def escapeChar (c : Char) : String :=
  if c = '"' then "\\\""
  else if c = '\\' then "\\\\"
  else if c = '\x08' then "\\b"
  else if c = '\x0c' then "\\f"
  else if c = '\n' then "\\n"
  else if c = '\r' then "\\r"
  else if c = '\t' then "\\t"
  else if c.toNat < 0x20 then "\\u" ++ hex4 c.toNat
  else String.singleton c

def writeString (s : String) : String :=
  "\"" ++ String.join (s.toList.map escapeChar) ++ "\""

mutual

/-- The text of a tree, without blanks. -/
def Node.write : Node → String
  | .null => "null"
  | .bool b => if b then "true" else "false"
  | .number token => token
  | .text s => writeString (s.getD "")
  | .list items => "[" ++ String.intercalate "," (writeItems items) ++ "]"
  | .object members => "\x7b" ++ String.intercalate "," (writeMembers members) ++ "\x7d"

def writeItems : List Node → List String
  | [] => []
  | n :: ns => n.write :: writeItems ns

def writeMembers : List (Option String × Node) → List String
  | [] => []
  | (name, n) :: rest => (writeString (name.getD "") ++ ":" ++ n.write) :: writeMembers rest

end

end ScriptHost.Json

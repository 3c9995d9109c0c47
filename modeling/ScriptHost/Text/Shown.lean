/-!
# The layout of diagnostic texts

Diagnostic texts show a value by its constructor: `Name { field: text, … }` for a record,
`Name(text)` for a wrapped value, `[a, b]` for a list, `{k: v}` for a map and `(a, b)` for a pair.
The functions here arrange texts that are already rendered.
-/

namespace ScriptHost.Text

/-- Texts between two marks, separated by commas. -/
def enclosed (open_ close : String) (parts : List String) : String :=
  open_ ++ String.intercalate ", " parts ++ close

def shownList (parts : List String) : String :=
  enclosed "[" "]" parts

def shownPair (a b : String) : String :=
  enclosed "(" ")" [a, b]

def shownWrapped (name content : String) : String :=
  name ++ "(" ++ content ++ ")"

/-- A record with at least one field. -/
def shownRecord (name : String) (fields : List (String × String)) : String :=
  name ++ enclosed " \x7b " " \x7d" (fields.map fun (field, text) ↦ field ++ ": " ++ text)

def shownMap (entries : List (String × String)) : String :=
  enclosed "\x7b" "\x7d" (entries.map fun (key, text) ↦ key ++ ": " ++ text)

def shownOption : Option String → String
  | none => "None"
  | some text => shownWrapped "Some" text

def shownFlag (b : Bool) : String :=
  if b then "true" else "false"

end ScriptHost.Text

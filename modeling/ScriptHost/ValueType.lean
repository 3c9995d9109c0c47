/-!
# The types of script values

Five kinds of engine structure are values whose content only the engine reads; the other types are
those that scripts compute with.
-/

namespace ScriptHost

/-- The kinds of engine structure. -/
inductive EngineKind where
  | effect
  | event
  | location
  | talent
  | itemProperty
  deriving DecidableEq, Inhabited

namespace EngineKind

/-- All kinds, in the order of their numbers. -/
def all : List EngineKind := [effect, event, location, talent, itemProperty]

def number : EngineKind → Nat
  | effect => 0
  | event => 1
  | location => 2
  | talent => 3
  | itemProperty => 4

def ofNumber? (n : Nat) : Option EngineKind :=
  all.find? (·.number == n)

/-- The name that scripts use. -/
def name : EngineKind → String
  | effect => "effect"
  | event => "event"
  | location => "location"
  | talent => "talent"
  | itemProperty => "itemproperty"

/-- The name in diagnostic and stored texts. -/
def title : EngineKind → String
  | effect => "Effect"
  | event => "Event"
  | location => "Location"
  | talent => "Talent"
  | itemProperty => "ItemProperty"

def ofTitle? (s : String) : Option EngineKind :=
  all.find? (·.title == s)

end EngineKind

/-- The types of script values.  A captured script state has the type `action`. -/
inductive ValueType where
  | void
  | int
  | float
  | string
  | object
  | vector
  | engine (kind : EngineKind)
  | action
  deriving DecidableEq, Inhabited

namespace ValueType

/-- The name that scripts use. -/
def name : ValueType → String
  | void => "void"
  | int => "int"
  | float => "float"
  | string => "string"
  | object => "object"
  | vector => "vector"
  | engine kind => kind.name
  | action => "action"

/-- The name in diagnostic texts. -/
def title : ValueType → String
  | void => "Void"
  | int => "Int"
  | float => "Float"
  | string => "String"
  | object => "Object"
  | vector => "Vector"
  | engine kind => "Engine(" ++ kind.title ++ ")"
  | action => "ScriptState"

end ValueType

end ScriptHost

import ScriptHost.Text.Quoted
import ScriptHost.Value

/-!
# Texts of script values

`text` is the short form in descriptions of calls, in which the content of engine structures and
actions is left out; `diagnostic` shows everything.
-/

namespace ScriptHost

open Text

namespace Value

/-- The short form. -/
def text : Value → String
  | void => "void"
  | int n => toString n.toInt
  | float x => x.diagnostic
  | string s => quoted s
  | object id => id.text
  | vector v => v.text
  | engine kind _ => "<" ++ kind.name ++ ">"
  | action .. => "<action>"

/-- The layout of a captured state whose values are already rendered. -/
def stateText (offset : UInt32) (globals locals : List String) : String :=
  shownRecord "ScriptState"
    [("offset", toString offset.toNat), ("globals", shownList globals),
      ("locals", shownList locals)]

mutual

/-- The full form. -/
def diagnostic : Value → String
  | void => "Void"
  | int n => shownWrapped "Int" (toString n.toInt)
  | float x => shownWrapped "Float" x.diagnostic
  | string s => shownWrapped "String" (quoted s)
  | object id => shownWrapped "Object" id.text
  | vector v => shownWrapped "Vector" v.diagnostic
  | engine kind payload =>
    shownWrapped "Engine"
      (shownRecord "EngineType"
        [("kind", kind.title), ("payload", shownList (diagnostics payload))])
  | action offset globals locals =>
    shownWrapped "ScriptState" (stateText offset (diagnostics globals) (diagnostics locals))

def diagnostics : List Value → List String
  | [] => []
  | v :: vs => diagnostic v :: diagnostics vs

end

end Value

def ScriptState.diagnostic (s : ScriptState) : String :=
  Value.stateText s.offset (Value.diagnostics s.globals) (Value.diagnostics s.locals)

end ScriptHost

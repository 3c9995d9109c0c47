import ScriptHost.Function.Signature
import ScriptHost.Script

/-!
# One call of an engine function

A `CallContext` is what a native sees of its call: the parameters, omitted ones filled from the
defaults, how many were given, the slot for the result, and where the call comes from.
-/

namespace ScriptHost

open Text

/-- Where a call comes from: the object that the calling script belongs to, the object that set it
off, and the script itself if there is one. -/
structure CallSite where
  caller : ObjectId
  triggerer : ObjectId
  script : Option Script

/-- A call from nowhere. -/
def CallSite.none : CallSite := ⟨.invalid, .invalid, Option.none⟩

instance : Inhabited CallSite := ⟨.none⟩

/-- One call of an engine function. -/
structure CallContext where
  id : FunctionId
  name : String
  signature : Signature
  defaults : List Value
  params : List Value
  /-- How many of the parameters the caller gave. -/
  specified : Nat
  returnValue : Value
  site : CallSite

namespace CallContext

/-- Whether a function takes so many arguments. -/
def checkCount (name : String) (min max supplied : Nat) : Except DispatchError Unit :=
  if supplied < min then .error (.tooFewArguments name min supplied)
  else if max < supplied then .error (.tooManyArguments name max supplied)
  else .ok ()

/-- The context of a call with the given arguments: their count is checked first, then their types
from the first on, and what is left out comes from the defaults. -/
def make {η : Type} (f : FunctionDef η) (args : List Value) (site : CallSite) :
    Except DispatchError CallContext :=
  match checkCount f.name f.minCount f.maxCount args.length with
  | .error e => .error e
  | .ok () =>
    match firstMismatch args f.signature.params 0 with
    | some (index, expected, actual) =>
      .error (.argumentTypeMismatch f.name index expected actual)
    | none =>
      .ok {
        id := f.id
        name := f.name
        signature := f.signature
        defaults := f.defaults
        params := f.fill args
        specified := args.length
        returnValue := .zero f.signature.returnType
        site := site }

def minCount (ctx : CallContext) : Nat :=
  ctx.signature.minCount ctx.defaults

def maxCount (ctx : CallContext) : Nat :=
  ctx.signature.count

/-- Sets how many parameters count as given by the caller. -/
def setSpecified (ctx : CallContext) (count : Nat) : Except DispatchError CallContext :=
  match checkCount ctx.name ctx.minCount ctx.maxCount count with
  | .error e => .error e
  | .ok () => .ok { ctx with specified := count }

def isSpecified (ctx : CallContext) (index : Nat) : Bool :=
  index < ctx.specified

/-! ## Parameters and result -/

def param (ctx : CallContext) (index : Nat) : Except NativeError Value :=
  match ctx.params[index]? with
  | some v => .ok v
  | none => .error (.argumentOutOfBounds index ctx.params.length)

/-- A parameter, read as one type. -/
def arg {α : Type} (ctx : CallContext) (read : Value → Except TypeMismatch α) (index : Nat) :
    Except NativeError α :=
  match ctx.param index with
  | .error e => .error e
  | .ok v => (read v).mapError .conversion

/-- Overwrites a parameter; nothing happens past the last one. -/
def setParam (ctx : CallContext) (index : Nat) (v : Value) : CallContext :=
  { ctx with params := ctx.params.set index v }

def setReturn (ctx : CallContext) (v : Value) : CallContext :=
  { ctx with returnValue := v }

/-! ## Call site -/

def caller (ctx : CallContext) : ObjectId :=
  ctx.site.caller

def triggerer (ctx : CallContext) : ObjectId :=
  ctx.site.triggerer

def setCaller (ctx : CallContext) (id : ObjectId) : CallContext :=
  { ctx with site.caller := id }

def setTriggerer (ctx : CallContext) (id : ObjectId) : CallContext :=
  { ctx with site.triggerer := id }

def clearScript (ctx : CallContext) : CallContext :=
  { ctx with site.script := none }

/-- The name of the calling script, empty if there is none. -/
def scriptName (ctx : CallContext) : String :=
  (ctx.site.script.map (·.name)).getD ""

/-- The name of the calling script, which has to be there. -/
def requireScriptName (ctx : CallContext) : Except NativeError String :=
  if ctx.scriptName = "" then .error (.missingScriptName ctx.name) else .ok ctx.scriptName

/-! ## Texts -/

/-- The call as it would be written in a script. -/
def describe (ctx : CallContext) : String :=
  ctx.name ++ enclosed "(" ")" (ctx.params.map (·.text))

/-- What is reported about a call of a function that is not implemented. -/
def unimplementedText (ctx : CallContext) : String :=
  "TODO: " ++ ctx.signature.returnType.name ++ " " ++ ctx.describe

def diagnostic (ctx : CallContext) : String :=
  shownRecord "FunctionContext"
    [("id", shownWrapped "FunctionId" ctx.id.text), ("name", quoted ctx.name),
      ("params", shownList (Value.diagnostics ctx.params)),
      ("params_specified", toString ctx.specified), ("caller", ctx.caller.text),
      ("triggerer", ctx.triggerer.text), ("script", quoted ctx.scriptName)]

end CallContext

end ScriptHost

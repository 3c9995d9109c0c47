import ScriptHost.Value

/-!
# What can go wrong

Four kinds of failure: an entry of a function table is malformed (`RegistrationError`), a call does
not keep to the signature of a function (`DispatchError`), the native behind a function fails
(`NativeError`), and loading or running a script fails (`ScriptError`).  The last three contain one
another.  An object that is missing is not a failure anywhere: it reads as no object.
-/

namespace ScriptHost

/-- The number under which an engine function is called. -/
structure FunctionId where
  val : UInt32
  deriving DecidableEq, Inhabited

namespace FunctionId

instance : Ord FunctionId := ⟨compareOn FunctionId.val⟩

instance : Std.TransOrd FunctionId := inferInstanceAs (Std.TransCmp (compareOn FunctionId.val))

instance : Std.LawfulEqOrd FunctionId where
  eq_of_compare {a b} h := by
    have hval : compare a.val b.val = .eq := h
    cases a; cases b; simpa using hval

def text (id : FunctionId) : String :=
  toString id.val.toNat

end FunctionId

/-- Why an entry is refused by a function table. -/
inductive RegistrationError where
  | duplicateId (id : FunctionId) (name existing : String)
  | duplicateName (name : String)
  | tooManyDefaults (name : String) (params defaults : Nat)
  | defaultTypeMismatch (name : String) (index : Nat) (expected actual : ValueType)
  | voidParameter (name : String) (index : Nat)
  deriving DecidableEq

def RegistrationError.message : RegistrationError → String
  | duplicateId id name existing =>
    "function id " ++ id.text ++ " registered for '" ++ name ++ "' is already bound to '" ++
      existing ++ "'"
  | duplicateName name => "function name '" ++ name ++ "' is already registered"
  | tooManyDefaults name params defaults =>
    "function '" ++ name ++ "' declares " ++ toString defaults ++ " defaults for " ++
      toString params ++ " parameters"
  | defaultTypeMismatch name index expected actual =>
    "function '" ++ name ++ "': default for parameter " ++ toString index ++ " is " ++
      actual.name ++ ", expected " ++ expected.name
  | voidParameter name index =>
    "function '" ++ name ++ "': parameter " ++ toString index ++ " cannot be void"

mutual

/-- Why a call of an engine function fails. -/
inductive DispatchError where
  | unknownFunction (id : FunctionId)
  | unknownFunctionName (name : String)
  | tooFewArguments (name : String) (min supplied : Nat)
  | tooManyArguments (name : String) (max supplied : Nat)
  | argumentTypeMismatch (name : String) (index : Nat) (expected actual : ValueType)
  | returnTypeMismatch (name : String) (expected actual : ValueType)
  | native (name : String) (cause : NativeError)

/-- Why the native behind an engine function fails. -/
inductive NativeError where
  | conversion (cause : TypeMismatch)
  | argumentOutOfBounds (index count : Nat)
  | missingScriptName (function : String)
  | script (cause : ScriptError)
  | other (message : String)

/-- Why a script cannot be loaded or does not run to its end. -/
inductive ScriptError where
  | notFound (name : String)
  | execution (script message : String)
  | depthExceeded (script : String) (depth : Nat)
  | dispatch (cause : DispatchError)

end

mutual

def DispatchError.message : DispatchError → String
  | .unknownFunction id => "unknown engine function id " ++ id.text
  | .unknownFunctionName name => "unknown engine function '" ++ name ++ "'"
  | .tooFewArguments name min supplied =>
    name ++ ": expected at least " ++ toString min ++ " arguments, got " ++ toString supplied
  | .tooManyArguments name max supplied =>
    name ++ ": expected at most " ++ toString max ++ " arguments, got " ++ toString supplied
  | .argumentTypeMismatch name index expected actual =>
    name ++ ": argument " ++ toString index ++ " is " ++ actual.name ++ ", expected " ++
      expected.name
  | .returnTypeMismatch name expected actual =>
    name ++ ": returned " ++ actual.name ++ ", declared " ++ expected.name
  | .native name cause => name ++ ": " ++ cause.message

def NativeError.message : NativeError → String
  | .conversion cause => "conversion error: " ++ cause.message
  | .argumentOutOfBounds index count =>
    "argument index " ++ toString index ++ " out of bounds (function has " ++ toString count ++
      " arguments)"
  | .missingScriptName function => function ++ ": no valid current script name"
  | .script cause => cause.message
  | .other message => "native error: " ++ message

def ScriptError.message : ScriptError → String
  | .notFound name => "script '" ++ name ++ "' not found"
  | .execution script message => "script '" ++ script ++ "' failed: " ++ message
  | .depthExceeded script depth =>
    "script '" ++ script ++ "' exceeds the maximum nesting depth of " ++ toString depth
  | .dispatch cause => cause.message

end

end ScriptHost

import ScriptHost.ObjectId
import ScriptHost.ValueType
import ScriptHost.Vector

/-!
# Script values

A `Value` is what a script and the engine hand to each other: arguments, results, locals of
objects and captured states.  Reading a value is exact in its type: nothing is converted on the
way, and a value of another type is a `TypeMismatch`.
-/

namespace ScriptHost

/-- A script value.  An action is the state of a script that is to be resumed later: where to
resume, and the values it had. -/
inductive Value where
  | void
  | int (n : Int32)
  | float (x : Single)
  | string (s : String)
  | object (id : ObjectId)
  | vector (v : Vector3)
  | engine (kind : EngineKind) (payload : List Value)
  | action (offset : UInt32) (globals locals : List Value)
  deriving Inhabited

/-- The state of a script that is to be resumed later. -/
structure ScriptState where
  offset : UInt32
  globals : List Value
  locals : List Value

/-- The state of a script that starts from its beginning. -/
def ScriptState.initial : ScriptState := ⟨0, [], []⟩

instance : Inhabited ScriptState := ⟨.initial⟩

/-- A value was read as something that it is not. -/
structure TypeMismatch where
  expected : ValueType
  actual : ValueType
  deriving DecidableEq

def TypeMismatch.message (e : TypeMismatch) : String :=
  "type mismatch: expected " ++ e.expected.name ++ ", got " ++ e.actual.name

namespace Value

def ofState (s : ScriptState) : Value :=
  .action s.offset s.globals s.locals

/-- Scripts have no truth values of their own: true is one and false is zero. -/
def ofBool (b : Bool) : Value :=
  .int (if b then 1 else 0)

def type : Value → ValueType
  | void => .void
  | int _ => .int
  | float _ => .float
  | string _ => .string
  | object _ => .object
  | vector _ => .vector
  | engine kind _ => .engine kind
  | action .. => .action

/-- The zero value of a type. -/
def zero : ValueType → Value
  | .void => void
  | .int => int 0
  | .float => float .zero
  | .string => string ""
  | .object => object .invalid
  | .vector => vector .zero
  | .engine kind => engine kind []
  | .action => action 0 [] []

@[simp] theorem type_zero (t : ValueType) : (zero t).type = t := by cases t <;> rfl

def isVoid : Value → Bool
  | void => true
  | _ => false

/-! ## Reading -/

def mismatch (v : Value) (expected : ValueType) : TypeMismatch :=
  ⟨expected, v.type⟩

def asInt : Value → Except TypeMismatch Int32
  | int n => .ok n
  | v => .error (v.mismatch .int)

def asBool (v : Value) : Except TypeMismatch Bool :=
  v.asInt.map (· != 0)

def asFloat : Value → Except TypeMismatch Single
  | float x => .ok x
  | v => .error (v.mismatch .float)

def asString : Value → Except TypeMismatch String
  | string s => .ok s
  | v => .error (v.mismatch .string)

def asObject : Value → Except TypeMismatch ObjectId
  | object id => .ok id
  | v => .error (v.mismatch .object)

def asVector : Value → Except TypeMismatch Vector3
  | vector v => .ok v
  | v => .error (v.mismatch .vector)

/-- The payload of an engine structure of a given kind. -/
def asEngine (kind : EngineKind) : Value → Except TypeMismatch (List Value)
  | engine k payload =>
    if k = kind then .ok payload else .error ((engine k payload).mismatch (.engine kind))
  | v => .error (v.mismatch (.engine kind))

def asState : Value → Except TypeMismatch ScriptState
  | action offset globals locals => .ok ⟨offset, globals, locals⟩
  | v => .error (v.mismatch .action)

/-! ## Comparison -/

mutual

/-- Equality as scripts see it: floats compare as numbers, so that a value with a not-a-number
inside differs from itself. -/
def eq : Value → Value → Bool
  | void, void => true
  | int m, int n => m == n
  | float x, float y => x.eq y
  | string s, string t => s == t
  | object a, object b => a == b
  | vector u, vector v => u.eq v
  | engine k p, engine l q => k == l && eqList p q
  | action m gs ls, action n hs ms => m == n && eqList gs hs && eqList ls ms
  | _, _ => false

def eqList : List Value → List Value → Bool
  | [], [] => true
  | u :: us, v :: vs => eq u v && eqList us vs
  | _, _ => false

end

end Value

end ScriptHost

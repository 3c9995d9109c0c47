import ScriptHost.Function.Context
import ScriptHost.Step

/-!
# The table of engine functions

A `Registry η` holds functions by number and by name.  What a native *is* stays open: the registry
keeps a token of type `η` for it, and `call` is told how a token is run on a host state.
-/

namespace ScriptHost

/-- A table of functions whose natives are named by tokens of type `η`. -/
@[ext]
structure Registry (η : Type) where
  functions : SortedMap FunctionId (FunctionDef η)
  byName : SortedMap String FunctionId
  /-- Whether calls of functions without a native are reported. -/
  logUnimplemented : Bool

namespace Registry

variable {η ν σ : Type}

def empty : Registry η := ⟨∅, ∅, true⟩

instance : Inhabited (Registry η) := ⟨empty⟩

/-! ## Registration -/

/-- Adds a function, if it is well formed and neither its number nor its name is taken. -/
def register (r : Registry η) (f : FunctionDef η) : Except RegistrationError (Registry η) :=
  match f.validate with
  | .error e => .error e
  | .ok () =>
    match r.functions.get? f.id with
    | some existing => .error (.duplicateId f.id f.name existing.name)
    | none =>
      if r.byName.contains f.name then .error (.duplicateName f.name)
      else .ok { r with
        functions := r.functions.insert f.id f
        byName := r.byName.insert f.name f.id }

/-- Adds functions one after the other up to the first that is refused; those before it stay. -/
def registerTable (r : Registry η) :
    List (FunctionDef η) → Except RegistrationError Unit × Registry η
  | [] => (.ok (), r)
  | f :: rest =>
    match r.register f with
    | .error e => (.error e, r)
    | .ok r' => r'.registerTable rest

def clear (r : Registry η) : Registry η :=
  { r with functions := ∅, byName := ∅ }

/-! ## Lookup -/

def get? (r : Registry η) (id : FunctionId) : Option (FunctionDef η) :=
  r.functions.get? id

def find? (r : Registry η) (name : String) : Option FunctionId :=
  r.byName.get? name

def contains (r : Registry η) (id : FunctionId) : Bool :=
  r.functions.contains id

def size (r : Registry η) : Nat :=
  r.functions.size

def isEmpty (r : Registry η) : Bool :=
  r.functions.isEmpty

/-- All functions, by ascending number. -/
def toList (r : Registry η) : List (FunctionDef η) :=
  r.functions.values

/-! ## Calls -/

/-- How natives run: from a token and the context of a call to the context that is left. -/
abbrev Invoke (η ν σ : Type) := η → CallContext → Step ν σ (Except NativeError CallContext)

/-- Runs a function on a call that was found well formed.  A function without a native gives the
zero value of its result type. -/
def run (r : Registry η) (invoke : Invoke η ν σ) (f : FunctionDef η) (ctx : CallContext) :
    Step ν σ (Except DispatchError Value) :=
  match f.native with
  | none => do
    if r.logUnimplemented then Step.record .warn ctx.unimplementedText
    return .ok ctx.returnValue
  | some native => do
    Step.record .trace ctx.describe
    match ← invoke native ctx with
    | .error e => return .error (.native f.name e)
    | .ok after =>
      if after.returnValue.type = f.signature.returnType then
        return .ok after.returnValue
      else
        return .error (.returnTypeMismatch f.name f.signature.returnType after.returnValue.type)

/-- Calls a function by its number. -/
def call (r : Registry η) (invoke : Invoke η ν σ) (id : FunctionId) (args : List Value)
    (site : CallSite) : Step ν σ (Except DispatchError Value) :=
  match r.get? id with
  | none => pure (.error (.unknownFunction id))
  | some f =>
    match CallContext.make f args site with
    | .error e => pure (.error e)
    | .ok ctx => r.run invoke f ctx

/-- Calls a function by its name. -/
def callByName (r : Registry η) (invoke : Invoke η ν σ) (name : String) (args : List Value)
    (site : CallSite) : Step ν σ (Except DispatchError Value) :=
  match r.find? name with
  | none => pure (.error (.unknownFunctionName name))
  | some id => r.call invoke id args site

end Registry

end ScriptHost

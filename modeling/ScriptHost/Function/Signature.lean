import ScriptHost.Error
import ScriptHost.Value.Text

/-!
# Signatures of engine functions

A signature gives the type of the result and of each parameter.  Defaults are values for the last
parameters, so that a call may leave out arguments from the end.
-/

namespace ScriptHost

open Text

/-- The types of a function. -/
structure Signature where
  returnType : ValueType
  params : List ValueType
  deriving DecidableEq, Inhabited

namespace Signature

def count (s : Signature) : Nat :=
  s.params.length

/-- The fewest arguments of a call, given so many defaults. -/
def minCount (s : Signature) (defaults : List Value) : Nat :=
  s.count - defaults.length

def diagnostic (s : Signature) : String :=
  shownRecord "Signature"
    [("return_type", s.returnType.title), ("params", shownList (s.params.map (·.title)))]

end Signature

/-- The default of parameter `index` among `count` parameters. -/
def defaultFor (defaults : List Value) (index count : Nat) : Option Value :=
  if defaults.length ≤ count ∧ count - defaults.length ≤ index then
    defaults[index - (count - defaults.length)]?
  else none

/-- The first value whose type is not the one in the same place, counting places from `index`: the
place, the type that stands there and the type of the value. -/
def firstMismatch : List Value → List ValueType → Nat → Option (Nat × ValueType × ValueType)
  | v :: vs, t :: ts, index =>
    if v.type = t then firstMismatch vs ts (index + 1) else some (index, t, v.type)
  | _, _, _ => none

/-- An entry of a function table.  A function without a native is declared but not implemented. -/
structure FunctionDef (η : Type) where
  id : FunctionId
  name : String
  signature : Signature
  defaults : List Value
  native : Option η

namespace FunctionDef

variable {η : Type}

def isImplemented (f : FunctionDef η) : Bool :=
  f.native.isSome

def minCount (f : FunctionDef η) : Nat :=
  f.signature.minCount f.defaults

def maxCount (f : FunctionDef η) : Nat :=
  f.signature.count

/-- The parameters of a call: the arguments, and for each place after them its default, as far as
there is one. -/
def fill (f : FunctionDef η) (args : List Value) : List Value :=
  let omitted := List.range' args.length (f.signature.count - args.length)
  args ++ omitted.filterMap fun index ↦ defaultFor f.defaults index f.signature.count

/-- An entry is well formed if no parameter is void, there are no more defaults than parameters,
and each default has the type of its parameter. -/
def validate (f : FunctionDef η) : Except RegistrationError Unit :=
  match f.signature.params.findIdx? (· = .void) with
  | some index => .error (.voidParameter f.name index)
  | none =>
    if f.signature.count < f.defaults.length then
      .error (.tooManyDefaults f.name f.signature.count f.defaults.length)
    else
      match firstMismatch f.defaults (f.signature.params.drop f.minCount) f.minCount with
      | some (index, expected, actual) =>
        .error (.defaultTypeMismatch f.name index expected actual)
      | none => .ok ()

def diagnostic (f : FunctionDef η) : String :=
  shownRecord "FunctionDef"
    [("id", shownWrapped "FunctionId" f.id.text), ("name", quoted f.name),
      ("signature", f.signature.diagnostic),
      ("defaults", shownWrapped "Defaults" (shownList (Value.diagnostics f.defaults))),
      ("implemented", shownFlag f.isImplemented)]

end FunctionDef

end ScriptHost

import ScriptHost.Function.Registry
import ScriptHost.Object.Type

/-!
# The engine functions

The functions that scripts call, by number: their names, types and defaults.  Two are declared but
not implemented.
-/

namespace ScriptHost

/-- The types of the local values that scripts can reach. -/
inductive LocalType where
  | int
  | float
  | string
  | object
  deriving DecidableEq, Inhabited

def LocalType.valueType : LocalType → ValueType
  | int => .int
  | float => .float
  | string => .string
  | object => .object

/-- The functions that are implemented. -/
inductive Builtin where
  | random
  | printString
  | printFloat
  | floatToString
  | printInteger
  | printObject
  | assignCommand
  | delayCommand
  | executeScript
  | clearAllActions
  | getArea
  | getPosition
  | getDistanceToObject
  | getIsObjectValid
  | getLocal (t : LocalType)
  | setLocal (t : LocalType)
  | getStringLength
  | intToString
  | getObjectType
  | getDistanceBetween
  | getTag
  | getObjectByTag
  | getNearestObject
  | getNearestObjectByTag
  | intToFloat
  | floatToInt
  | stringToInt
  | destroyObject
  | getModule
  | deleteLocal (t : LocalType)
  | actionDoCommand
  deriving DecidableEq, Inhabited

namespace Builtin

/-- An entry of the table. -/
def entry (id : UInt32) (name : String) (returnType : ValueType) (params : List ValueType)
    (defaults : List Value) (native : Option Builtin) : FunctionDef Builtin :=
  ⟨⟨id⟩, name, ⟨returnType, params⟩, defaults, native⟩

/-- The entry of a function that is implemented. -/
def row (b : Builtin) : FunctionDef Builtin :=
  match b with
  | random => entry 0 "Random" .int [.int] [] (some b)
  | printString => entry 1 "PrintString" .void [.string] [] (some b)
  | printFloat => entry 2 "PrintFloat" .void [.float, .int, .int] [.int 18, .int 9] (some b)
  | floatToString => entry 3 "FloatToString" .string [.float, .int, .int] [.int 18, .int 9] (some b)
  | printInteger => entry 4 "PrintInteger" .void [.int] [] (some b)
  | printObject => entry 5 "PrintObject" .void [.object] [] (some b)
  | assignCommand => entry 6 "AssignCommand" .void [.object, .action] [] (some b)
  | delayCommand => entry 7 "DelayCommand" .void [.float, .action] [] (some b)
  | executeScript => entry 8 "ExecuteScript" .void [.string, .object] [] (some b)
  | clearAllActions => entry 9 "ClearAllActions" .void [.int] [.int 0] (some b)
  | getArea => entry 24 "GetArea" .object [.object] [] (some b)
  | getPosition => entry 27 "GetPosition" .vector [.object] [] (some b)
  | getDistanceToObject => entry 41 "GetDistanceToObject" .float [.object] [] (some b)
  | getIsObjectValid => entry 42 "GetIsObjectValid" .int [.object] [] (some b)
  | getLocal .int => entry 51 "GetLocalInt" .int [.object, .string] [] (some b)
  | getLocal .float => entry 52 "GetLocalFloat" .float [.object, .string] [] (some b)
  | getLocal .string => entry 53 "GetLocalString" .string [.object, .string] [] (some b)
  | getLocal .object => entry 54 "GetLocalObject" .object [.object, .string] [] (some b)
  | setLocal .int => entry 55 "SetLocalInt" .void [.object, .string, .int] [] (some b)
  | setLocal .float => entry 56 "SetLocalFloat" .void [.object, .string, .float] [] (some b)
  | setLocal .string => entry 57 "SetLocalString" .void [.object, .string, .string] [] (some b)
  | setLocal .object => entry 58 "SetLocalObject" .void [.object, .string, .object] [] (some b)
  | getStringLength => entry 59 "GetStringLength" .int [.string] [] (some b)
  | intToString => entry 92 "IntToString" .string [.int] [] (some b)
  | getObjectType => entry 106 "GetObjectType" .int [.object] [] (some b)
  | getDistanceBetween => entry 151 "GetDistanceBetween" .float [.object, .object] [] (some b)
  | getTag => entry 168 "GetTag" .string [.object] [] (some b)
  | getObjectByTag => entry 200 "GetObjectByTag" .object [.string, .int] [.int 0] (some b)
  | getNearestObject =>
    entry 227 "GetNearestObject" .object [.int, .object, .int]
      [.int TypeMask.all.bits.toInt32, .object .self, .int 1] (some b)
  | getNearestObjectByTag =>
    entry 229 "GetNearestObjectByTag" .object [.string, .object, .int]
      [.object .self, .int 1] (some b)
  | intToFloat => entry 230 "IntToFloat" .float [.int] [] (some b)
  | floatToInt => entry 231 "FloatToInt" .int [.float] [] (some b)
  | stringToInt => entry 232 "StringToInt" .int [.string] [] (some b)
  | destroyObject => entry 241 "DestroyObject" .void [.object, .float] [.float .zero] (some b)
  | getModule => entry 242 "GetModule" .object [] [] (some b)
  | deleteLocal .int => entry 265 "DeleteLocalInt" .void [.object, .string] [] (some b)
  | deleteLocal .float => entry 266 "DeleteLocalFloat" .void [.object, .string] [] (some b)
  | deleteLocal .string => entry 267 "DeleteLocalString" .void [.object, .string] [] (some b)
  | deleteLocal .object => entry 268 "DeleteLocalObject" .void [.object, .string] [] (some b)
  | actionDoCommand => entry 294 "ActionDoCommand" .void [.action] [] (some b)

/-- The table of engine functions, by ascending number. -/
def table : List (FunctionDef Builtin) := [
  row random, row printString, row printFloat, row floatToString, row printInteger, row printObject,
  row assignCommand, row delayCommand, row executeScript, row clearAllActions,
  entry 10 "SetFacing" .void [.float] [] none, row getArea, row getPosition,
  row getDistanceToObject, row getIsObjectValid, row (getLocal .int), row (getLocal .float),
  row (getLocal .string), row (getLocal .object), row (setLocal .int), row (setLocal .float),
  row (setLocal .string), row (setLocal .object), row getStringLength, row intToString,
  row getObjectType, row getDistanceBetween, row getTag, row getObjectByTag,
  entry 221 "SpeakString" .void [.string, .int] [.int 0] none, row getNearestObject,
  row getNearestObjectByTag, row intToFloat, row floatToInt, row stringToInt, row destroyObject,
  row getModule, row (deleteLocal .int), row (deleteLocal .float), row (deleteLocal .string),
  row (deleteLocal .object), row actionDoCommand]

/-- The registry of all engine functions. -/
def registry (logUnimplemented : Bool) : Registry Builtin :=
  ((⟨∅, ∅, logUnimplemented⟩ : Registry Builtin).registerTable table).2

end Builtin

end ScriptHost

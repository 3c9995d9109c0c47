/-!
# Types of objects

Each type of object has one bit of its own, and a `TypeMask` is a set of types by their bits.
Scripts see both as numbers.
-/

namespace ScriptHost

/-- The types of objects. -/
inductive ObjectType where
  | creature
  | item
  | trigger
  | door
  | areaOfEffect
  | waypoint
  | placeable
  | store
  | encounter
  | area
  | module_
  | sound
  deriving DecidableEq, Inhabited

namespace ObjectType

/-- All types, in the order of their bits. -/
def all : List ObjectType :=
  [creature, item, trigger, door, areaOfEffect, waypoint, placeable, store, encounter, area,
    module_, sound]

/-- The bit of a type. -/
def bit : ObjectType → UInt32
  | creature => 1
  | item => 2
  | trigger => 4
  | door => 8
  | areaOfEffect => 16
  | waypoint => 32
  | placeable => 64
  | store => 128
  | encounter => 256
  | area => 4096
  | module_ => 8192
  | sound => 16384

def ofBit? (n : UInt32) : Option ObjectType :=
  all.find? (·.bit == n)

/-- The name in diagnostic and stored texts. -/
def title : ObjectType → String
  | creature => "Creature"
  | item => "Item"
  | trigger => "Trigger"
  | door => "Door"
  | areaOfEffect => "AreaOfEffect"
  | waypoint => "Waypoint"
  | placeable => "Placeable"
  | store => "Store"
  | encounter => "Encounter"
  | area => "Area"
  | module_ => "Module"
  | sound => "Sound"

def ofTitle? (s : String) : Option ObjectType :=
  all.find? (·.title == s)

instance : Ord ObjectType := ⟨compareOn ObjectType.bit⟩

instance : Std.TransOrd ObjectType := inferInstanceAs (Std.TransCmp (compareOn ObjectType.bit))

theorem bit_injective {a b : ObjectType} (h : a.bit = b.bit) : a = b := by
  cases a <;> cases b <;> simp_all [bit]

instance : Std.LawfulEqOrd ObjectType where
  eq_of_compare {a b} h := by
    have hbit : compare a.bit b.bit = .eq := h
    exact bit_injective (by simpa using hbit)

/-- The number that stands for the type of an object that is not there. -/
def missingNumber : Int32 := 32767

end ObjectType

/-- A set of object types. -/
structure TypeMask where
  bits : UInt32
  deriving DecidableEq, Inhabited

namespace TypeMask

/-- Every type, and every number below `2 ^ 15`. -/
def all : TypeMask := ⟨32767⟩

/-- The mask of one type. -/
def ofType (t : ObjectType) : TypeMask := ⟨t.bit⟩

/-- The mask that a script gives as a number: bits above the known ones do not count. -/
def ofScript (n : Int32) : TypeMask := ⟨n.toUInt32 &&& all.bits⟩

def holds (m : TypeMask) (t : ObjectType) : Bool :=
  m.bits &&& t.bit != 0

end TypeMask

end ScriptHost

import ScriptHost.Object.Type
import ScriptHost.Script

/-!
# Objects

An object of the world has a type and a tag, and may have a place, relations to other objects, an
inventory, a trap and local values.  Other objects appear in it only by number, so what an object
refers to may be gone.
-/

namespace ScriptHost

/-- How one object may stand to another. -/
inductive Relation where
  | area
  | linkedTo
  | lastAttacker
  | master
  deriving DecidableEq, Inhabited

namespace Relation

def all : List Relation := [area, linkedTo, lastAttacker, master]

/-- The name in diagnostic and stored texts. -/
def title : Relation → String
  | area => "Area"
  | linkedTo => "LinkedTo"
  | lastAttacker => "LastAttacker"
  | master => "Master"

def ofTitle? (s : String) : Option Relation :=
  all.find? (·.title == s)

end Relation

/-- The related objects of an object; `invalid` where there is none. -/
structure Relations where
  area : ObjectId
  linkedTo : ObjectId
  lastAttacker : ObjectId
  master : ObjectId
  deriving DecidableEq

namespace Relations

def none : Relations := ⟨.invalid, .invalid, .invalid, .invalid⟩

def get (r : Relations) : Relation → ObjectId
  | .area => r.area
  | .linkedTo => r.linkedTo
  | .lastAttacker => r.lastAttacker
  | .master => r.master

def set (r : Relations) (relation : Relation) (target : ObjectId) : Relations :=
  match relation with
  | .area => { r with area := target }
  | .linkedTo => { r with linkedTo := target }
  | .lastAttacker => { r with lastAttacker := target }
  | .master => { r with master := target }

end Relations

/-- The things that an object carries, in the order in which they came to it. -/
structure Inventory where
  items : List ObjectId
  deriving DecidableEq

namespace Inventory

def empty : Inventory := ⟨[]⟩

def contains (inv : Inventory) (item : ObjectId) : Bool :=
  inv.items.contains item

/-- Adds an item at the end, unless it is there already. -/
def add (inv : Inventory) (item : ObjectId) : Inventory :=
  if inv.contains item then inv else ⟨inv.items ++ [item]⟩

/-- Takes an item out. -/
def remove (inv : Inventory) (item : ObjectId) : Inventory :=
  ⟨inv.items.filter (· != item)⟩

def size (inv : Inventory) : Nat :=
  inv.items.length

/-- Whether there is an item to take out: there are fewer of them then. -/
def removes (inv : Inventory) (item : ObjectId) : Bool :=
  (inv.remove item).size != inv.size

def ofList (items : List ObjectId) : Inventory :=
  items.foldl add empty

end Inventory

/-- A trap on an object. -/
structure Trap where
  kind : UInt32
  detectDC : Int32
  disarmDC : Int32
  detectable : Bool
  disarmable : Bool
  detected : Bool
  active : Bool
  deriving DecidableEq

namespace Trap

/-- A fresh trap that nobody has found yet. -/
def armed (kind : UInt32) : Trap :=
  { kind, detectDC := 0, disarmDC := 0, detectable := true, disarmable := true, detected := false,
    active := true }

def disarm (t : Trap) : Trap :=
  { t with active := false }

end Trap

/-- An object of the world. -/
structure Object where
  id : ObjectId
  type : ObjectType
  tag : String
  name : String
  position : Option Vector3
  orientation : Option Single
  relations : Relations
  inventory : Option Inventory
  trap : Option Trap
  locals : SortedMap String Value

namespace Object

/-- An object that is not in any world yet. -/
def fresh (type : ObjectType) (tag : String) : Object where
  id := .invalid
  type := type
  tag := tag
  name := ""
  position := none
  orientation := none
  relations := .none
  inventory := none
  trap := none
  locals := ∅

instance : Inhabited Object := ⟨fresh default ""⟩

/-- The area that the object is in. -/
def area (o : Object) : ObjectId :=
  o.relations.area

def isTrapped (o : Object) : Bool :=
  o.trap.any (·.active)

def setName (name : String) (o : Object) : Object :=
  { o with name }

def setPosition (position : Vector3) (o : Object) : Object :=
  { o with position := some position }

def setOrientation (orientation : Single) (o : Object) : Object :=
  { o with orientation := some orientation }

def setRelation (relation : Relation) (target : ObjectId) (o : Object) : Object :=
  { o with relations := o.relations.set relation target }

def setInventory (inventory : Inventory) (o : Object) : Object :=
  { o with inventory := some inventory }

def setTrap (trap : Trap) (o : Object) : Object :=
  { o with trap := some trap }

/-! ## Local values -/

def getLocal? (o : Object) (name : String) : Option Value :=
  o.locals.get? name

def setLocal (name : String) (v : Value) (o : Object) : Object :=
  { o with locals := o.locals.insert name v }

def deleteLocal (name : String) (o : Object) : Object :=
  { o with locals := o.locals.erase name }

/-- A local read as one type; a fallback if it is missing or of another type. -/
def readLocal {α : Type} (o : Object) (read : Value → Except TypeMismatch α) (fallback : α)
    (name : String) : α :=
  match o.getLocal? name with
  | some v => (read v).toOption.getD fallback
  | none => fallback

def localInt (o : Object) : String → Int32 :=
  o.readLocal Value.asInt 0

def localFloat (o : Object) : String → Single :=
  o.readLocal Value.asFloat .zero

def localString (o : Object) : String → String :=
  o.readLocal Value.asString ""

def localObject (o : Object) : String → ObjectId :=
  o.readLocal Value.asObject .invalid

end Object

end ScriptHost

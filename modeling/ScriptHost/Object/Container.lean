import ScriptHost.Object
import ScriptHost.Step

/-!
# The objects of a world

A `Container` holds the live objects by number, with an index by type and one by tag.  It gives the
numbers out itself, each only once: a number that was given out stays spent when its object is
removed, and also when all objects are.
-/

namespace ScriptHost

/-- The numbers of the objects that share a key. -/
abbrev ObjectIndex (κ : Type) [Ord κ] := SortedMap κ (SortedSet ObjectId)

namespace ObjectIndex

variable {κ : Type} [Ord κ] [Std.TransOrd κ] [Std.LawfulEqOrd κ]

/-- The numbers under a key, in ascending order. -/
def ids (index : ObjectIndex κ) (key : κ) : List ObjectId :=
  ((index.get? key).map (·.keys)).getD []

def add (index : ObjectIndex κ) (key : κ) (id : ObjectId) : ObjectIndex κ :=
  index.insert key (((index.get? key).getD ∅).insert id ())

/-- Takes a number out from under a key; a key without numbers is not kept. -/
def remove (index : ObjectIndex κ) (key : κ) (id : ObjectId) : ObjectIndex κ :=
  match index.get? key with
  | none => index
  | some ids =>
    if (ids.erase id).isEmpty then index.erase key else index.insert key (ids.erase id)

end ObjectIndex

/-- The live objects. -/
@[ext]
structure Container where
  objects : SortedMap ObjectId Object
  byType : ObjectIndex ObjectType
  byTag : ObjectIndex String
  /-- The next number to give out; `self` once all are spent. -/
  nextId : ObjectId

namespace Container

variable {ν : Type}

def empty : Container := ⟨∅, ∅, ∅, .first⟩

instance : Inhabited Container := ⟨empty⟩

/-! ## Lookup -/

def get? (c : Container) (id : ObjectId) : Option Object :=
  c.objects.get? id

def contains (c : Container) (id : ObjectId) : Bool :=
  c.objects.contains id

def size (c : Container) : Nat :=
  c.objects.size

def isEmpty (c : Container) : Bool :=
  c.objects.isEmpty

/-- All objects, by ascending number. -/
def toList (c : Container) : List Object :=
  c.objects.values

/-- The object with the `nth` smallest number among those with a tag. -/
def findByTag? (c : Container) (tag : String) (nth : Nat) : Option Object :=
  (c.byTag.ids tag)[nth]?.bind c.get?

/-- The number that a reference means to a caller, if its object is live; else `invalid`. -/
def resolveId (c : Container) (reference caller : ObjectId) : ObjectId :=
  if c.contains (reference.orCaller caller) then reference.orCaller caller else .invalid

/-- The object that a reference means to a caller. -/
def resolve? (c : Container) (reference caller : ObjectId) : Option Object :=
  c.get? (reference.orCaller caller)

/-- Whether a reference means a live object to a caller. -/
def isValid (c : Container) (reference caller : ObjectId) : Bool :=
  (c.resolve? reference caller).isSome

/-! ## Changes -/

/-- The container with a new object under a number. -/
def place (c : Container) (o : Object) (id : ObjectId) : Container where
  objects := c.objects.insert id { o with id }
  byType := c.byType.add o.type id
  byTag := c.byTag.add o.tag id
  nextId := (id.next).getD .self

/-- Adds an object under the next number.  Once the numbers are spent, the object is dropped. -/
def add (o : Object) : Step ν Container ObjectId := fun c ↦
  let id := c.nextId
  if id.isConcrete then
    ⟨id, c.place o id,
      [.record .trace
        ("added object " ++ id.text ++ " (" ++ o.type.title ++ ", \"" ++ o.tag ++ "\")")]⟩
  else
    ⟨.invalid, c, [.record .warn ("object ids exhausted, dropping \"" ++ o.tag ++ "\"")]⟩

/-- The container without an object. -/
def dropObject (c : Container) (o : Object) (id : ObjectId) : Container :=
  { c with
    objects := c.objects.erase id
    byType := c.byType.remove o.type id
    byTag := c.byTag.remove o.tag id }

/-- Removes an object, if it is there. -/
def remove (id : ObjectId) : Step ν Container (Option Object) := fun c ↦
  match c.get? id with
  | none => ⟨none, c, []⟩
  | some o => ⟨some o, c.dropObject o id, [.record .trace ("removed object " ++ id.text)]⟩

/-- Gives an object another tag. -/
def setTag (c : Container) (id : ObjectId) (tag : String) : Container :=
  match c.get? id with
  | none => c
  | some o =>
    { c with
      objects := c.objects.insert id { o with tag }
      byTag := (c.byTag.remove o.tag id).add tag id }

/-- Changes an object in place; the change must leave number, type and tag as they are. -/
def edit (c : Container) (id : ObjectId) (f : Object → Object) : Container :=
  { c with objects := c.objects.modify id f }

/-- Removes all objects; the numbers stay spent. -/
def clear (c : Container) : Container :=
  { empty with nextId := c.nextId }

end Container

end ScriptHost

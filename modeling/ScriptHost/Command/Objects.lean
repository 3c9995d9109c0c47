import ScriptHost.Object.Distance

/-!
# Requests about objects

What can be asked of a container of objects, with the type of each answer.  Searches are kept under
names, so that a later request can go on with one.
-/

namespace ScriptHost

/-- The point that objects are sorted around. -/
inductive SortCentre where
  | object (id : ObjectId)
  | point (v : Vector3)

/-- A request about objects. -/
inductive ObjectCommand where
  | add (o : Object)
  | remove (id : ObjectId)
  | setTag (id : ObjectId) (tag : String)
  | clear
  | get (id : ObjectId)
  | contains (id : ObjectId)
  | all
  | findByTag (tag : String) (nth : Nat)
  /-- What a reference means to a caller. -/
  | resolve (reference caller : ObjectId)
  /-- Names the object that a reference means to a caller. -/
  | rename (reference caller : ObjectId) (name : String)
  | sort (centre : SortCentre) (ids : List ObjectId)
  | nearest (id : ObjectId) (mask : TypeMask) (nth : Nat) (tag : Option String)
  | setName (id : ObjectId) (name : String)
  | setPosition (id : ObjectId) (position : Vector3)
  | setOrientation (id : ObjectId) (orientation : Single)
  | setRelation (id : ObjectId) (relation : Relation) (target : ObjectId)
  | clearRelation (id : ObjectId) (relation : Relation)
  | addItem (id item : ObjectId)
  | removeItem (id item : ObjectId)
  | hasItem (id item : ObjectId)
  | disarmTrap (id : ObjectId)
  | setTrap (id : ObjectId) (detectDC disarmDC : Int32) (detected active : Bool)
  | setLocal (id : ObjectId) (name : String) (v : Value)
  | deleteLocal (id : ObjectId) (name : String)
  | readLocal (id : ObjectId) (name : String)
  | searchStart (slot : String) (key : SearchKey)
  | searchCopy (slot target : String)
  | searchNext (slot : String)
  | searchGet (slot : String)
  | searchStep (slot : String)
  | searchDrain (slot : String)

/-- Where a reference leads. -/
structure Resolution where
  reference : ObjectId
  /-- The number of the object, `invalid` if there is none. -/
  id : ObjectId
  object : Option Object
  valid : Bool

/-- Objects in the order of their nearness. -/
structure Ranking where
  target : Vector3
  /-- The distance of each object, in the order in which they were given. -/
  distances : List Single
  /-- How each object compares with the one given after it. -/
  comparisons : List Ordering
  sorted : List ObjectId

/-- A local value, as it is and read as each type. -/
structure LocalReading where
  raw : Option Value
  int : Int32
  float : Single
  string : String
  object : ObjectId

/-- The objects, and the searches that are kept under names. -/
structure Browsing where
  objects : Container
  searches : SortedMap String Search

namespace ObjectCommand

/-- The answer to a request.  An answer about an object that is not there is nothing, and so is one
about a search that was never started. -/
@[reducible]
def Reply : ObjectCommand → Type
  | add _ => ObjectId
  | remove _ => Option Object
  | setTag .. => Bool
  | clear => Unit
  | get _ => Option Object
  | contains _ => Bool
  | all => List ObjectId
  | findByTag .. => Option ObjectId
  | resolve .. => Resolution
  | rename .. => Option ObjectId
  | sort .. => Option Ranking
  | nearest .. => Option (Option ObjectId)
  | setName .. => Option String
  | setPosition .. => Option (Option Vector3)
  | setOrientation .. => Option (Option Single)
  | setRelation .. => Option ObjectId
  | clearRelation .. => Option ObjectId
  | addItem .. => Option (Option Inventory)
  | removeItem .. => Option (Option (Bool × Inventory))
  | hasItem .. => Option (Option (Bool × Inventory))
  | disarmTrap _ => Option (Option Bool)
  | setTrap .. => Option (Option Bool)
  | setLocal .. => Bool
  | deleteLocal .. => Option (Option Value)
  | readLocal .. => Option LocalReading
  | searchStart .. => SearchKey
  | searchCopy .. => Bool
  | searchNext _ => Option (Option ObjectId × Search)
  | searchGet _ => Option (Option ObjectId × Search)
  | searchStep _ => Option (ObjectId × Search)
  | searchDrain _ => Option (List ObjectId × Search)

variable {ν α : Type}

/-- A step on the objects alone. -/
def onContainer (x : Step ν Container α) : Step ν Browsing α :=
  Step.zoom Browsing.objects (fun b objects ↦ { b with objects }) x

/-- Changes an object, and then looks at it; nothing if it is not there. -/
def editThen (id : ObjectId) (change : Object → Object) (look : Object → α) :
    Step ν Browsing (Option α) := fun b ↦
  let objects := b.objects.edit id change
  ⟨(objects.get? id).map look, { b with objects }, []⟩

/-- Looks at an object. -/
def look (id : ObjectId) (f : Object → α) : Step ν Browsing (Option α) :=
  Step.gets fun b ↦ (b.objects.get? id).map f

/-- Changes the inventory of an object, and looks at it before and after. -/
def editInventory (id : ObjectId) (change : Inventory → Inventory)
    (look : Inventory → Inventory → α) : Step ν Browsing (Option (Option α)) := do
  let b ← Step.get
  let before := (b.objects.get? id).bind (·.inventory)
  editThen id (fun o ↦ { o with inventory := o.inventory.map change }) fun o ↦
    match before, o.inventory with
    | some before, some after => some (look before after)
    | _, _ => none

/-- Changes the trap of an object, and says whether it is armed then. -/
def editTrap (id : ObjectId) (change : Trap → Trap) : Step ν Browsing (Option (Option Bool)) :=
  editThen id (fun o ↦ { o with trap := o.trap.map change }) fun o ↦
    o.trap.map fun _ ↦ o.isTrapped

/-- One use of a search that is kept under a name. -/
def useSearch (slot : String) (use : Search → Container → α × Search) :
    Step ν Browsing (Option (α × Search)) := fun b ↦
  match b.searches.get? slot with
  | none => ⟨none, b, []⟩
  | some s =>
    let (a, s') := use s b.objects
    ⟨some (a, s'), { b with searches := b.searches.insert slot s' }, []⟩

/-- The objects around a centre. -/
def rank (c : Container) (centre : SortCentre) (ids : List ObjectId) : Option Ranking := do
  let target ← match centre with
    | .point v => some v
    | .object id => (c.get? id).bind (·.position)
  let objects := ids.filterMap c.get?
  return {
    target
    distances := objects.map (·.distanceTo target)
    comparisons := (objects.zip (objects.drop 1)).map fun (a, b) ↦ compareNear target a b
    sorted := (sortNear target objects).map (·.id) }

/-- Answers a request. -/
def perform : (c : ObjectCommand) → Step ν Browsing c.Reply
  | add o => onContainer (Container.add o)
  | remove id => onContainer (Container.remove id)
  | setTag id tag => fun b ↦
    ⟨b.objects.contains id, { b with objects := b.objects.setTag id tag }, []⟩
  | clear => onContainer (Step.modify Container.clear)
  | get id => look id fun o ↦ o
  | contains id => Step.gets fun b ↦ b.objects.contains id
  | all => Step.gets fun b ↦ b.objects.toList.map (·.id)
  | findByTag tag nth => Step.gets fun b ↦ (b.objects.findByTag? tag nth).map (·.id)
  | resolve reference caller => Step.gets fun b ↦
    ⟨reference, b.objects.resolveId reference caller, b.objects.resolve? reference caller,
      b.objects.isValid reference caller⟩
  | rename reference caller name =>
    editThen (reference.orCaller caller) (Object.setName name) (·.id)
  | sort centre ids => Step.gets fun b ↦ rank b.objects centre ids
  | nearest id mask nth tag => Step.gets fun b ↦
    (b.objects.get? id).map fun target ↦ (nearest? b.objects target mask nth tag).map (·.id)
  | setName id name => editThen id (Object.setName name) (·.name)
  | setPosition id position => editThen id (Object.setPosition position) (·.position)
  | setOrientation id orientation =>
    editThen id (Object.setOrientation orientation) (·.orientation)
  | setRelation id relation target =>
    editThen id (Object.setRelation relation target) (·.relations.get relation)
  | clearRelation id relation =>
    editThen id (Object.setRelation relation .invalid) (·.relations.get relation)
  | addItem id item => editInventory id (·.add item) fun _ after ↦ after
  | removeItem id item =>
    editInventory id (·.remove item) fun before after ↦ (before.removes item, after)
  | hasItem id item => editInventory id (fun inv ↦ inv) fun inv _ ↦ (inv.contains item, inv)
  | disarmTrap id => editTrap id Trap.disarm
  | setTrap id detectDC disarmDC detected active =>
    editTrap id fun t ↦ { t with detectDC, disarmDC, detected, active }
  | setLocal id name v => fun b ↦
    ⟨b.objects.contains id, { b with objects := b.objects.edit id (Object.setLocal name v) }, []⟩
  | deleteLocal id name => do
    let b ← Step.get
    editThen id (Object.deleteLocal name) fun _ ↦ (b.objects.get? id).bind (·.getLocal? name)
  | readLocal id name =>
    look id fun o ↦
      ⟨o.getLocal? name, o.localInt name, o.localFloat name, o.localString name,
        o.localObject name⟩
  | searchStart slot key => fun b ↦
    ⟨key, { b with searches := b.searches.insert slot (Search.start b.objects key) }, []⟩
  | searchCopy slot target => fun b ↦
    match b.searches.get? slot with
    | none => ⟨false, b, []⟩
    | some s => ⟨true, { b with searches := b.searches.insert target s }, []⟩
  | searchNext slot => useSearch slot fun s c ↦
    let (o, s') := s.next c
    (o.map (·.id), s')
  | searchGet slot => useSearch slot fun s c ↦ ((s.get? c).map (·.id), s)
  | searchStep slot => useSearch slot Search.step
  | searchDrain slot => useSearch slot fun s c ↦
    let (found, s') := s.drain c
    (found.map (·.id), s')

end ObjectCommand

end ScriptHost

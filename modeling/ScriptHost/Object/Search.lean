import ScriptHost.Object.Container
import ScriptHost.Text.Quoted
import ScriptHost.Text.Shown

/-!
# Searches

A `Search` walks over the objects with a given key by ascending number.  It holds no part of the
container, only how far it has come, so the container may change between two steps; objects added
after the search was made are never found by it.
-/

namespace ScriptHost

/-- What a search looks for. -/
inductive SearchKey where
  | all
  | type (t : ObjectType)
  | tag (tag : String)
  deriving DecidableEq, Inhabited

def SearchKey.diagnostic : SearchKey → String
  | all => "All"
  | type t => Text.shownWrapped "Type" t.title
  | tag name => Text.shownWrapped "Tag" (Text.quoted name)

/-- The numbers under a key, in ascending order. -/
def Container.idsFor (c : Container) : SearchKey → List ObjectId
  | .all => c.objects.keys
  | .type t => c.byType.ids t
  | .tag tag => c.byTag.ids tag

/-- A search and how far it has come. -/
structure Search where
  key : SearchKey
  /-- The number found last. -/
  last : Option ObjectId
  /-- No number from here on is found. -/
  ceiling : ObjectId
  /-- The number that the last step gave. -/
  current : ObjectId
  done : Bool
  deriving DecidableEq

namespace Search

/-- A new search over the objects that a container has now. -/
def start (c : Container) (key : SearchKey) : Search :=
  ⟨key, none, c.nextId, .invalid, false⟩

/-- Whether a number is still ahead of the search. -/
def isAhead (s : Search) (id : ObjectId) : Bool :=
  (s.last.all fun l ↦ l < id) && id < s.ceiling

/-- The next number that the search would find. -/
def upcoming (s : Search) (c : Container) : Option ObjectId :=
  (c.idsFor s.key).find? s.isAhead

/-- One step: the number found, or `invalid` at the end and ever after. -/
def step (s : Search) (c : Container) : ObjectId × Search :=
  if s.done then (.invalid, s)
  else
    match s.upcoming c with
    | some id => (id, { s with last := some id, current := id })
    | none => (.invalid, { s with done := true, current := .invalid })

/-- One step, and the object found. -/
def next (s : Search) (c : Container) : Option Object × Search :=
  let (id, s') := s.step c
  (c.get? id, s')

/-- The object that the last step found, if it is still there. -/
def get? (s : Search) (c : Container) : Option Object :=
  c.get? s.current

/-- The objects of at most so many steps, up to the first step that finds none. -/
def take (c : Container) : Nat → Search → List Object × Search
  | 0, s => ([], s)
  | steps + 1, s =>
    match s.next c with
    | (none, s') => ([], s')
    | (some o, s') =>
      let (rest, s'') := take c steps s'
      (o :: rest, s'')

/-- All objects that are left to find; one step more than there are objects reaches the end. -/
def drain (s : Search) (c : Container) : List Object × Search :=
  take c (c.size + 1) s

end Search

end ScriptHost

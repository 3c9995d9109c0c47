/-!
# Object identifiers

Objects are named by 32-bit numbers, given out in ascending order from `first` and never given out
twice.  Two numbers at the top never name an object of their own: `invalid` names nothing, and
`self` stands for whatever object the running script belongs to.
-/

namespace ScriptHost

/-- The number of an object. -/
structure ObjectId where
  val : UInt32
  deriving DecidableEq

namespace ObjectId

/-- Names no object. -/
def invalid : ObjectId := ⟨0xffffffff⟩

/-- Stands for the caller. -/
def self : ObjectId := ⟨0xfffffffe⟩

/-- The first number given out. -/
def first : ObjectId := ⟨1⟩

instance : Inhabited ObjectId := ⟨invalid⟩

instance : Ord ObjectId := ⟨compareOn ObjectId.val⟩

instance : LT ObjectId := ⟨fun a b ↦ a.val < b.val⟩

instance (a b : ObjectId) : Decidable (a < b) := inferInstanceAs (Decidable (a.val < b.val))

instance : LE ObjectId := ⟨fun a b ↦ a.val ≤ b.val⟩

instance (a b : ObjectId) : Decidable (a ≤ b) := inferInstanceAs (Decidable (a.val ≤ b.val))

instance : Std.TransOrd ObjectId := inferInstanceAs (Std.TransCmp (compareOn ObjectId.val))

instance : Std.LawfulEqOrd ObjectId where
  eq_of_compare {a b} h := by
    have hval : compare a.val b.val = .eq := h
    cases a; cases b; simpa using hval

def isInvalid (id : ObjectId) : Bool :=
  id == invalid

def isSelf (id : ObjectId) : Bool :=
  id == self

/-- Whether the number can name an object of its own. -/
def isConcrete (id : ObjectId) : Bool :=
  !id.isInvalid && !id.isSelf

/-- The number with `self` read as the caller. -/
def orCaller (id caller : ObjectId) : ObjectId :=
  if id.isSelf then caller else id

/-- The next number to give out, if there is one left. -/
def next (id : ObjectId) : Option ObjectId :=
  if id.val.toNat + 1 < self.val.toNat then some ⟨id.val + 1⟩ else none

/-- How a number is written in texts. -/
def text (id : ObjectId) : String :=
  if id.isInvalid then "OBJECT_INVALID"
  else if id.isSelf then "OBJECT_SELF"
  else "#" ++ toString id.val.toNat

/-- How a reference to an object is written in diagnostic texts. -/
def referenceText (id : ObjectId) : String :=
  "ObjectReference(" ++ id.text ++ ")"

end ObjectId

end ScriptHost

import ScriptHost.Object.Search

/-!
# Nearness

Objects are ordered by the sum of their axis distances to a target, in the total order of floating
numbers; an object without a position counts as infinitely far.  Equally distant objects keep their
order.
-/

namespace ScriptHost

/-- How far an object is from a target. -/
def Object.distanceTo (o : Object) (target : Vector3) : Single :=
  match o.position with
  | some p => p.manhattan target
  | none => .infinity

/-- How two objects compare in nearness to a target. -/
def compareNear (target : Vector3) (a b : Object) : Ordering :=
  (a.distanceTo target).totalCompare (b.distanceTo target)

/-- Objects from the nearest to the farthest. -/
def sortNear (target : Vector3) (objects : List Object) : List Object :=
  objects.mergeSort fun a b ↦ compareNear target a b != .gt

/-- The objects among which the nearest to `target` is sought: placed objects of the right type in
the same area, other than `target` itself. -/
def nearCandidates (c : Container) (target : Object) (mask : TypeMask) (tag : Option String) :
    List Object :=
  let key : SearchKey := match tag with
    | some tag => .tag tag
    | none => .all
  ((Search.start c key).drain c).1.filter fun o ↦
    o.id != target.id && o.area == target.area && mask.holds o.type && o.position.isSome

/-- The `nth` nearest object to `target`, counting from zero; none if `target` has no position. -/
def nearest? (c : Container) (target : Object) (mask : TypeMask) (nth : Nat)
    (tag : Option String) : Option Object :=
  match target.position with
  | none => none
  | some p => (sortNear p (nearCandidates c target mask tag))[nth]?

end ScriptHost

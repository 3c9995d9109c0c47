import ScriptHost.Single.Text
import ScriptHost.Text.Shown

/-!
# Positions and directions

Three single-precision coordinates, with two distances.  Each operation on coordinates rounds, so
the order in which they are combined is part of the definition.
-/

namespace ScriptHost

/-- Three coordinates. -/
structure Vector3 where
  x : Single
  y : Single
  z : Single
  deriving DecidableEq, Inhabited

namespace Vector3

def zero : Vector3 := ⟨.zero, .zero, .zero⟩

/-- The sum of the distances along the axes. -/
def manhattan (a b : Vector3) : Single :=
  ((a.x.sub b.x).abs.add (a.y.sub b.y).abs).add (a.z.sub b.z).abs

/-- The length of the straight line. -/
def distance (a b : Vector3) : Single :=
  let dx := a.x.sub b.x
  let dy := a.y.sub b.y
  let dz := a.z.sub b.z
  (((dx.mul dx).add (dy.mul dy)).add (dz.mul dz)).sqrt

/-- Numerical equality of all coordinates. -/
def eq (a b : Vector3) : Bool :=
  a.x.eq b.x && a.y.eq b.y && a.z.eq b.z

def text (v : Vector3) : String :=
  Text.shownList [v.x.plain, v.y.plain, v.z.plain]

def diagnostic (v : Vector3) : String :=
  Text.shownRecord "Vector"
    [("x", v.x.diagnostic), ("y", v.y.diagnostic), ("z", v.z.diagnostic)]

end Vector3

end ScriptHost

/-!
# The frame

Whoever changes what is being shown has to hold the frame.  It is held by at most one at a time,
and it becomes free again also when its holder fails.
-/

namespace ScriptHost

/-- Whether the frame is held. -/
structure FrameLock where
  held : Bool
  deriving DecidableEq, Inhabited

namespace FrameLock

def free : FrameLock := ⟨false⟩

/-- Takes the frame if it is free, and says whether that was so. -/
def tryAcquire (l : FrameLock) : Bool × FrameLock :=
  (!l.held, ⟨true⟩)

/-- Takes the frame, once it is free. -/
def acquire (_ : FrameLock) : FrameLock := ⟨true⟩

/-- Lets go of the frame, and says whether it was held. -/
def release (l : FrameLock) : Bool × FrameLock :=
  (l.held, free)

/-- The holder fails, and lets go of the frame by that. -/
def fail (_ : FrameLock) : FrameLock := free

end FrameLock

end ScriptHost

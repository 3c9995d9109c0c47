/-!
# Time

Time is counted in milliseconds, in words of 64 bits.
-/

namespace ScriptHost

/-- A clock that is set by hand. -/
structure Clock where
  now : UInt64
  deriving DecidableEq, Inhabited

namespace Clock

def set (_ : Clock) (now : UInt64) : Clock := ⟨now⟩

/-- Lets time pass; the count starts over after `2 ^ 64`. -/
def advance (c : Clock) (delta : UInt64) : Clock := ⟨c.now + delta⟩

/-- The time after a delay, or the last moment that can be counted if that comes first. -/
def after (c : Clock) (delay : UInt64) : UInt64 :=
  if c.now.toNat + delay.toNat < UInt64.size then c.now + delay else UInt64.ofNat (UInt64.size - 1)

end Clock

end ScriptHost

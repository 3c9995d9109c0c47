import ScriptHost.Proofs.Engine.Effect

/-!
# What scripts can do to the world

A script is a tree of requests, so what it does to the world is bounded by what it asks for.
`Program.Within` bounds the requests of one program, each in the world in which it is made, and
`Interpreter.Within` those of all scripts.  A property that every allowed request keeps is kept by
every script, however deep scripts start one another (`launchAt_keeps`).
-/

namespace ScriptHost

variable {allowed : Command → World → Prop} {P : World → Prop}

namespace Program

/-- Whether a program, run in a world, makes only requests that are allowed where it makes them. -/
def Within (allowed : Command → World → Prop) (perform : (c : Command) → Step Note World c.Reply) :
    Program → World → Prop
  | .finish _, _ => True
  | .perform c next, w =>
    allowed c w ∧ (next (perform c w).value).Within allowed perform (perform c w).state
  | .observe next, w => (next w).Within allowed perform w
  | .note _ next, w => next.Within allowed perform w

/-- What the allowed requests keep, a program keeps. -/
theorem exec_keeps {perform : (c : Command) → Step Note World c.Reply}
    (h : ∀ c w, allowed c w → P w → P (perform c w).state) (p : Program) {w : World}
    (hp : p.Within allowed perform w) (hw : P w) : P (p.exec perform w).state := by
  induction p generalizing w with
  | finish result => exact hw
  | perform c next ih =>
    obtain ⟨hallowed, hnext⟩ := hp
    exact ih _ hnext (h c w hallowed hw)
  | observe next ih => exact ih w hp hw
  | note n next ih => exact ih hp hw

end Program

/-- Whether scripts, in whatever world they are started, make only allowed requests. -/
def Interpreter.Within (it : Interpreter) (allowed : Command → World → Prop) : Prop :=
  ∀ inv levels w, (it.run inv).Within allowed (Command.perform it (launchAt it levels)) w

variable {it : Interpreter}

/-- What the allowed requests keep, given that the scripts that they start do, every script keeps.
The property may not speak of how deep scripts are nested. -/
theorem launchAt_keeps (hit : it.Within allowed) (hdepth : ∀ w d, P w → P { w with depth := d })
    (h : ∀ launch : Launcher, (∀ inv w, P w → P (launch inv w).state) →
      ∀ c w, allowed c w → P w → P (c.perform it launch w).state) (levels : Nat) :
    ∀ inv w, P w → P (launchAt it levels inv w).state := by
  -- The scripts that a script starts have one level less.
  induction levels with
  | zero => exact fun _ _ hw ↦ hw
  | succ levels ih =>
    intro inv w hw
    have hstart : P { w with depth := w.depth + 1 } := hdepth w _ hw
    have hend := (it.run inv).exec_keeps (h _ ih) (hit inv levels _) hstart
    exact hdepth _ _ hend

theorem launch_keeps (hit : it.Within allowed) (hdepth : ∀ w d, P w → P { w with depth := d })
    (h : ∀ launch : Launcher, (∀ inv w, P w → P (launch inv w).state) →
      ∀ c w, allowed c w → P w → P (c.perform it launch w).state) (inv : Invocation) (w : World)
    (hw : P w) : P (launch it inv w).state :=
  launchAt_keeps hit hdepth h _ inv w hw

end ScriptHost

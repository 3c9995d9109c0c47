import ScriptHost.Value.Text

/-!
# Deferred actions and events

An action waits in the queue until its time has come: it resumes a script on an object, or destroys
an object.  Its number is how many were queued before it, and stays below `2 ^ 64` for that many
requests.  An event is something that happened outside and waits to be handed on.
-/

namespace ScriptHost

open Text

/-- What an action does when its time has come. -/
inductive ActionKind where
  | script (name : String) (state : ScriptState)
  | destroy

/-- A deferred action. -/
structure Action where
  kind : ActionKind
  owner : ObjectId
  triggerer : ObjectId
  /-- The time from which on it is due, in milliseconds. -/
  timestamp : UInt64
  /-- Its number in the order of queueing. -/
  seq : Nat

/-- The order of the queue: by time, and at equal times by the order of queueing. -/
structure ActionKey where
  timestamp : UInt64
  seq : Nat
  deriving DecidableEq

namespace ActionKey

instance : Ord ActionKey :=
  ⟨compareLex (compareOn ActionKey.timestamp) (compareOn ActionKey.seq)⟩

instance : Std.TransOrd ActionKey :=
  inferInstanceAs
    (Std.TransCmp (compareLex (compareOn ActionKey.timestamp) (compareOn ActionKey.seq)))

instance : Std.LawfulEqOrd ActionKey where
  eq_of_compare {a b} h := by
    have hlex : (compare a.timestamp b.timestamp).then (compare a.seq b.seq) = .eq := h
    rw [Ordering.then_eq_eq] at hlex
    cases a; cases b; simpa using hlex

def diagnostic (k : ActionKey) : String :=
  shownPair (toString k.timestamp.toNat) (toString k.seq)

end ActionKey

def ActionKind.diagnostic : ActionKind → String
  | script name state =>
    shownRecord "Script" [("script", quoted name), ("state", state.diagnostic)]
  | destroy => "Destroy"

/-- Whether the action resumes a script. -/
def ActionKind.isScript : ActionKind → Bool
  | script .. => true
  | destroy => false

namespace Action

/-- An action that resumes a script, not queued yet. -/
def script (name : String) (state : ScriptState) (owner triggerer : ObjectId)
    (timestamp : UInt64) : Action :=
  ⟨.script name state, owner, triggerer, timestamp, 0⟩

/-- An action that destroys an object, not queued yet. -/
def destroy (target : ObjectId) (timestamp : UInt64) : Action :=
  ⟨.destroy, target, .invalid, timestamp, 0⟩

/-- The script that the action resumes. -/
def scriptName? (a : Action) : Option String :=
  match a.kind with
  | .script name _ => some name
  | .destroy => none

def key (a : Action) : ActionKey :=
  ⟨a.timestamp, a.seq⟩

def diagnostic (a : Action) : String :=
  shownRecord "Action"
    [("kind", a.kind.diagnostic), ("owner", a.owner.referenceText),
      ("triggerer", a.triggerer.referenceText), ("timestamp", toString a.timestamp.toNat),
      ("seq", toString a.seq)]

end Action

/-- What happened. -/
inductive EventKind where
  | keyDown (key : UInt32)
  | keyUp (key : UInt32)
  | mouseMove (x y : Int32)
  | mouseButton (button : UInt8) (pressed : Bool)
  | quit
  | custom (text : String)
  deriving DecidableEq, Inhabited

def EventKind.diagnostic : EventKind → String
  | keyDown key => shownWrapped "KeyDown" (toString key.toNat)
  | keyUp key => shownWrapped "KeyUp" (toString key.toNat)
  | mouseMove x y => shownRecord "MouseMove" [("x", toString x.toInt), ("y", toString y.toInt)]
  | mouseButton button pressed =>
    shownRecord "MouseButton" [("button", toString button.toNat), ("pressed", shownFlag pressed)]
  | quit => "Quit"
  | custom text => shownWrapped "Custom" (quoted text)

/-- An event and when it happened. -/
structure Event where
  timestamp : UInt64
  kind : EventKind
  deriving DecidableEq, Inhabited

def Event.diagnostic (e : Event) : String :=
  shownRecord "Event" [("timestamp", toString e.timestamp.toNat), ("kind", e.kind.diagnostic)]

end ScriptHost

import ScriptHost.Engine

/-!
# Playbooks

A playbook gives each script as a list of instructions, and `Playbook.interpreter` executes them.
An instruction calls an engine function, edits the environment that the scripts it starts inherit,
starts another script, makes any other request to the world, or decides by what the script was
started with.
-/

namespace ScriptHost

/-- An argument of a call: a value, or what an earlier call left in a register. -/
inductive Operand where
  | value (v : Value)
  | register (name : String)

/-- What an instruction can decide by. -/
inductive Condition where
  /-- The script is resumed from a state. -/
  | resumed
  /-- The first local of that state is a given text. -/
  | resumedWith (tag : String)
  /-- A local of the owner is below a bound. -/
  | localBelow (name : String) (bound : Int)

/-- An instruction of a script. -/
inductive Instr where
  /-- Calls an engine function.  Its result goes into a register, if one is given.  A failure ends
  the script, unless the call is only an attempt. -/
  | call (function : FunctionName) (args : List Operand) (target : Option String) (attempt : Bool)
  | note (text : String)
  /-- Notes what the script was started with. -/
  | info
  | setEnv (name : String) (v : Value)
  | unsetEnv (name : String)
  | branch (condition : Condition) (yes no : List Instr)
  /-- Adds one to a local of the owner. -/
  | bump (name : String)
  | fail (message : String)
  /-- Starts a script on the same objects. -/
  | run (script : String)
  /-- Makes a request to the world, and notes the answer. -/
  | request (c : Command)

/-- What a running script changes about itself: its environment and its registers. -/
structure Frame where
  script : Script
  registers : SortedMap String Value

namespace Frame

def operand (f : Frame) : Operand → Value
  | .value v => v
  | .register name => (f.registers.get? name).getD .void

def store (f : Frame) (target : Option String) (v : Value) : Frame :=
  match target with
  | some name => { f with registers := f.registers.insert name v }
  | none => f

def setEnv (f : Frame) (name : String) (v : Value) : Frame :=
  { f with script.environment := f.script.environment.insert name v }

def unsetEnv (f : Frame) (name : String) : Frame :=
  { f with script.environment := f.script.environment.erase name }

end Frame

/-- Whether a condition holds. -/
def Condition.holds (w : World) (inv : Invocation) : Condition → Bool
  | resumed => inv.state.isSome
  | resumedWith tag =>
    match inv.state.bind (·.locals.head?) with
    | some (.string s) => s == tag
    | _ => false
  | localBelow name bound =>
    ((w.objects.get? inv.owner).elim 0 fun o ↦ (o.localInt name).toInt) < bound

mutual

/-- What an instruction does, given what follows it. -/
def Instr.program (inv : Invocation) : Instr → (Frame → Program) → Frame → Program
  | .call function args target attempt, next, f =>
    .perform (.call function (args.map f.operand) ⟨inv.owner, inv.triggerer, some f.script⟩)
      fun
      | .ok v => .note (.returned v) (next (f.store target v))
      | .error e =>
        if attempt then .note (.failed e) (next f) else .finish (.error (.dispatch e))
  | .note text, next, f => .note (.text text) (next f)
  | .info, next, f => .observe fun w ↦
    .note (.invocation f.script inv.owner inv.triggerer w.depth inv.state) (next f)
  | .setEnv name v, next, f => next (f.setEnv name v)
  | .unsetEnv name, next, f => next (f.unsetEnv name)
  | .branch condition yes no, next, f => .observe fun w ↦
    if condition.holds w inv then programOf inv yes next f else programOf inv no next f
  | .bump name, next, f => .observe fun w ↦
    match w.objects.get? inv.owner with
    | none => next f
    | some o =>
      .perform (.objects (.setLocal inv.owner name (.int (o.localInt name + 1)))) fun _ ↦ next f
  | .fail message, _, f => .finish (.error (.execution f.script.name message))
  | .run script, next, f =>
    .perform (.runScript script inv.owner inv.triggerer) fun
      | .ok () => next f
      | .error e => .finish (.error e)
  | .request c, next, f => .perform c fun reply ↦ .note (.performed c reply) (next f)

/-- What instructions do one after the other, given what follows them. -/
def programOf (inv : Invocation) : List Instr → (Frame → Program) → Frame → Program
  | [], next, f => next f
  | i :: rest, next, f => i.program inv (programOf inv rest next) f

end

/-- A script of a playbook.  One without instructions can be loaded, but not run. -/
structure PlaybookScript where
  bytecode : List UInt8
  body : Option (List Instr)

/-- Scripts by name. -/
abbrev Playbook := SortedMap String PlaybookScript

namespace Playbook

/-- The program of a script that is started. -/
def run (p : Playbook) (inv : Invocation) : Program :=
  match (p.get? inv.script.name).bind (·.body) with
  | some body => programOf inv body (fun _ ↦ .done) ⟨inv.script, ∅⟩
  | none => .finish (.error (.notFound inv.script.name))

/-- The interpreter that executes a playbook. -/
def interpreter (p : Playbook) : Interpreter where
  resolve name := (p.get? name).map (·.bytecode)
  run := p.run

end Playbook

end ScriptHost

import ScriptHost.Command

/-!
# What scripts do

The engine does not know how scripts are executed: an `Interpreter` gives it, for each start of a
script, a `Program`, which is a tree of requests to the world.  Whatever an interpreter does to the
world, it does by requests, and so nothing that holds of all requests can be broken by a script.
-/

namespace ScriptHost

/-- One start of a script: on which object, set off by which, and from which state it is resumed if
it is. -/
structure Invocation where
  script : Script
  owner : ObjectId
  triggerer : ObjectId
  state : Option ScriptState

/-- What a started script does. -/
inductive Program where
  /-- It ends. -/
  | finish (result : Except ScriptError Unit)
  /-- It asks something of the world and goes on with the answer. -/
  | perform (c : Command) (next : c.Reply → Program)
  /-- It looks at the world. -/
  | observe (next : World → Program)
  /-- It notes something. -/
  | note (n : Note) (next : Program)

namespace Program

/-- A script that ends well. -/
def done : Program := .finish (.ok ())

/-- Runs a program, given how requests are answered. -/
def exec (perform : (c : Command) → Step Note World c.Reply) :
    Program → Step Note World (Except ScriptError Unit)
  | .finish result => pure result
  | .perform c next => do
    let reply ← perform c
    (next reply).exec perform
  | .observe next => fun w ↦ (next w).exec perform w
  | .note n next => do
    Step.note n
    next.exec perform

end Program

/-- Where scripts come from, and what they do. -/
structure Interpreter where
  /-- The compiled code of a script. -/
  resolve : String → Option (List UInt8)
  run : Invocation → Program

/-- How a loaded script is started. -/
abbrev Launcher := Invocation → Step Note World (Except ScriptError Unit)

/-- Loads a script, with an empty environment. -/
def Interpreter.load (it : Interpreter) (name : String) : Except ScriptError Script :=
  match it.resolve name with
  | some bytecode => .ok ⟨name, bytecode, ∅⟩
  | none => .error (.notFound name)

/-- Loads a script and starts it. -/
def Interpreter.runScript (it : Interpreter) (launch : Launcher) (name : String)
    (owner triggerer : ObjectId) (environment : Environment) (state : Option ScriptState) :
    Step Note World (Except ScriptError Unit) :=
  match it.load name with
  | .error e => pure (.error e)
  | .ok script => launch ⟨{ script with environment }, owner, triggerer, state⟩

end ScriptHost

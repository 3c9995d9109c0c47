import ScriptHost.Text.Shown
import ScriptHost.Toml.Reader

/-!
# Settings of a world

Four settings, each with a default.  They are read from a document of settings, in which other
names are passed over.
-/

namespace ScriptHost

/-- The settings of a world. -/
structure Config where
  /-- The seed of the random numbers; without one, every run differs. -/
  rngSeed : Option UInt64
  /-- The most actions that fire in one pump, if there is a limit. -/
  maxActionsPerPump : Option Nat
  /-- How deep scripts may start one another. -/
  maxScriptDepth : Nat
  /-- Whether calls of functions that are not implemented are reported. -/
  logUnimplemented : Bool
  deriving DecidableEq

/-- Why settings cannot be had. -/
inductive ConfigError where
  | unreadable (path : String)
  | malformed

/-- What is said when a file of settings is not there. -/
def ConfigError.message : ConfigError → String
  | unreadable path =>
    "failed to read config '" ++ path ++ "': No such file or directory (os error 2)"
  | malformed => "invalid config"

namespace Config

def default : Config := ⟨none, none, 8, true⟩

instance : Inhabited Config := ⟨default⟩

def withSeed (c : Config) (seed : UInt64) : Config :=
  { c with rngSeed := some seed }

/-- The natural under a name; nothing if the name is not there, a failure if another value is. -/
def natural (t : Toml.Table) (name : String) : Except ConfigError (Option Nat) :=
  match t.get? name with
  | none => .ok none
  | some (.integer n) => if 0 ≤ n then .ok (some n.toNat) else .error .malformed
  | some _ => .error .malformed

/-- The truth value under a name. -/
def flag (t : Toml.Table) (name : String) : Except ConfigError (Option Bool) :=
  match t.get? name with
  | none => .ok none
  | some (.boolean b) => .ok (some b)
  | some _ => .error .malformed

/-- The settings in a table. -/
def ofTable (t : Toml.Table) : Except ConfigError Config := do
  let seed ← natural t "rng_seed"
  let actions ← natural t "max_actions_per_pump"
  let depth ← natural t "max_script_depth"
  let log ← flag t "log_unimplemented"
  return {
    rngSeed := seed.map UInt64.ofNat
    maxActionsPerPump := actions
    maxScriptDepth := depth.getD default.maxScriptDepth
    logUnimplemented := log.getD default.logUnimplemented }

/-- The settings in a document. -/
def read (text : String) : Except ConfigError Config :=
  match Toml.read? text with
  | none => .error .malformed
  | some t => ofTable t

def diagnostic (c : Config) : String :=
  Text.shownRecord "RuntimeConfig"
    [("rng_seed", Text.shownOption (c.rngSeed.map fun s ↦ toString s.toNat)),
      ("max_actions_per_pump", Text.shownOption (c.maxActionsPerPump.map toString)),
      ("max_script_depth", toString c.maxScriptDepth),
      ("log_unimplemented", Text.shownFlag c.logUnimplemented)]

end Config

end ScriptHost

/-!
# Documents of settings

The content of a TOML document: tables of values under names.  Tables remember how they came to be,
because a table may be opened by a header only once, and a table made by dotted names may only be
extended by dotted names.
-/

namespace ScriptHost.Toml

/-- How a table came to be. -/
inductive Origin where
  /-- By its own header. -/
  | header
  /-- As a step on the way to a header below it. -/
  | passage
  /-- As a step of a dotted name. -/
  | dotted
  /-- Written out as a value. -/
  | inline
  deriving DecidableEq

mutual

/-- A value.  Texts of floating numbers and dates are kept as written. -/
inductive Value where
  | string (s : String)
  | integer (n : Int)
  | float (text : String)
  | boolean (b : Bool)
  | datetime (text : String)
  | array (items : List Value)
  | table (fields : Table)
  /-- Tables under a repeated header, the last one first. -/
  | tables (first : Table) (earlier : List Table)

/-- A table, its entries in the order in which they were made. -/
inductive Table where
  | mk (origin : Origin) (entries : List (String × Value))

end

namespace Table

def origin : Table → Origin
  | mk o _ => o

def entries : Table → List (String × Value)
  | mk _ es => es

def empty (o : Origin) : Table := mk o []

def get? (t : Table) (name : String) : Option Value :=
  t.entries.lookup name

/-- The table with a value under a name, in the place of the value that was there. -/
def put (t : Table) (name : String) (v : Value) : Table :=
  if t.entries.any (·.1 == name) then
    mk t.origin (t.entries.map fun e ↦ if e.1 == name then (name, v) else e)
  else mk t.origin (t.entries ++ [(name, v)])

def setOrigin (t : Table) (o : Origin) : Table :=
  mk o t.entries

/-- Adds a value under a dotted name.  A step leads into a table that has no header or into the last
of repeated tables, the last step into a table that dotted names made; the last name must be
free. -/
def define (t : Table) : List String → String → Value → Option Table
  | [], name, v => if (t.get? name).isSome then none else some (t.put name v)
  | step :: path, name, v =>
    match t.get? step with
    | none => do
      let inner ← (empty .dotted).define path name v
      some (t.put step (.table inner))
    | some (.table inner) =>
      if inner.origin = .dotted ∨ (inner.origin = .passage ∧ path ≠ []) then do
        let inner ← inner.define path name v
        some (t.put step (.table inner))
      else none
    | some (.tables last earlier) =>
      if path ≠ [] then do
        let last ← last.define path name v
        some (t.put step (.tables last earlier))
      else none
    | some _ => none

/-- Changes the table at the end of a path of headers.  Steps that are missing are made; a step
onto repeated tables leads into the last one. -/
def follow (t : Table) : List String → (Table → Option Table) → Option Table
  | [], change => change t
  | step :: path, change =>
    match t.get? step with
    | none => do
      let inner ← (empty .passage).follow path change
      some (t.put step (.table inner))
    | some (.table inner) =>
      if inner.origin = .inline then none
      else do
        let inner ← inner.follow path change
        some (t.put step (.table inner))
    | some (.tables last earlier) => do
      let last ← last.follow path change
      some (t.put step (.tables last earlier))
    | some _ => none

/-- Opens a table by its header: it must be new, or only passed through so far. -/
def openTable (t : Table) (path : List String) (name : String) : Option Table :=
  t.follow path fun parent ↦
    match parent.get? name with
    | none => some (parent.put name (.table (empty .header)))
    | some (.table inner) =>
      if inner.origin = .passage then some (parent.put name (.table (inner.setOrigin .header)))
      else none
    | some _ => none

/-- Opens one more table under a repeated header. -/
def openRepeated (t : Table) (path : List String) (name : String) : Option Table :=
  t.follow path fun parent ↦
    match parent.get? name with
    | none => some (parent.put name (.tables (empty .header) []))
    | some (.tables last earlier) =>
      some (parent.put name (.tables (empty .header) (last :: earlier)))
    | some _ => none

/-- Adds a value under a dotted name in the table that a header opened. -/
def defineUnder (t : Table) (header : List String) (path : List String) (name : String)
    (v : Value) : Option Table :=
  t.follow header fun opened ↦ opened.define path name v

end Table

end ScriptHost.Toml

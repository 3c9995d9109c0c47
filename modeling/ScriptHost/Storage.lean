import ScriptHost.Json.Number
import ScriptHost.Object

/-!
# Stored forms

How values, captured states, types, object numbers, object types, relations and environments are
kept as JSON.  A case with content is an object with one member, a case without content is its
name, and a record is an object with its fields.

Reading is a little wider than writing: a case without content may also be an object with one empty
member, a record may also be a list of its fields in order, and fields that a record does not have
are passed over.  No more than `maxLevels` lists and objects may stand inside one another.
-/

namespace ScriptHost.Storage

open Json

/-! ## Writing -/

/-- A case with content. -/
def tagged (name : String) (content : Node) : Node :=
  .ofMembers [(name, content)]

def writeVector (v : Vector3) : Node :=
  .ofMembers [("x", .ofSingle v.x), ("y", .ofSingle v.y), ("z", .ofSingle v.z)]

mutual

def writeValue : Value → Node
  | .void => .ofString "Void"
  | .int n => tagged "Int" (.ofInt n.toInt)
  | .float x => tagged "Float" (.ofSingle x)
  | .string s => tagged "String" (.ofString s)
  | .object id => tagged "Object" (.ofInt id.val.toNat)
  | .vector v => tagged "Vector" (writeVector v)
  | .engine kind payload =>
    tagged "Engine"
      (.ofMembers [("kind", .ofString kind.title), ("payload", .list (writeValues payload))])
  | .action offset globals locals =>
    tagged "ScriptState"
      (.ofMembers
        [("offset", .ofInt offset.toNat), ("globals", .list (writeValues globals)),
          ("locals", .list (writeValues locals))])

def writeValues : List Value → List Node
  | [] => []
  | v :: vs => writeValue v :: writeValues vs

end

def writeState (s : ScriptState) : Node :=
  .ofMembers
    [("offset", .ofInt s.offset.toNat), ("globals", .list (writeValues s.globals)),
      ("locals", .list (writeValues s.locals))]

def writeType : ValueType → Node
  | .engine kind => tagged "Engine" (.ofString kind.title)
  | t => .ofString t.title

def writeObjectId (id : ObjectId) : Node :=
  .ofInt id.val.toNat

/-! ## Reading -/

/-- The most lists and objects that may stand inside one another. -/
def maxLevels : Nat := 127

/-- A whole number within bounds. -/
def readInt (low high : Int) (n : Node) : Option Int :=
  match n.int? with
  | some i => if low ≤ i ∧ i ≤ high then some i else none
  | none => none

def readInt32 (n : Node) : Option Int32 :=
  (readInt Int32.minValue.toInt Int32.maxValue.toInt n).map Int32.ofInt

def readUInt32 (n : Node) : Option UInt32 :=
  (readInt 0 (UInt32.size - 1) n).map fun i ↦ UInt32.ofNat i.toNat

def readText : Node → Option String
  | .text s => s
  | _ => none

/-- A case with content, where so many levels are left: its name and its content. -/
def readCase : Nat → Node → Option (String × Node)
  | _ + 1, .object [(some name, content)] => some (name, content)
  | _, _ => none

/-- A case without content: its name. -/
def readUnit : Nat → Node → Option String
  | _, .text s => s
  | _ + 1, .object [(some name, .null)] => some name
  | _, _ => none

/-- The one member of a name. -/
def uniqueMember (members : List (Option String × Node)) (name : String) : Option Node :=
  match members.filter (·.1 == some name) with
  | [(_, n)] => some n
  | _ => none

/-- The fields of a record, where so many levels are left. -/
def readRecord (fields : List String) : Nat → Node → Option (List Node)
  | _ + 1, .list items => if items.length = fields.length then some items else none
  | _ + 1, .object members =>
    if members.all (·.1.isSome) then fields.mapM (uniqueMember members) else none
  | _, _ => none

/-- The items of a list, where so many levels are left. -/
def readItemsWith {α : Type} (item : Node → Option α) : Nat → Node → Option (List α)
  | _ + 1, .list items => items.mapM item
  | _, _ => none

def readKind (levels : Nat) (n : Node) : Option EngineKind :=
  (readUnit levels n).bind EngineKind.ofTitle?

def readVector (levels : Nat) (n : Node) : Option Vector3 := do
  match ← readRecord ["x", "y", "z"] levels n with
  | [x, y, z] => return ⟨← x.single?, ← y.single?, ← z.single?⟩
  | _ => none

/-- The values that hold no other values. -/
def readPlain (levels : Nat) (n : Node) : Option Value :=
  if readUnit levels n = some "Void" then some .void
  else
    match readCase levels n with
    | some ("Int", c) => (readInt32 c).map .int
    | some ("Float", c) => c.single?.map .float
    | some ("String", c) => (readText c).map .string
    | some ("Object", c) => (readUInt32 c).map fun n ↦ .object ⟨n⟩
    | some ("Vector", c) => (readVector (levels - 1) c).map .vector
    | _ => none

/-- A captured state, given how its values are read. -/
def readStateWith (item : Node → Option Value) (levels : Nat) (n : Node) : Option ScriptState := do
  match ← readRecord ["offset", "globals", "locals"] levels n with
  | [offset, globals, locals] =>
    return {
      offset := ← readUInt32 offset
      globals := ← readItemsWith item (levels - 1) globals
      locals := ← readItemsWith item (levels - 1) locals }
  | _ => none

/-- The values that hold other values, given how those are read. -/
def readNested (item : Node → Option Value) (levels : Nat) (n : Node) : Option Value := do
  match ← readCase levels n with
  | ("Engine", c) =>
    match ← readRecord ["kind", "payload"] (levels - 1) c with
    | [kind, payload] =>
      return .engine (← readKind (levels - 2) kind) (← readItemsWith item (levels - 2) payload)
    | _ => none
  | ("ScriptState", c) => return .ofState (← readStateWith item (levels - 1) c)
  | _ => none

/-- A value, where so many levels are left.  A value that holds others takes three levels before
theirs. -/
def readValue : Nat → Node → Option Value
  | levels + 3, n =>
    match readPlain (levels + 3) n with
    | some v => some v
    | none => readNested (readValue levels) (levels + 3) n
  | levels, n => readPlain levels n

/-- A captured state, where so many levels are left. -/
def readState (levels : Nat) (n : Node) : Option ScriptState :=
  readStateWith (readValue (levels - 2)) levels n

def readType (levels : Nat) (n : Node) : Option ValueType :=
  match readUnit levels n with
  | some "Void" => some .void
  | some "Int" => some .int
  | some "Float" => some .float
  | some "String" => some .string
  | some "Object" => some .object
  | some "Vector" => some .vector
  | some "ScriptState" => some .action
  | _ =>
    match readCase levels n with
    | some ("Engine", c) => (readKind (levels - 1) c).map .engine
    | _ => none

def readObjectId (n : Node) : Option ObjectId :=
  (readUInt32 n).map .mk

/-- Named values; of two values under one name the later one counts. -/
def readBindings : Nat → Node → Option Environment
  | levels + 1, .object members => do
    let entries ← members.mapM fun (name, n) ↦ do
      let name ← name
      let v ← readValue levels n
      some (name, v)
    return .ofList entries
  | _, _ => none

def readEnvironment (levels : Nat) (n : Node) : Option Environment := do
  match ← readRecord ["bindings"] levels n with
  | [bindings] => readBindings (levels - 1) bindings
  | _ => none

/-! ## Texts -/

/-- What a stored text holds. -/
def load? {α : Type} (read : Node → Option α) (text : String) : Option α :=
  (Json.read? text).bind read

def loadValue? : String → Option Value := load? (readValue maxLevels)

def loadState? : String → Option ScriptState := load? (readState maxLevels)

def loadType? : String → Option ValueType := load? (readType maxLevels)

def loadObjectId? : String → Option ObjectId := load? readObjectId

def loadObjectType? : String → Option ObjectType :=
  load? fun n ↦ (readUnit maxLevels n).bind ObjectType.ofTitle?

def loadRelation? : String → Option Relation :=
  load? fun n ↦ (readUnit maxLevels n).bind Relation.ofTitle?

def loadEnvironment? : String → Option Environment := load? (readEnvironment maxLevels)

/-- The text kept for a value. -/
def saveValue (v : Value) : String := (writeValue v).write

/-- The text kept for a captured state. -/
def saveState (s : ScriptState) : String := (writeState s).write

def saveType (t : ValueType) : String := (writeType t).write

def saveObjectId (id : ObjectId) : String := (writeObjectId id).write

def saveObjectType (t : ObjectType) : String := (Node.ofString t.title).write

def saveRelation (r : Relation) : String := (Node.ofString r.title).write

end ScriptHost.Storage

import ScriptHost.Builtin.Native

/-!
# Engine functions keep to their types

`Builtin.signature` says at which types a function reads its parameters, and of which type the
result is that it leaves.  Given parameters of these types a function reads every one of them, so
it comes to an end and its result has the right type (`gives_invoke`), whatever objects and numbers
it is given and whatever the scripts do that it starts.  Only three functions want more: the name of
the script that calls them (`Builtin.needsScript`).
-/

namespace ScriptHost

/-! ## Reading -/

/-- Values of a type can be read. -/
def Reads {α : Type} (read : Value → Except TypeMismatch α) (t : ValueType) : Prop :=
  ∀ v : Value, v.type = t → ∃ a, read v = .ok a

namespace Value

theorem reads_asInt : Reads asInt .int := by
  rintro (_ | n | _ | _ | _ | _ | _ | _) ⟨⟩
  exact ⟨n, rfl⟩

theorem reads_asFloat : Reads asFloat .float := by
  rintro (_ | _ | x | _ | _ | _ | _ | _) ⟨⟩
  exact ⟨x, rfl⟩

theorem reads_asString : Reads asString .string := by
  rintro (_ | _ | _ | s | _ | _ | _ | _) ⟨⟩
  exact ⟨s, rfl⟩

theorem reads_asObject : Reads asObject .object := by
  rintro (_ | _ | _ | _ | id | _ | _ | _) ⟨⟩
  exact ⟨id, rfl⟩

theorem reads_asState : Reads asState .action := by
  rintro (_ | _ | _ | _ | _ | _ | _ | ⟨offset, globals, locals⟩) ⟨⟩
  exact ⟨⟨offset, globals, locals⟩, rfl⟩

end Value

/-- A call with parameters of the types of a signature, and a result that is of the right type as
long as nobody sets another. -/
structure CallContext.Fits (ctx : CallContext) (s : Signature) : Prop where
  params_eq : ctx.params.map Value.type = s.params
  result_eq : ctx.returnValue.type = s.returnType

namespace CallContext.Fits

variable {ctx : CallContext} {s : Signature} {t : ValueType} {i : Nat}

theorem param (h : ctx.Fits s) (ht : s.params[i]? = some t) :
    ∃ v, ctx.param i = .ok v ∧ v.type = t := by
  rw [← h.params_eq, List.getElem?_map, Option.map_eq_some_iff] at ht
  obtain ⟨v, hv, hvt⟩ := ht
  refine ⟨v, ?_, hvt⟩
  rw [CallContext.param, hv]

theorem arg {α : Type} {read : Value → Except TypeMismatch α} (h : ctx.Fits s)
    (hread : Reads read t) (ht : s.params[i]? = some t) : ∃ a, ctx.arg read i = .ok a := by
  obtain ⟨v, hv, hvt⟩ := h.param ht
  obtain ⟨a, ha⟩ := hread v hvt
  refine ⟨a, ?_⟩
  rw [CallContext.arg, hv]
  dsimp only
  rw [ha]
  rfl

/-- Whether its object is live makes no difference to whether a parameter can be read. -/
theorem objectArg (h : ctx.Fits s) (w : World) (ht : s.params[i]? = some .object) :
    ∃ id, Builtin.objectArg w ctx i = .ok id := by
  obtain ⟨id, hid⟩ := h.arg Value.reads_asObject ht
  refine ⟨w.objects.resolveId id ctx.caller, ?_⟩
  rw [Builtin.objectArg, hid]
  rfl

end CallContext.Fits

namespace Builtin

/-! ## Types -/

/-- The types that a function relies on. -/
def signature : Builtin → Signature
  | random => ⟨.int, [.int]⟩
  | printString => ⟨.void, [.string]⟩
  | printFloat => ⟨.void, [.float, .int, .int]⟩
  | floatToString => ⟨.string, [.float, .int, .int]⟩
  | printInteger => ⟨.void, [.int]⟩
  | printObject => ⟨.void, [.object]⟩
  | assignCommand => ⟨.void, [.object, .action]⟩
  | delayCommand => ⟨.void, [.float, .action]⟩
  | executeScript => ⟨.void, [.string, .object]⟩
  | clearAllActions => ⟨.void, [.int]⟩
  | getArea => ⟨.object, [.object]⟩
  | getPosition => ⟨.vector, [.object]⟩
  | getDistanceToObject => ⟨.float, [.object]⟩
  | getIsObjectValid => ⟨.int, [.object]⟩
  | getLocal t => ⟨t.valueType, [.object, .string]⟩
  | setLocal t => ⟨.void, [.object, .string, t.valueType]⟩
  | getStringLength => ⟨.int, [.string]⟩
  | intToString => ⟨.string, [.int]⟩
  | getObjectType => ⟨.int, [.object]⟩
  | getDistanceBetween => ⟨.float, [.object, .object]⟩
  | getTag => ⟨.string, [.object]⟩
  | getObjectByTag => ⟨.object, [.string, .int]⟩
  | getNearestObject => ⟨.object, [.int, .object, .int]⟩
  | getNearestObjectByTag => ⟨.object, [.string, .object, .int]⟩
  | intToFloat => ⟨.float, [.int]⟩
  | floatToInt => ⟨.int, [.float]⟩
  | stringToInt => ⟨.int, [.string]⟩
  | destroyObject => ⟨.void, [.object, .float]⟩
  | getModule => ⟨.object, []⟩
  | deleteLocal _ => ⟨.void, [.object, .string]⟩
  | actionDoCommand => ⟨.void, [.action]⟩

/-- Whether a function queues the script that calls it, and so has to know its name. -/
def needsScript : Builtin → Bool
  | assignCommand | delayCommand | actionDoCommand => true
  | _ => false

/-! ## Results -/

/-- What was read is a value of a type. -/
def Yields (t : ValueType) (x : Except NativeError Value) : Prop :=
  ∃ v, x = .ok v ∧ v.type = t

/-- The call comes to an end, with a result of a type. -/
def Gives (t : ValueType) (out : Outcome Note World (Except NativeError CallContext)) : Prop :=
  ∃ after, out.value = .ok after ∧ after.returnValue.type = t

section Combinators

variable {α : Type} {t : ValueType} {ctx : CallContext} {s : Signature} {w : World}

theorem Yields.pure {v : Value} (h : v.type = t) : Yields t (.ok v) := ⟨v, rfl, h⟩

theorem Yields.bind {x : Except NativeError α} {k : α → Except NativeError Value}
    (hx : ∃ a, x = .ok a) (h : ∀ a, Yields t (k a)) : Yields t (x >>= k) := by
  obtain ⟨a, rfl⟩ := hx
  exact h a

theorem Yields.map {x : Except NativeError α} {g : α → Value} (hx : ∃ a, x = .ok a)
    (h : ∀ a, (g a).type = t) : Yields t (x.map g) := by
  obtain ⟨a, rfl⟩ := hx
  exact .pure (h a)

theorem Gives.withArgs {read : Except NativeError α} {next : α → Native} (hread : ∃ a, read = .ok a)
    (h : ∀ a, read = .ok a → Gives t (next a w)) : Gives t (Builtin.withArgs read next w) := by
  obtain ⟨a, rfl⟩ := hread
  exact h a rfl

theorem Gives.look {f : World → CallContext → Except NativeError Value} (h : Yields t (f w ctx)) :
    Gives t (Builtin.look f ctx w) := by
  obtain ⟨v, hv, hvt⟩ := h
  exact .withArgs ⟨v, hv⟩ fun u hu ↦ ⟨ctx.setReturn u, rfl, Except.ok.inj (hu.symm.trans hv) ▸ hvt⟩

/-- A function that leaves the result as it is, which is of the right type. -/
theorem Gives.done (h : ctx.Fits s) {out : Outcome Note World (Except NativeError CallContext)}
    (hout : out.value = .ok ctx) : Gives s.returnType out :=
  ⟨ctx, hout, h.result_eq⟩

theorem Gives.print {text : Except NativeError String} (h : ctx.Fits s)
    (htext : ∃ a, text = .ok a) : Gives s.returnType (Builtin.print ctx text w) :=
  .withArgs htext fun _ _ ↦ .done h rfl

end Combinators

/-! ## Functions that only look -/

section Look

variable {ctx : CallContext} {w : World}

theorem yields_distanceOf (h : ctx.Fits getDistanceBetween.signature) :
    Yields .float (distanceOf w ctx) :=
  .bind (h.objectArg w rfl) fun _ ↦ .bind (h.objectArg w rfl) fun _ ↦ .pure rfl

theorem yields_byTag (h : ctx.Fits getObjectByTag.signature) : Yields .object (byTag w ctx) := by
  refine .bind (h.arg Value.reads_asString rfl) fun tag ↦
    .bind (h.arg Value.reads_asInt rfl) fun nth ↦ ?_
  split
  · exact .pure rfl
  · exact .pure rfl

theorem yields_nearestByType (h : ctx.Fits getNearestObject.signature) :
    Yields .object (nearestByType w ctx) :=
  .bind (h.arg Value.reads_asInt rfl) fun _ ↦ .bind (h.objectArg w rfl) fun _ ↦
    .bind (h.arg Value.reads_asInt rfl) fun _ ↦ .pure rfl

theorem yields_nearestByTag (h : ctx.Fits getNearestObjectByTag.signature) :
    Yields .object (nearestByTag w ctx) :=
  .bind (h.arg Value.reads_asString rfl) fun _ ↦ .bind (h.objectArg w rfl) fun _ ↦
    .bind (h.arg Value.reads_asInt rfl) fun _ ↦ .pure rfl

theorem type_localOf (t : LocalType) (o : Option Object) (name : String) :
    (localOf t o name).type = t.valueType := by
  cases t <;> rfl

theorem yields_localValue {t : LocalType} (h : ctx.Fits (getLocal t).signature) :
    Yields t.valueType (localValue t w ctx) :=
  .bind (h.objectArg w rfl) fun _ ↦ .bind (h.arg Value.reads_asString rfl) fun _ ↦
    .pure (type_localOf t _ _)

/-- The two functions that write floats read the same parameters. -/
theorem floatText_ok {t : ValueType} (h : ctx.Fits ⟨t, [.float, .int, .int]⟩) :
    ∃ text, floatText ctx = .ok text := by
  obtain ⟨x, hx⟩ := h.arg (i := 0) Value.reads_asFloat rfl
  obtain ⟨width, hwidth⟩ := h.arg (i := 1) Value.reads_asInt rfl
  obtain ⟨places, hplaces⟩ := h.arg (i := 2) Value.reads_asInt rfl
  refine ⟨formatFloat x width places, ?_⟩
  rw [floatText, hx, hwidth, hplaces]
  rfl

end Look

/-! ## Functions that change something -/

section Change

variable {ctx : CallContext} {w : World} {it : Interpreter} {launch : Launcher}

theorem requireScriptName_ok (h : ctx.scriptName ≠ "") : ∃ name, ctx.requireScriptName = .ok name :=
  ⟨ctx.scriptName, if_neg h⟩

theorem gives_assignCommand (h : ctx.Fits assignCommand.signature) (hscript : ctx.scriptName ≠ "") :
    Gives .void (runAssignCommand ctx w) := by
  refine .withArgs (requireScriptName_ok hscript) fun script _ ↦
    .withArgs (h.objectArg w rfl) fun owner _ ↦ ?_
  split
  · exact .done h rfl
  · exact .withArgs (h.arg Value.reads_asState rfl) fun _ _ ↦ .done h rfl

theorem gives_delayCommand (h : ctx.Fits delayCommand.signature) (hscript : ctx.scriptName ≠ "") :
    Gives .void (runDelayCommand ctx w) :=
  .withArgs (requireScriptName_ok hscript) fun _ _ ↦
    .withArgs (h.arg Value.reads_asFloat rfl) fun _ _ ↦
      .withArgs (h.arg Value.reads_asState rfl) fun _ _ ↦ .done h rfl

theorem gives_actionDoCommand (h : ctx.Fits actionDoCommand.signature)
    (hscript : ctx.scriptName ≠ "") : Gives .void (runActionDoCommand ctx w) :=
  .withArgs (requireScriptName_ok hscript) fun _ _ ↦
    .withArgs (h.arg Value.reads_asState rfl) fun _ _ ↦ .done h rfl

/-- The caller goes on, however the script ends. -/
theorem gives_executeScript (h : ctx.Fits executeScript.signature) :
    Gives .void (runExecuteScript it launch ctx w) := by
  refine .withArgs (h.arg Value.reads_asString rfl) fun name _ ↦
    .withArgs (h.objectArg w rfl) fun target _ ↦ .done h ?_
  rw [Step.value_bind]
  generalize it.runScript launch name target ctx.triggerer _ none w = out
  cases out.value with
  | ok => rfl
  | error e => rfl

theorem gives_destroyObject (h : ctx.Fits destroyObject.signature) :
    Gives .void (runDestroyObject ctx w) := by
  refine .withArgs (h.objectArg w rfl) fun target _ ↦ ?_
  split
  · exact .done h rfl
  · refine .withArgs (h.arg Value.reads_asFloat rfl) fun delay _ ↦ ?_
    split
    · exact .done h rfl
    · exact .done h rfl

theorem gives_setLocal {t : LocalType} (h : ctx.Fits (setLocal t).signature) :
    Gives .void (runSetLocal ctx w) := by
  obtain ⟨v, hv, -⟩ := h.param (i := 2) rfl
  exact .withArgs (h.objectArg w rfl) fun _ _ ↦
    .withArgs (h.arg Value.reads_asString rfl) fun _ _ ↦ .withArgs ⟨v, hv⟩ fun _ _ ↦ .done h rfl

theorem gives_deleteLocal {t : LocalType} (h : ctx.Fits (deleteLocal t).signature) :
    Gives .void (runDeleteLocal ctx w) :=
  .withArgs (h.objectArg w rfl) fun _ _ ↦
    .withArgs (h.arg Value.reads_asString rfl) fun _ _ ↦ .done h rfl

/-- A function that is given parameters of its types, and the name of the calling script if it needs
it, comes to an end and leaves a result of its type. -/
theorem gives_invoke (b : Builtin) (h : ctx.Fits b.signature)
    (hscript : b.needsScript = true → ctx.scriptName ≠ "") :
    Gives b.signature.returnType (invoke it launch b ctx w) := by
  cases b with
  | random => exact .withArgs (h.arg Value.reads_asInt rfl) fun _ _ ↦ ⟨_, rfl, rfl⟩
  | printString => exact .print h (h.arg Value.reads_asString rfl)
  | printFloat => exact .print h (floatText_ok h)
  | floatToString => exact .look (.map (floatText_ok h) fun _ ↦ rfl)
  | printInteger =>
    obtain ⟨n, hn⟩ := h.arg (i := 0) Value.reads_asInt rfl
    exact .print h ⟨_, congrArg _ hn⟩
  | printObject =>
    obtain ⟨id, hid⟩ := h.arg (i := 0) Value.reads_asObject rfl
    exact .print h ⟨_, congrArg _ hid⟩
  | assignCommand => exact gives_assignCommand h (hscript rfl)
  | delayCommand => exact gives_delayCommand h (hscript rfl)
  | executeScript => exact gives_executeScript h
  | clearAllActions => exact .done h rfl
  | getArea | getPosition | getDistanceToObject | getIsObjectValid | getObjectType | getTag =>
    exact .look (.bind (h.objectArg w rfl) fun _ ↦ .pure rfl)
  | getLocal t => exact .look (yields_localValue h)
  | setLocal t => exact gives_setLocal h
  | getStringLength | stringToInt =>
    exact .look (.map (h.arg Value.reads_asString rfl) fun _ ↦ rfl)
  | intToString | intToFloat => exact .look (.map (h.arg Value.reads_asInt rfl) fun _ ↦ rfl)
  | getDistanceBetween => exact .look (yields_distanceOf h)
  | getObjectByTag => exact .look (yields_byTag h)
  | getNearestObject => exact .look (yields_nearestByType h)
  | getNearestObjectByTag => exact .look (yields_nearestByTag h)
  | floatToInt => exact .look (.map (h.arg Value.reads_asFloat rfl) fun _ ↦ rfl)
  | destroyObject => exact gives_destroyObject h
  | getModule => exact .look (.pure rfl)
  | deleteLocal t => exact gives_deleteLocal h
  | actionDoCommand => exact gives_actionDoCommand h (hscript rfl)

/-- Without the name of the calling script, a function that needs it fails before it does
anything. -/
theorem invoke_nameless {b : Builtin} (hb : b.needsScript = true) (hscript : ctx.scriptName = "") :
    invoke it launch b ctx w = ⟨.error (.missingScriptName ctx.name), w, []⟩ := by
  have hname : ctx.requireScriptName = .error (.missingScriptName ctx.name) := if_pos hscript
  have hread : ∀ next : String → Native,
      withArgs ctx.requireScriptName next w = ⟨.error (.missingScriptName ctx.name), w, []⟩ := by
    intro next
    rw [hname]
    rfl
  cases b with
  | assignCommand | delayCommand | actionDoCommand => exact hread _
  | _ => cases hb

end Change

end Builtin

end ScriptHost

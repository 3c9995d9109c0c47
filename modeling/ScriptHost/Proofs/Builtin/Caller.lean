import ScriptHost.Builtin.Native

/-!
# Objects as the caller means them

To an engine function `self` is another name for its caller.  It reads an object parameter together
with the caller, and then it makes no difference which of the two names was given: parameters that
mean the same to the caller (`CallContext.Means`) give the same result and leave the same world and
the same log (`Builtin.endsAlike_invoke`).  There is one parameter that is not read in this way, the
value of a local, which is stored as it is.
-/

namespace ScriptHost

/-! ## Values -/

namespace Value

/-- A value as a caller means it: `self` is the caller. -/
def meant (caller : ObjectId) : Value → Value
  | object id => object (id.orCaller caller)
  | v => v

/-- A way to read values that gives the same whichever way an object is named. -/
def Plain {α : Type} (read : Value → Except TypeMismatch α) : Prop :=
  ∀ (caller : ObjectId) (v : Value), read (v.meant caller) = read v

theorem plain_asInt : Plain asInt := by
  rintro caller (_ | _ | _ | _ | _ | _ | _ | _) <;> rfl

theorem plain_asFloat : Plain asFloat := by
  rintro caller (_ | _ | _ | _ | _ | _ | _ | _) <;> rfl

theorem plain_asString : Plain asString := by
  rintro caller (_ | _ | _ | _ | _ | _ | _ | _) <;> rfl

theorem plain_asState : Plain asState := by
  rintro caller (_ | _ | _ | _ | _ | _ | _ | _) <;> rfl

/-- The object that a caller means. -/
theorem map_orCaller_asObject (caller : ObjectId) (v : Value) :
    v.asObject.map (·.orCaller caller) = (v.meant caller).asObject := by
  cases v <;> rfl

end Value

/-! ## Parameters -/

namespace CallContext

/-- The call with other parameters, as many of them given as it says. -/
def regiven (ctx : CallContext) (params : List Value) (specified : Nat) : CallContext :=
  { ctx with params, specified }

/-- Other parameters for a call that mean the same to its caller. -/
def Means (ctx : CallContext) (params : List Value) : Prop :=
  params.map (Value.meant ctx.caller) = ctx.params.map (Value.meant ctx.caller)

variable {ctx : CallContext} {params : List Value} {n i : Nat}

theorem caller_regiven : (ctx.regiven params n).caller = ctx.caller := rfl

theorem params_regiven : (ctx.regiven params n).params = params := rfl

theorem param_regiven (hlen : params.length = ctx.params.length)
    (hplace : params[i]? = ctx.params[i]?) : (ctx.regiven params n).param i = ctx.param i := by
  unfold CallContext.param
  rw [params_regiven, hplace, hlen]

/-- A parameter is missing from both calls, or there in both and means the same. -/
theorem Means.param (h : ctx.Means params) :
    (∃ e, ctx.param i = .error e ∧ (ctx.regiven params n).param i = .error e) ∨
      ∃ u v, ctx.param i = .ok u ∧ (ctx.regiven params n).param i = .ok v ∧
        v.meant ctx.caller = u.meant ctx.caller := by
  have hplace : params[i]?.map (Value.meant ctx.caller) =
      ctx.params[i]?.map (Value.meant ctx.caller) := by
    rw [← List.getElem?_map, ← List.getElem?_map, h]
  have hlen : params.length = ctx.params.length := by
    rw [← List.length_map (Value.meant ctx.caller), h, List.length_map]
  unfold CallContext.param
  rw [params_regiven]
  cases hu : ctx.params[i]? with
  | none =>
    rw [hu, Option.map_none, Option.map_eq_none_iff] at hplace
    rw [hplace, hlen]
    exact .inl ⟨_, rfl, rfl⟩
  | some u =>
    rw [hu, Option.map_some, Option.map_eq_some_iff] at hplace
    obtain ⟨v, hv, hmeant⟩ := hplace
    rw [hv]
    exact .inr ⟨u, v, rfl, rfl, hmeant⟩

theorem Means.arg {α : Type} {read : Value → Except TypeMismatch α} (h : ctx.Means params)
    (hread : Value.Plain read) : (ctx.regiven params n).arg read i = ctx.arg read i := by
  unfold CallContext.arg
  rcases h.param (n := n) (i := i) with ⟨e, hu, hv⟩ | ⟨u, v, hu, hv, hmeant⟩
  · rw [hu, hv]
  · rw [hu, hv]
    dsimp only
    rw [← hread ctx.caller v, hmeant, hread]

/-- The objects that are meant are the same. -/
theorem Means.map_orCaller_arg (h : ctx.Means params) :
    ((ctx.regiven params n).arg Value.asObject i).map (·.orCaller ctx.caller) =
      (ctx.arg Value.asObject i).map (·.orCaller ctx.caller) := by
  unfold CallContext.arg
  have hmap : ∀ v : Value, (v.asObject.mapError NativeError.conversion).map
      (·.orCaller ctx.caller) = (v.meant ctx.caller).asObject.mapError .conversion := by
    intro v
    rw [← Value.map_orCaller_asObject]
    cases v.asObject with
    | ok id => rfl
    | error e => rfl
  rcases h.param (n := n) (i := i) with ⟨e, hu, hv⟩ | ⟨u, v, hu, hv, hmeant⟩
  · rw [hu, hv]
  · rw [hu, hv]
    dsimp only
    rw [hmap, hmap, hmeant]

theorem Means.objectArg (h : ctx.Means params) (w : World) :
    Builtin.objectArg w (ctx.regiven params n) i = Builtin.objectArg w ctx i := by
  -- What a reference resolves to is settled by the object that the caller means by it.
  have hmap : ∀ x : Except NativeError ObjectId,
      x.map (fun id ↦ w.objects.resolveId id ctx.caller) =
        (x.map (·.orCaller ctx.caller)).map fun id ↦
          if w.objects.contains id then id else .invalid := by
    rintro (e | id) <;> rfl
  unfold Builtin.objectArg
  rw [caller_regiven, hmap, hmap, h.map_orCaller_arg]

end CallContext

/-! ## Natives -/

namespace Builtin

/-- Two calls end alike: with the same failure or the same result, and they leave the same world and
the same log. -/
structure EndsAlike (out out' : Outcome Note World (Except NativeError CallContext)) : Prop where
  value_eq : out'.value.map (·.returnValue) = out.value.map (·.returnValue)
  state_eq : out'.state = out.state
  log_eq : out'.log = out.log

section Combinators

variable {α : Type} {ctx : CallContext} {params : List Value} {n : Nat} {w : World}

theorem EndsAlike.withArgs {read read' : Except NativeError α} {next next' : α → Native}
    (hread : read' = read) (h : ∀ a, EndsAlike (next a w) (next' a w)) :
    EndsAlike (Builtin.withArgs read next w) (Builtin.withArgs read' next' w) := by
  subst hread
  cases read' with
  | ok a => exact h a
  | error e => exact ⟨rfl, rfl, rfl⟩

theorem EndsAlike.bind (x : Step Note World α) {k k' : α → Native}
    (h : ∀ a s, EndsAlike (k a s) (k' a s)) : EndsAlike ((x >>= k) w) ((x >>= k') w) := by
  have hend := h (x w).value (x w).state
  exact ⟨hend.value_eq, hend.state_eq, congrArg ((x w).log ++ ·) hend.log_eq⟩

theorem EndsAlike.look {f : World → CallContext → Except NativeError Value}
    (h : f w (ctx.regiven params n) = f w ctx) :
    EndsAlike (Builtin.look f ctx w) (Builtin.look f (ctx.regiven params n) w) :=
  .withArgs h fun _ ↦ ⟨rfl, rfl, rfl⟩

/-- A function that turns one parameter into something else. -/
theorem EndsAlike.convert {read : Value → Except TypeMismatch α} {g : α → Value} {i : Nat}
    (h : ctx.Means params) (hread : Value.Plain read) :
    EndsAlike (Builtin.look (fun _ ctx ↦ (ctx.arg read i).map g) ctx w)
      (Builtin.look (fun _ ctx ↦ (ctx.arg read i).map g) (ctx.regiven params n) w) :=
  .look (congrArg (Except.map g) (h.arg hread))

theorem EndsAlike.print {text text' : Except NativeError String} (h : text' = text) :
    EndsAlike (Builtin.print ctx text w) (Builtin.print (ctx.regiven params n) text' w) :=
  .withArgs h fun _ ↦ ⟨rfl, rfl, rfl⟩

end Combinators

section Natives

variable {it : Interpreter} {launch : Launcher} {w : World} {ctx : CallContext}
variable {params : List Value} {n : Nat}

theorem floatText_regiven (h : ctx.Means params) :
    floatText (ctx.regiven params n) = floatText ctx := by
  simp only [floatText, h.arg Value.plain_asFloat, h.arg Value.plain_asInt]

theorem endsAlike_assignCommand (h : ctx.Means params) :
    EndsAlike (runAssignCommand ctx w) (runAssignCommand (ctx.regiven params n) w) := by
  refine .withArgs rfl fun script ↦ .withArgs (h.objectArg w) fun owner ↦ ?_
  split
  · exact ⟨rfl, rfl, rfl⟩
  · exact .withArgs (h.arg Value.plain_asState) fun _ ↦ ⟨rfl, rfl, rfl⟩

/-- The script is started on the same object, and what it does is the same. -/
theorem endsAlike_executeScript (h : ctx.Means params) :
    EndsAlike (runExecuteScript it launch ctx w)
      (runExecuteScript it launch (ctx.regiven params n) w) := by
  refine .withArgs (h.arg Value.plain_asString) fun name ↦ .withArgs (h.objectArg w) fun target ↦ ?_
  refine .bind (it.runScript launch name target ctx.triggerer _ none) fun result s ↦ ?_
  cases result with
  | ok => exact ⟨rfl, rfl, rfl⟩
  | error e => exact ⟨rfl, rfl, rfl⟩

theorem endsAlike_destroyObject (h : ctx.Means params) :
    EndsAlike (runDestroyObject ctx w) (runDestroyObject (ctx.regiven params n) w) := by
  refine .withArgs (h.objectArg w) fun target ↦ ?_
  split
  · exact ⟨rfl, rfl, rfl⟩
  · refine .withArgs (h.arg Value.plain_asFloat) fun delay ↦ ?_
    split
    · exact ⟨rfl, rfl, rfl⟩
    · exact ⟨rfl, rfl, rfl⟩

/-- Calls whose parameters mean the same to their caller end alike, if a value that is to be stored
is not only meant but is the same. -/
theorem endsAlike_invoke (b : Builtin) (h : ctx.Means params)
    (hstored : ∀ t, b = setLocal t → (ctx.regiven params n).param 2 = ctx.param 2) :
    EndsAlike (invoke it launch b ctx w) (invoke it launch b (ctx.regiven params n) w) := by
  cases b with
  | random => exact .withArgs (h.arg Value.plain_asInt) fun _ ↦ ⟨rfl, rfl, rfl⟩
  | printString => exact .print (h.arg Value.plain_asString)
  | printFloat => exact .print (floatText_regiven h)
  | printInteger => exact .print (by rw [h.arg Value.plain_asInt])
  | printObject =>
    have hmap : ∀ x : Except NativeError ObjectId,
        x.map (fun id ↦ (id.orCaller ctx.caller).text) =
          (x.map (·.orCaller ctx.caller)).map (·.text) := by
      rintro (e | id) <;> rfl
    refine .print ?_
    rw [CallContext.caller_regiven, hmap, hmap, h.map_orCaller_arg]
  | assignCommand => exact endsAlike_assignCommand h
  | delayCommand =>
    exact .withArgs rfl fun _ ↦ .withArgs (h.arg Value.plain_asFloat) fun _ ↦
      .withArgs (h.arg Value.plain_asState) fun _ ↦ ⟨rfl, rfl, rfl⟩
  | actionDoCommand =>
    exact .withArgs rfl fun _ ↦ .withArgs (h.arg Value.plain_asState) fun _ ↦ ⟨rfl, rfl, rfl⟩
  | executeScript => exact endsAlike_executeScript h
  | clearAllActions => exact ⟨rfl, rfl, rfl⟩
  | destroyObject => exact endsAlike_destroyObject h
  | setLocal t =>
    exact .withArgs (h.objectArg w) fun _ ↦ .withArgs (h.arg Value.plain_asString) fun _ ↦
      .withArgs (hstored t rfl) fun _ ↦ ⟨rfl, rfl, rfl⟩
  | deleteLocal t =>
    exact .withArgs (h.objectArg w) fun _ ↦ .withArgs (h.arg Value.plain_asString) fun _ ↦
      ⟨rfl, rfl, rfl⟩
  | floatToString =>
    exact .look (f := fun _ ctx ↦ (floatText ctx).map .string)
      (congrArg (Except.map Value.string) (floatText_regiven h))
  | getStringLength | stringToInt => exact .convert h Value.plain_asString
  | intToString | intToFloat => exact .convert h Value.plain_asInt
  | floatToInt => exact .convert h Value.plain_asFloat
  | getModule => exact ⟨rfl, rfl, rfl⟩
  | getArea => exact .look (by simp only [areaOf, h.objectArg, CallContext.caller_regiven])
  | getPosition => exact .look (by simp only [positionOf, h.objectArg])
  | getDistanceToObject =>
    exact .look (by simp only [distanceTo, h.objectArg, CallContext.caller_regiven])
  | getIsObjectValid => exact .look (by simp only [isValid, h.objectArg])
  | getObjectType => exact .look (by simp only [typeOf, h.objectArg])
  | getDistanceBetween => exact .look (by simp only [distanceOf, h.objectArg])
  | getTag => exact .look (by simp only [tagOf, h.objectArg])
  | getLocal t =>
    exact .look (by simp only [localValue, h.objectArg, h.arg Value.plain_asString])
  | getObjectByTag =>
    exact .look (by simp only [byTag, h.arg Value.plain_asString, h.arg Value.plain_asInt])
  | getNearestObject =>
    exact .look (by simp only [nearestByType, h.objectArg, h.arg Value.plain_asInt])
  | getNearestObjectByTag =>
    exact .look (by
      simp only [nearestByTag, h.objectArg, h.arg Value.plain_asString, h.arg Value.plain_asInt])

end Natives

end Builtin

end ScriptHost

import ScriptHost.Proofs.Function.Registration

/-!
# The contract of a call

A call is refused before anything runs, or its native is invoked once and sees parameters of the
declared types.  `Registry.call_contract` says so of every registry that functions were registered
in, of all natives and of all hosts.  To count the invocations, natives are run so that they are
written down (`Invoke.recording`), which changes nothing else (`call_recording`).
-/

namespace ScriptHost

/-! ## What calls come to -/

/-- What a call comes to, by what its native leaves. -/
def FunctionDef.result {η : Type} (f : FunctionDef η) :
    Except NativeError CallContext → Except DispatchError Value
  | .error e => .error (.native f.name e)
  | .ok after =>
    if after.returnValue.type = f.signature.returnType then .ok after.returnValue
    else .error (.returnTypeMismatch f.name f.signature.returnType after.returnValue.type)

/-- Whether an error says that a call was refused, and not that a native went wrong. -/
def DispatchError.IsRefusal : DispatchError → Prop
  | unknownFunction _ | tooFewArguments .. | tooManyArguments .. | argumentTypeMismatch .. => True
  | unknownFunctionName _ | returnTypeMismatch .. | native .. => False

theorem FunctionDef.not_isRefusal_result {η : Type} {f : FunctionDef η}
    {left : Except NativeError CallContext} {e : DispatchError} (h : f.result left = .error e) :
    ¬e.IsRefusal := by
  unfold result at h
  split at h
  · cases h
    exact not_false
  · split at h
    · cases h
    · cases h
      exact not_false

namespace Registry

variable {η ν σ : Type} {r : Registry η}

/-! ## Calls -/

section Calls

variable {f : FunctionDef η} {args : List Value} {e : DispatchError} {id : FunctionId}
variable (invoke : Invoke η ν σ) (site : CallSite) (s : σ)

theorem call_of_unknown (hf : r.get? id = none) :
    r.call invoke id args site s = ⟨.error (.unknownFunction id), s, []⟩ := by
  rw [call, hf]
  rfl

theorem call_of_refuses (hf : r.get? id = some f) (h : f.Refuses args e) :
    r.call invoke id args site s = ⟨.error e, s, []⟩ := by
  rw [call, hf]
  dsimp only
  rw [h.make_eq]
  rfl

theorem call_of_accepts (hf : r.get? id = some f) (h : f.Accepts args) :
    r.call invoke id args site s = r.run invoke f (f.context args site) s := by
  rw [call, hf]
  dsimp only
  rw [h.make_eq]

theorem run_unimplemented (hf : f.native = none) (ctx : CallContext) :
    (r.run invoke f ctx s).value = .ok ctx.returnValue ∧ (r.run invoke f ctx s).state = s := by
  rw [run, hf]
  cases r.logUnimplemented with
  | true => exact ⟨rfl, rfl⟩
  | false => exact ⟨rfl, rfl⟩

theorem run_implemented {native : η} (hf : f.native = some native) (ctx : CallContext) :
    r.run invoke f ctx s =
      ⟨f.result (invoke native ctx s).value, (invoke native ctx s).state,
        .record .trace ctx.describe :: (invoke native ctx s).log⟩ := by
  have hrun : r.run invoke f ctx = do
      Step.record .trace ctx.describe
      let left ← invoke native ctx
      return f.result left := by
    rw [run, hf]
    dsimp only
    congr
    funext _
    congr
    funext left
    cases left with
    | error e => rfl
    | ok after =>
      dsimp only [FunctionDef.result]
      split <;> rfl
  rw [hrun]
  exact Outcome.ext rfl rfl (congrArg (_ :: ·) (List.append_nil _))

/-- A call that is accepted comes to what its native makes of it, and to the zero value if there is
none. -/
theorem value_call_of_accepts (hf : r.get? id = some f) (h : f.Accepts args) :
    (r.call invoke id args site s).value =
      f.native.elim (.ok (.zero f.signature.returnType)) fun native ↦
        f.result (invoke native (f.context args site) s).value := by
  rw [call_of_accepts invoke site s hf h]
  cases hnative : f.native with
  | none => exact (run_unimplemented invoke s hnative _).1
  | some native =>
    rw [run_implemented invoke s hnative]
    rfl

theorem value_call_eq_error_iff (hf : r.get? id = some f) (he : e.IsRefusal) :
    (r.call invoke id args site s).value = .error e ↔ f.Refuses args e := by
  by_cases h : ∃ e', f.Refuses args e'
  · obtain ⟨e', he'⟩ := h
    rw [call_of_refuses invoke site s hf he']
    refine ⟨fun heq ↦ ?_, fun h' ↦ congrArg Except.error (he'.unique h')⟩
    cases heq
    exact he'
  · rw [value_call_of_accepts invoke site s hf
      (FunctionDef.accepts_of_not_refuses (not_exists.1 h))]
    refine ⟨fun heq ↦ ?_, fun h' ↦ absurd ⟨e, h'⟩ h⟩
    -- What a native makes of a call is not a refusal.
    cases hnative : f.native with
    | none =>
      rw [hnative] at heq
      cases heq
    | some native =>
      rw [hnative] at heq
      exact absurd he (FunctionDef.not_isRefusal_result heq)

theorem value_call_eq_unknown_iff :
    (r.call invoke id args site s).value = .error (.unknownFunction id) ↔ r.get? id = none := by
  cases hf : r.get? id with
  | none =>
    rw [call_of_unknown invoke site s hf]
    exact ⟨fun _ ↦ rfl, fun _ ↦ rfl⟩
  | some f =>
    rw [value_call_eq_error_iff (e := .unknownFunction id) invoke site s hf trivial]
    exact ⟨nofun, nofun⟩

/-- Natives that run as before, and are written down each time that they are invoked. -/
def Invoke.recording (invoke : Invoke η ν σ) : Invoke η ν (σ × List (η × CallContext)) :=
  fun native ctx s ↦
    let out := invoke native ctx s.1
    ⟨out.value, (out.state, s.2 ++ [(native, ctx)]), out.log⟩

/-- To write down the invocations changes nothing else. -/
theorem run_recording (f : FunctionDef η) (ctx : CallContext) (calls : List (η × CallContext)) :
    let out := r.run invoke.recording f ctx (s, calls)
    (⟨out.value, out.state.1, out.log⟩ : Outcome ν σ (Except DispatchError Value)) =
      r.run invoke f ctx s := by
  intro out
  cases hf : f.native with
  | none =>
    have hout : out = r.run invoke.recording f ctx (s, calls) := rfl
    rw [hout, run, run, hf]
    cases r.logUnimplemented with
    | true => rfl
    | false => rfl
  | some native =>
    have hout : out = _ := run_implemented invoke.recording (s, calls) hf ctx
    rw [hout, run_implemented invoke s hf ctx]
    rfl

theorem call_recording (calls : List (η × CallContext)) :
    let out := r.call invoke.recording id args site (s, calls)
    (⟨out.value, out.state.1, out.log⟩ : Outcome ν σ (Except DispatchError Value)) =
      r.call invoke id args site s := by
  intro out
  cases hf : r.get? id with
  | none =>
    have hout : out = _ := call_of_unknown invoke.recording site (s, calls) hf
    rw [hout, call_of_unknown invoke site s hf]
  | some f =>
    by_cases h : ∃ e, f.Refuses args e
    · obtain ⟨e, he⟩ := h
      have hout : out = _ := call_of_refuses invoke.recording site (s, calls) hf he
      rw [hout, call_of_refuses invoke site s hf he]
    · have haccepts := FunctionDef.accepts_of_not_refuses (not_exists.1 h)
      have hout : out = _ := call_of_accepts invoke.recording site (s, calls) hf haccepts
      rw [hout, call_of_accepts invoke site s hf haccepts]
      exact run_recording invoke s f _ calls

end Calls

/-- The native of a function that is called well is invoked once, in the context of the call, and
one that is missing is not. -/
theorem state_call_recording {f : FunctionDef η} {args : List Value} {id : FunctionId}
    (invoke : Invoke η ν σ) (site : CallSite) (s : σ) (hf : r.get? id = some f)
    (h : f.Accepts args) :
    (r.call invoke.recording id args site (s, [])).state =
      f.native.elim (s, []) fun native ↦
        ((invoke native (f.context args site) s).state, [(native, f.context args site)]) := by
  rw [call_of_accepts invoke.recording site (s, []) hf h]
  cases hnative : f.native with
  | none => exact (run_unimplemented invoke.recording (s, []) hnative _).2
  | some native =>
    rw [run_implemented invoke.recording (s, []) hnative]
    rfl

/-- What holds of every call in every registry that functions were registered in, whatever their
natives do to the host.  A call is refused because its function is unknown, or for the first of the
reasons in `FunctionDef.Refuses`; then no native is invoked, and the host stays as it is.  In all
other cases the native, if there is one, is invoked once.  It sees as many parameters as are
declared, of the declared types: the arguments, and the last defaults for what was left out.  To
give some of these defaults oneself makes no difference to the parameters. -/
theorem call_contract (logUnimplemented : Bool) (changes : List (Change η))
    (invoke : Invoke η ν σ) (id : FunctionId) (args : List Value) (site : CallSite) (s : σ) :
    let r := (⟨∅, ∅, logUnimplemented⟩ : Registry η).runChanges changes
    let out := r.call invoke.recording id args site (s, [])
    (⟨out.value, out.state.1, out.log⟩ : Outcome ν σ (Except DispatchError Value)) =
        r.call invoke id args site s ∧
      (out.value = .error (.unknownFunction id) ↔ r.get? id = none) ∧
      (r.get? id = none → out.state = (s, [])) ∧
      ∀ f, r.get? id = some f →
        (∀ e : DispatchError, e.IsRefusal → (out.value = .error e ↔ f.Refuses args e)) ∧
        (∀ e, f.Refuses args e → out.state = (s, [])) ∧
        ((∀ e, ¬f.Refuses args e) → ∃ ctx omitted,
          omitted <:+ f.defaults ∧ ctx.params = args ++ omitted ∧
          ctx.params.map Value.type = f.signature.params ∧ ctx.specified = args.length ∧
          ctx.returnValue = .zero f.signature.returnType ∧ ctx.site = site ∧
          (f.native = none →
            out.value = .ok (.zero f.signature.returnType) ∧ out.state = (s, [])) ∧
          (∀ native, f.native = some native →
            out.value = f.result (invoke native ctx s).value ∧
            out.state = ((invoke native ctx s).state, [(native, ctx)])) ∧
          ∀ n, (r.call invoke.recording id (args ++ omitted.take n) site (s, [])).state.2.map
              (fun call ↦ (call.1, call.2.params)) =
            out.state.2.map fun call ↦ (call.1, call.2.params)) := by
  intro r out
  have hsound : r.Sound := (Sound.of_isEmpty rfl).runChanges changes
  refine ⟨call_recording invoke site s [], value_call_eq_unknown_iff invoke.recording site (s, []),
    ?_, ?_⟩
  · intro hf
    have hout : out = _ := call_of_unknown invoke.recording site (s, []) hf
    rw [hout]
  · intro f hf
    obtain ⟨-, hwf⟩ := hsound id f hf
    refine ⟨fun e he ↦ value_call_eq_error_iff invoke.recording site (s, []) hf he, ?_, ?_⟩
    · intro e he
      have hout : out = _ := call_of_refuses invoke.recording site (s, []) hf he
      rw [hout]
    · intro hrefuses
      have haccepts := FunctionDef.accepts_of_not_refuses hrefuses
      have hvalue : out.value = _ := value_call_of_accepts invoke.recording site (s, []) hf haccepts
      have hstate : out.state = _ := state_call_recording invoke site s hf haccepts
      refine ⟨f.context args site, f.defaults.drop (args.length - f.minCount),
        List.drop_suffix _ _, FunctionDef.fill_eq hwf.defaults_le args,
        FunctionDef.types_fill hwf haccepts, rfl, rfl, rfl, ?_, ?_, ?_⟩
      · intro hnative
        rw [hvalue, hstate, hnative]
        exact ⟨rfl, rfl⟩
      · intro native hnative
        rw [hvalue, hstate, hnative]
        exact ⟨rfl, rfl⟩
      · intro n
        obtain ⟨hgiven, hfill⟩ := FunctionDef.fill_append_take hwf haccepts n
        rw [hstate, state_call_recording invoke site s hf hgiven]
        cases f.native with
        | none => rfl
        | some native =>
          change [(native, f.fill _)] = [(native, f.fill args)]
          rw [hfill]

end Registry

end ScriptHost

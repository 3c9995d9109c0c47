import ScriptHost.Proofs.Engine.Locals
import ScriptHost.Proofs.Object.Nearness

/-!
# Scripts that ask for the nearest object

`GetNearestObject` and `GetNearestObjectByTag` count from one, and what they count off is what
`RanksNearest` says of the container: the candidates in the order of nearness.  The one looks at all
objects and keeps those of some types, the other follows the index by tag and takes every type.
They read their parameters in two ways and answer in one (`World.AnswersNearest`).
-/

namespace ScriptHost

namespace Builtin

variable {w : World} {ctx : CallContext} {c : Container} {mask : TypeMask} {tag : Option String}
variable {nth : Int32}

theorem nearestByType_eq {bits : Int32} {reference : ObjectId}
    (h : ctx.params = [.int bits, .object reference, .int nth]) :
    nearestByType w ctx = .ok (.object
      (nearestId w.objects (w.objects.resolveId reference ctx.caller) (.ofScript bits) nth
        none)) := by
  obtain ⟨id, name, signature, defaults, params, specified, returnValue, site⟩ := ctx
  cases h
  rfl

theorem nearestByTag_eq {text : String} {reference : ObjectId}
    (h : ctx.params = [.string text, .object reference, .int nth]) :
    nearestByTag w ctx = .ok (.object
      (nearestId w.objects (w.objects.resolveId reference ctx.caller) .all nth (some text))) := by
  obtain ⟨id, name, signature, defaults, params, specified, returnValue, site⟩ := ctx
  cases h
  rfl

theorem nearestId_of_le_zero {id : ObjectId} (h : nth.toInt ≤ 0) :
    nearestId c id mask nth tag = .invalid :=
  if_pos (Int.lt_add_one_of_le h)

/-- Counting from one, the object at a place is the one that so many less one come before. -/
theorem nearestId_of_succ {target : Object} {k : Nat} {id : ObjectId} (h : nth.toInt = k + 1)
    (htarget : c.get? id = some target) :
    nearestId c id mask nth tag = (nearest? c target mask k tag).elim .invalid (·.id) := by
  have hplace : (nth.toInt - 1).toNat = k := by omega
  rw [nearestId, if_neg (by omega), hplace, htarget]
  rfl

theorem nearestId_of_missing {id : ObjectId} (h : c.get? id = none) :
    nearestId c id mask nth tag = .invalid := by
  rw [nearestId, h]
  exact ite_self _

end Builtin

namespace World

/-- What a call answers that asks for the object at a place in the order of nearness to a target,
counting from one. -/
structure AnswersNearest (w : World) (id : ObjectId) (mask : TypeMask) (tag : Option String)
    (nth : Int32) (out : Outcome Note World (Except DispatchError Value)) : Prop where
  state_eq : out.state = w
  /-- There is no place before the first. -/
  of_le_zero : nth.toInt ≤ 0 → out.value = .ok (.object .invalid)
  /-- The object at a place is the one that so many less one come before. -/
  of_some : ∀ k : Nat, nth.toInt = k + 1 → ∀ target, w.objects.get? id = some target →
    ∀ o, nearest? w.objects target mask k tag = some o → out.value = .ok (.object o.id)
  of_none : ∀ k : Nat, nth.toInt = k + 1 → ∀ target, w.objects.get? id = some target →
    nearest? w.objects target mask k tag = none → out.value = .ok (.object .invalid)
  of_missing : w.objects.get? id = none → out.value = .ok (.object .invalid)

theorem answersNearest {w : World} {id : ObjectId} {mask : TypeMask} {tag : Option String}
    {nth : Int32} {out : Outcome Note World (Except DispatchError Value)}
    (h : out.value = .ok (.object (Builtin.nearestId w.objects id mask nth tag)) ∧ out.state = w) :
    w.AnswersNearest id mask tag nth out := by
  obtain ⟨hvalue, hstate⟩ := h
  refine ⟨hstate, fun hnth ↦ ?_, fun k hnth target htarget o ho ↦ ?_,
    fun k hnth target htarget hnone ↦ ?_, fun hmissing ↦ ?_⟩
  · rw [hvalue, Builtin.nearestId_of_le_zero hnth]
  · rw [hvalue, Builtin.nearestId_of_succ hnth htarget, ho]
    rfl
  · rw [hvalue, Builtin.nearestId_of_succ hnth htarget, hnone]
    rfl
  · rw [hvalue, Builtin.nearestId_of_missing hmissing]

/-- A function that looks for the nearest object among some answers so, whichever of its parameters
are left out. -/
theorem Reachable.call_nearest {w : World} (hw : w.Reachable) (hopen : w.isShutDown = false)
    {f : FunctionDef Builtin} (hf : f ∈ Builtin.table) {b : Builtin} (hnative : f.native = some b)
    {answer : World → CallContext → Except NativeError Value} {it : Interpreter} {launch : Launcher}
    (hlook : Builtin.invoke it launch b = Builtin.look answer) {function : FunctionName}
    (hfunction : function = .id f.id ∨ function = .name f.name) {args : List Value}
    (htypes : (f.fill args).map Value.type = b.signature.params)
    (hreturn : b.signature.returnType = .object) {site : CallSite} {id : ObjectId} {mask : TypeMask}
    {tag : Option String} {nth : Int32}
    (hanswer : answer w (f.context args site) =
      .ok (.object (Builtin.nearestId w.objects id mask nth tag))) :
    w.AnswersNearest id mask tag nth (call it launch function args site w) := by
  have hsig : f.signature = b.signature := Builtin.signature_eq hf hnative
  have haccepts : f.Accepts args := by
    refine FunctionDef.accepts_of_types_fill (Builtin.wellFormed_table f hf) ?_
    rw [htypes, hsig]
  refine answersNearest (hw.call_look hopen hf hnative hlook hfunction haccepts site hanswer ?_)
  rw [hsig, hreturn]
  rfl

/-- In every container that changes can lead to, and in that of every world: the nearest objects to
a target are counted off from the candidates by distance and number, one after the other until they
are at an end, whether they are sought through the index by tag or among all objects.  Both
functions of the engine count so from one, whatever is left out of their parameters; before the
first place, past the last one and without a target there is no object. -/
theorem nearest_by_rank (history : List Container.Change) (about : Object) (mask : TypeMask)
    (tag : Option String) {w : World} (hw : w.Reachable) (hopen : w.isShutDown = false)
    (it : Interpreter) (launch : Launcher) (site : CallSite) (args : List Value)
    (reference : ObjectId) (nth : Int32) :
    (Container.empty.run history).RanksNearest about mask tag ∧
      w.objects.RanksNearest about mask tag ∧
      (∀ f ∈ Builtin.table, f.name = "GetNearestObject" →
        ∀ bits, f.fill args = [.int bits, .object reference, .int nth] →
        ∀ function, (function = .id f.id ∨ function = .name f.name) →
          w.AnswersNearest (w.objects.resolveId reference site.caller) (.ofScript bits) none nth
            (call it launch function args site w)) ∧
      ∀ f ∈ Builtin.table, f.name = "GetNearestObjectByTag" →
        ∀ text, f.fill args = [.string text, .object reference, .int nth] →
        ∀ function, (function = .id f.id ∨ function = .name f.name) →
          w.AnswersNearest (w.objects.resolveId reference site.caller) .all (some text) nth
            (call it launch function args site w) := by
  have hempty := Container.WellFormed.empty.run history
  refine ⟨hempty.ranksNearest about mask tag, hw.wellFormed_objects.ranksNearest about mask tag,
    ?_, ?_⟩
  · intro f hf hname bits hfill function hfunction
    have hnative : f.native = some .getNearestObject :=
      Builtin.native_of_name hf hname
    refine hw.call_nearest hopen hf hnative rfl hfunction ?_ rfl (Builtin.nearestByType_eq hfill)
    rw [hfill]
    rfl
  · intro f hf hname text hfill function hfunction
    have hnative : f.native = some .getNearestObjectByTag :=
      Builtin.native_of_name hf hname
    refine hw.call_nearest hopen hf hnative rfl hfunction ?_ rfl (Builtin.nearestByTag_eq hfill)
    rw [hfill]
    rfl

/-- Of two creatures that are as far away, the second one made is the second nearest. -/
theorem nearest_by_rank_tie :
    let it := Interpreter.idle
    let w := populated [.add (.fresh .creature "a"), .add (.fresh .creature "b"),
      .add (.fresh .creature "c"), .edit ⟨2⟩ (.setPosition .zero),
      .edit ⟨3⟩ (.setPosition ⟨.negOne, .zero, .zero⟩),
      .edit ⟨4⟩ (.setPosition ⟨.zero, .negOne, .zero⟩)]
    let f := Builtin.row .getNearestObject
    let args := [Value.int TypeMask.all.bits.toInt32, .object .self, .int 2]
    w.Reachable ∧ w.isShutDown = false ∧ f ∈ Builtin.table ∧
      (call it (launch it) (.name "GetNearestObject") args ⟨⟨2⟩, .invalid, none⟩ w).value =
        .ok (.object ⟨4⟩) := by
  intro it w f args
  have hw : w.Reachable := reachable_populated _
  have hopen : w.isShutDown = false := isShutDown_populated _
  have hf : f ∈ Builtin.table := Builtin.row_mem_table .getNearestObject
  let mask : TypeMask := .ofScript TypeMask.all.bits.toInt32
  have hmeant : w.objects.resolveId .self ⟨2⟩ = ⟨2⟩ := by decide +kernel
  have hsecond : ∃ target ∈ w.objects.get? ⟨2⟩, target.position = some .zero ∧
      ∃ o ∈ w.objects.candidates target mask none, o.id = ⟨4⟩ ∧
        (w.objects.candidates target mask none).countP (Object.Nearer .zero · o) = 1 := by
    decide +kernel
  obtain ⟨target, htarget, hplace, o, ho, hid, hcount⟩ := hsecond
  obtain ⟨-, hranks, hanswers, -⟩ := nearest_by_rank [] target mask none hw hopen it (launch it)
    ⟨⟨2⟩, .invalid, none⟩ args .self 2
  have hnearest : nearest? w.objects target mask 1 none = some o :=
    (hranks.some_iff .zero hplace 1 o).2 ⟨ho, hcount⟩
  have hvalue := (hanswers f hf rfl _ rfl (.name f.name) (.inr rfl)).of_some 1 (by decide) target
    (hmeant.symm ▸ htarget) o hnearest
  rw [hid] at hvalue
  exact ⟨hw, hopen, hf, hvalue⟩

end World

end ScriptHost

import ScriptHost.Proofs.Engine.Totality
import ScriptHost.Proofs.Object.Scan

/-!
# Three ways to look objects up

Objects are found by going through all of them, by a search that is followed to its end, and by
counting in the index by tag.  The three agree (`Container.ScansAgree`): whatever happened to the
objects before, the indices lead to what is found by going through all objects and keeping those
that match, in the order of their numbers.  Scripts count in the index by `GetObjectByTag`.
-/

namespace ScriptHost

/-- A new search finds these objects one after the other and then is at its end, however many steps
more are made. -/
structure Search.Finds (c : Container) (key : SearchKey) (found : List Object) : Prop where
  drain_eq : ((start c key).drain c).1 = found
  drain_done : ((start c key).drain c).2.done = true
  take_eq : ∀ steps, found.length < steps → (take c steps (start c key)).1 = found
  take_done : ∀ steps, found.length < steps → (take c steps (start c key)).2.done = true

/-- Searches and the index by tag find what is found by going through all objects. -/
structure Container.ScansAgree (c : Container) : Prop where
  ascends : c.toList.Pairwise (·.id < ·.id)
  all : Search.Finds c .all c.toList
  byType : ∀ t, Search.Finds c (.type t) (c.toList.filter (·.type = t))
  byTag : ∀ text, Search.Finds c (.tag text) (c.toList.filter (·.tag = text))
  nth : ∀ text n, c.findByTag? text n = (c.toList.filter (·.tag = text))[n]?

namespace Container.WellFormed

variable {c : Container}

theorem finds (h : c.WellFormed) (key : SearchKey) : Search.Finds c key (c.scan key) where
  drain_eq := (Search.drain_start h key).1
  drain_done := (Search.drain_start h key).2
  take_eq _ hsteps := (Search.take_start h key hsteps).1
  take_done _ hsteps := (Search.take_start h key hsteps).2

theorem scansAgree (h : c.WellFormed) : c.ScansAgree where
  ascends := h.pairwise_toList
  all := by
    have hall : c.scan .all = c.toList := List.filter_eq_self.2 fun _ _ ↦ rfl
    exact hall ▸ h.finds .all
  byType t := h.finds (.type t)
  byTag text := h.finds (.tag text)
  nth text n := h.findByTag?_eq text n

end Container.WellFormed

namespace Builtin

variable {w : World} {ctx : CallContext} {text : String} {nth : Int32}

theorem byTag_of_neg (h : ctx.params = [.string text, .int nth]) (hnth : nth.toInt < 0) :
    byTag w ctx = .ok (.object .invalid) := by
  obtain ⟨id, name, signature, defaults, params, specified, returnValue, site⟩ := ctx
  cases h
  exact if_pos hnth

theorem byTag_of_nonneg (h : ctx.params = [.string text, .int nth]) {n : Nat}
    (hnth : nth.toInt = n) :
    byTag w ctx = .ok (.object ((w.objects.findByTag? text n).elim .invalid (·.id))) := by
  obtain ⟨id, name, signature, defaults, params, specified, returnValue, site⟩ := ctx
  cases h
  have hplace : nth.toInt.toNat = n := by omega
  rw [← hplace]
  exact if_neg (by omega)

end Builtin

namespace World

/-- In every container that changes can lead to, and in that of every world: to follow a search to
its end, by tag, by type or over all objects, is to go through all objects by ascending number and
keep those that match, and the object at a place of the index by tag is the one at that place among
them.  `GetObjectByTag` gives its number to scripts, whether the place is left out or given; past
the last place and before the first there is no object. -/
theorem lookups_find_the_same (history : List Container.Change) {w : World} (hw : w.Reachable)
    (hopen : w.isShutDown = false) (it : Interpreter) (launch : Launcher) (site : CallSite)
    (args : List Value) (text : String) (nth : Int32) :
    (Container.empty.run history).ScansAgree ∧ w.objects.ScansAgree ∧
      ∀ f ∈ Builtin.table, f.name = "GetObjectByTag" →
        f.fill args = [.string text, .int nth] →
        ∀ function, (function = .id f.id ∨ function = .name f.name) →
          let out := call it launch function args site w
          out.state = w ∧
            (nth.toInt < 0 → out.value = .ok (.object .invalid)) ∧
            ∀ n : Nat, nth.toInt = n → out.value = .ok (.object
              ((w.objects.toList.filter (·.tag = text))[n]?.elim .invalid (·.id))) := by
  have hempty := Container.WellFormed.empty.run history
  have hagree := hw.wellFormed_objects.scansAgree
  refine ⟨hempty.scansAgree, hagree, fun f hf hname hfill function hfunction ↦ ?_⟩
  intro out
  have hnative : f.native = some .getObjectByTag := Builtin.native_of_name hf hname
  have hsig : f.signature = Builtin.getObjectByTag.signature := Builtin.signature_eq hf hnative
  have haccepts : f.Accepts args := by
    refine FunctionDef.accepts_of_types_fill (Builtin.wellFormed_table f hf) ?_
    rw [hfill, hsig]
    rfl
  have hcall : ∀ {id : ObjectId}, Builtin.byTag w (f.context args site) = .ok (.object id) →
      out.value = .ok (.object id) ∧ out.state = w := by
    intro id hanswer
    refine hw.call_look hopen hf hnative rfl hfunction haccepts site hanswer ?_
    rw [hsig]
    rfl
  rcases Int.lt_or_le nth.toInt 0 with hneg | hpos
  · obtain ⟨hvalue, hstate⟩ := hcall (Builtin.byTag_of_neg hfill hneg)
    exact ⟨hstate, fun _ ↦ hvalue, fun n hn ↦ by omega⟩
  · obtain ⟨n, hn⟩ := Int.eq_ofNat_of_zero_le hpos
    obtain ⟨hvalue, hstate⟩ := hcall (Builtin.byTag_of_nonneg hfill hn)
    refine ⟨hstate, fun hneg ↦ by omega, fun m hm ↦ ?_⟩
    obtain rfl : n = m := by omega
    rw [hvalue, hagree.nth]

/-- An object that was given the tag later counts by its number, and one that is gone does not. -/
theorem lookups_find_the_same_retagged :
    let it := Interpreter.idle
    let w := populated [.add (.fresh .waypoint "wp"), .add (.fresh .waypoint "other"),
      .add (.fresh .waypoint "wp"), .setTag ⟨3⟩ "wp", .remove ⟨2⟩]
    let f := Builtin.row .getObjectByTag
    let answer (args : List Value) :=
      (call it (launch it) (.name "GetObjectByTag") args ⟨.invalid, .invalid, none⟩ w).value
    w.Reachable ∧ w.isShutDown = false ∧ f ∈ Builtin.table ∧
      answer [.string "wp"] = .ok (.object ⟨3⟩) ∧
      answer [.string "wp", .int 1] = .ok (.object ⟨4⟩) ∧
      answer [.string "wp", .int (-1)] = .ok (.object .invalid) := by
  intro it w f answer
  have hw : w.Reachable := reachable_populated _
  have hopen : w.isShutDown = false := isShutDown_populated _
  have hf : f ∈ Builtin.table := Builtin.row_mem_table .getObjectByTag
  have hasked (args : List Value) (nth : Int32) (hfill : f.fill args = [.string "wp", .int nth]) :=
    (lookups_find_the_same [] hw hopen it (launch it) ⟨.invalid, .invalid, none⟩ args "wp"
      nth).2.2 f hf rfl hfill (.name f.name) (.inr rfl)
  have hfirst := (hasked [.string "wp"] 0 rfl).2.2 0 rfl
  have hsecond := (hasked [.string "wp", .int 1] 1 rfl).2.2 1 rfl
  have hbefore := (hasked [.string "wp", .int (-1)] (-1) rfl).2.1 (by decide)
  have hthree : (w.objects.toList.filter (·.tag = "wp"))[0]?.elim .invalid (·.id) = ⟨3⟩ := by
    decide +kernel
  have hfour : (w.objects.toList.filter (·.tag = "wp"))[1]?.elim .invalid (·.id) = ⟨4⟩ := by
    decide +kernel
  rw [hthree] at hfirst
  rw [hfour] at hsecond
  exact ⟨hw, hopen, hf, hfirst, hsecond, hbefore⟩

end World

end ScriptHost

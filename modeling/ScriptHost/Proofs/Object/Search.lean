import ScriptHost.Object.Search
import ScriptHost.Proofs.Object.Container

/-!
# Searches over a container that changes

A search holds no part of the container, so anything may happen to the objects between two of its
steps.  A `Walk` puts the two side by side, and a list of moves is one way in which steps of the
search and changes of the container may follow each other.

What carries all statements is that the search only goes ahead: the number it gives is the least
that matches and is still ahead of it (`upcoming_eq_some`), and what is ahead of it later was ahead
of it before (`isAhead_of_mem_sightings`).  So nothing comes twice, nothing comes that was added
later, and what matches all the time cannot be passed over (`mem_sightings_of_isAhead`).
-/

namespace ScriptHost

/-- Whether an object is one of those that a search looks for. -/
def SearchKey.Matches : SearchKey → Object → Prop
  | .all, _ => True
  | .type t, o => o.type = t
  | .tag text, o => o.tag = text

/-- A live object of a container has a number, and the search would look for it. -/
def Container.Shows (c : Container) (key : SearchKey) (id : ObjectId) : Prop :=
  ∃ o, c.get? id = some o ∧ key.Matches o

namespace Container

variable {c : Container} {key : SearchKey} {id : ObjectId}

theorem pairwise_idsFor (c : Container) (key : SearchKey) : (c.idsFor key).Pairwise (· < ·) := by
  cases key with
  | all => exact c.objects.pairwise_keys.imp ObjectId.compare_eq_lt_iff.1
  | type t => exact c.byType.pairwise_ids t
  | tag tag => exact c.byTag.pairwise_ids tag

/-- The indices lead to the matching objects and to no others. -/
theorem WellFormed.mem_idsFor (h : c.WellFormed) : id ∈ c.idsFor key ↔ c.Shows key id := by
  cases key with
  | all =>
    change id ∈ c.objects.keys ↔ ∃ o, c.objects.get? id = some o ∧ True
    rw [SortedMap.mem_keys]
    simp only [and_true]
  | type t => exact h.byType.mem_iff t id
  | tag tag => exact h.byTag.mem_iff tag id

end Container

/-! ## One step of a search -/

namespace Search

variable {s : Search} {c : Container} {id : ObjectId}

theorem isAhead_iff : s.isAhead id = true ↔ (∀ l, s.last = some l → l < id) ∧ id < s.ceiling := by
  unfold isAhead
  cases s.last with
  | none => simp
  | some l => simp

/-- The number to come matches and is ahead, and no lesser one is both. -/
theorem upcoming_eq_some (h : s.upcoming c = some id) :
    id ∈ c.idsFor s.key ∧ s.isAhead id = true ∧
      ∀ id' ∈ c.idsFor s.key, s.isAhead id' = true → id' ≠ id → id < id' := by
  obtain ⟨hahead, before, after, hsplit, hpassed⟩ := List.find?_eq_some_iff_append.1 h
  have hsorted := c.pairwise_idsFor s.key
  rw [hsplit] at hsorted ⊢
  refine ⟨List.mem_append_right _ List.mem_cons_self, hahead, fun id' hmem hahead' hne ↦ ?_⟩
  rcases List.mem_append.1 hmem with hbefore | hafter
  · have hnot := hpassed id' hbefore
    rw [hahead'] at hnot
    cases hnot
  · rcases List.mem_cons.1 hafter with heq | hlater
    · exact absurd heq hne
    · exact (List.pairwise_cons.1 (List.pairwise_append.1 hsorted).2.1).1 id' hlater

theorem upcoming_eq_none (h : s.upcoming c = none) (hid : id ∈ c.idsFor s.key) :
    s.isAhead id = false :=
  Bool.eq_false_iff.2 (List.find?_eq_none.1 h id hid)

theorem step_of_done (h : s.done = true) : s.step c = (.invalid, s) := if_pos h

/-- A search has ended, or goes on to the number to come, or ends now. -/
theorem step_cases (s : Search) (c : Container) :
    (s.done = true ∧ s.step c = (.invalid, s)) ∨
      (s.done = false ∧ ∃ id, s.upcoming c = some id ∧
        s.step c = (id, { s with last := some id, current := id })) ∨
      (s.done = false ∧ s.upcoming c = none ∧
        s.step c = (.invalid, { s with done := true, current := .invalid })) := by
  unfold step
  cases hdone : s.done with
  | true => exact .inl ⟨rfl, rfl⟩
  | false =>
    cases hnext : s.upcoming c with
    | some id => exact .inr (.inl ⟨rfl, id, rfl, rfl⟩)
    | none => exact .inr (.inr ⟨rfl, rfl, rfl⟩)

/-- What a step finds is ahead of the search before it and not after it. -/
theorem isAhead_step (h : (s.step c).1 ≠ .invalid) : s.isAhead (s.step c).1 = true := by
  rcases s.step_cases c with ⟨-, hstep⟩ | ⟨-, id, hnext, hstep⟩ | ⟨-, -, hstep⟩
  · exact absurd (congrArg Prod.fst hstep) h
  · rw [hstep]
    exact (upcoming_eq_some hnext).2.1
  · exact absurd (congrArg Prod.fst hstep) h

theorem lt_of_isAhead_step (h : (s.step c).1 ≠ .invalid) (hid : (s.step c).2.isAhead id = true) :
    (s.step c).1 < id := by
  rcases s.step_cases c with ⟨-, hstep⟩ | ⟨-, id', -, hstep⟩ | ⟨-, -, hstep⟩
  · exact absurd (congrArg Prod.fst hstep) h
  · rw [hstep] at hid ⊢
    exact (isAhead_iff.1 hid).1 id' rfl
  · exact absurd (congrArg Prod.fst hstep) h

/-- What is ahead of the search after a step was ahead of it before. -/
theorem isAhead_of_isAhead_step (hid : (s.step c).2.isAhead id = true) : s.isAhead id = true := by
  rcases s.step_cases c with ⟨-, hstep⟩ | ⟨-, id', hnext, hstep⟩ | ⟨-, -, hstep⟩
  · rwa [hstep] at hid
  · rw [hstep] at hid
    obtain ⟨hpast, hbelow⟩ := isAhead_iff.1 hid
    obtain ⟨hpast', -⟩ := isAhead_iff.1 (upcoming_eq_some hnext).2.1
    refine isAhead_iff.2 ⟨fun l hl ↦ ?_, hbelow⟩
    exact UInt32.lt_trans (hpast' l hl) (hpast id' rfl)
  · rwa [hstep] at hid

/-- A step passes over no number that matches: one that is ahead is found or stays ahead. -/
theorem eq_or_isAhead_step (hdone : s.done = false) (hid : id ∈ c.idsFor s.key)
    (hahead : s.isAhead id = true) :
    (s.step c).1 = id ∨ (s.step c).2.done = false ∧ (s.step c).2.isAhead id = true := by
  rcases s.step_cases c with ⟨hdone', -⟩ | ⟨-, id', hnext, hstep⟩ | ⟨-, hnone, -⟩
  · rw [hdone] at hdone'
    cases hdone'
  · rw [hstep]
    by_cases heq : id = id'
    · exact .inl heq.symm
    · have hlt := (upcoming_eq_some hnext).2.2 id hid hahead heq
      refine .inr ⟨hdone, isAhead_iff.2 ⟨fun l hl ↦ ?_, (isAhead_iff.1 hahead).2⟩⟩
      cases hl
      exact hlt
  · rw [upcoming_eq_none hnone hid] at hahead
    cases hahead

end Search

/-! ## Steps and changes in any order -/

namespace Search

/-- A container, and a search that walks over it. -/
structure Walk where
  container : Container
  search : Search

/-- What may happen: the search goes on, or the container changes. -/
inductive Move where
  | nextId
  | next
  | change (change : Container.Change)

def Move.change? : Move → Option Container.Change
  | .change made => some made
  | _ => none

/-- What the search gives: a number, or the object with that number. -/
inductive Answer where
  | number (id : ObjectId)
  | object (o : Option Object)

/-- The number that an answer is about; `invalid` if it has come to its end. -/
def Answer.id : Answer → ObjectId
  | number id => id
  | object o => (o.map (·.id)).getD .invalid

/-- An answer, and how container and search stood when it was asked for. -/
structure Sighting where
  state : Walk
  answer : Answer

/-- The answer is what the search has at that moment. -/
structure Sighting.Genuine (p : Sighting) : Prop where
  id_eq : p.answer.id = (p.state.search.step p.state.container).1
  object_eq : ∀ o, p.answer = .object o → o = p.state.container.get? p.answer.id

namespace Walk

/-- A new search over a container. -/
def start (c : Container) (key : SearchKey) : Walk := ⟨c, .start c key⟩

/-- Makes a move; a step of the search has an answer. -/
def step (w : Walk) : Move → Walk × Option Answer
  | .nextId =>
    let (id, search) := w.search.step w.container
    ({ w with search }, some (.number id))
  | .next =>
    let (o, search) := w.search.next w.container
    ({ w with search }, some (.object o))
  | .change change => ({ w with container := w.container.apply change }, none)

/-- Makes moves one after the other. -/
def run (w : Walk) (moves : List Move) : Walk :=
  moves.foldl (fun w move ↦ (w.step move).1) w

/-- The answers on the way, each with the state before it. -/
def sightings (w : Walk) : List Move → List Sighting
  | [] => []
  | move :: rest => ((w.step move).2.toList.map (⟨w, ·⟩)) ++ (w.step move).1.sightings rest

/-- The numbers that the search finds. -/
def found (w : Walk) (moves : List Move) : List ObjectId :=
  ((w.sightings moves).map (·.answer.id)).filter (!·.isInvalid)

/-- What holds of a search that was made for a key when a number was the next to give out. -/
structure Sound (key : SearchKey) (ceiling : ObjectId) (w : Walk) : Prop where
  wellFormed : w.container.WellFormed
  key_eq : w.search.key = key
  ceiling_eq : w.search.ceiling = ceiling
  ceiling_le : ceiling ≤ w.container.nextId
  last_lt : ∀ l, w.search.last = some l → l < ceiling

variable {w : Walk} {key : SearchKey} {ceiling id : ObjectId}

theorem sound_start {c : Container} (h : c.WellFormed) (key : SearchKey) :
    (start c key).Sound key c.nextId where
  wellFormed := h
  key_eq := rfl
  ceiling_eq := rfl
  ceiling_le := UInt32.le_refl _
  last_lt := fun _ hnone ↦ nomatch hnone

namespace Sound

/-- The number to come is that of a live and matching object. -/
theorem shows_upcoming (h : w.Sound key ceiling) (hnext : w.search.upcoming w.container = some id) :
    w.container.Shows key id := by
  obtain ⟨hmem, -, -⟩ := upcoming_eq_some hnext
  rw [h.key_eq] at hmem
  exact h.wellFormed.mem_idsFor.1 hmem

/-- A number that is found is that of a live and matching object. -/
theorem shows_of_step (h : w.Sound key ceiling)
    (hfound : (w.search.step w.container).1 ≠ .invalid) :
    w.container.Shows key (w.search.step w.container).1 := by
  rcases w.search.step_cases w.container with ⟨-, hstep⟩ | ⟨-, id, hnext, hstep⟩ | ⟨-, -, hstep⟩
  · exact absurd (congrArg Prod.fst hstep) hfound
  · rw [hstep]
    exact h.shows_upcoming hnext
  · exact absurd (congrArg Prod.fst hstep) hfound

theorem searched (h : w.Sound key ceiling) :
    ({ w with search := (w.search.step w.container).2 } : Walk).Sound key ceiling := by
  rcases w.search.step_cases w.container with ⟨-, hstep⟩ | ⟨-, id, hnext, hstep⟩ | ⟨-, -, hstep⟩
  · rw [hstep]
    exact h
  · rw [hstep]
    refine ⟨h.wellFormed, h.key_eq, h.ceiling_eq, h.ceiling_le, fun l hl ↦ ?_⟩
    obtain ⟨-, hahead, -⟩ := upcoming_eq_some hnext
    cases hl
    rw [← h.ceiling_eq]
    exact (isAhead_iff.1 hahead).2
  · rw [hstep]
    exact ⟨h.wellFormed, h.key_eq, h.ceiling_eq, h.ceiling_le, h.last_lt⟩

theorem changed (h : w.Sound key ceiling) (change : Container.Change) :
    ({ w with container := w.container.apply change } : Walk).Sound key ceiling := by
  refine ⟨h.wellFormed.apply change, h.key_eq, h.ceiling_eq, ?_, h.last_lt⟩
  exact UInt32.le_trans h.ceiling_le (h.wellFormed.nextId_le_run [change])

/-- The object that goes with the number that a step gives has that number. -/
theorem id_get?_step (h : w.Sound key ceiling) :
    ((w.container.get? (w.search.step w.container).1).map (·.id)).getD .invalid =
      (w.search.step w.container).1 := by
  rcases w.search.step_cases w.container with ⟨-, hstep⟩ | ⟨-, id, hnext, hstep⟩ | ⟨-, -, hstep⟩
  · rw [hstep, h.wellFormed.get?_invalid]
    rfl
  · obtain ⟨o, ho, -⟩ := h.shows_upcoming hnext
    rw [hstep, ho]
    exact (h.wellFormed.filed id o ho).1
  · rw [hstep, h.wellFormed.get?_invalid]
    rfl

/-- A move changes the container, or it is a step of the search and has an answer. -/
theorem step_cases (h : w.Sound key ceiling) (move : Move) :
    (∃ change, w.step move = ({ w with container := w.container.apply change }, none)) ∨
      ∃ a, w.step move = ({ w with search := (w.search.step w.container).2 }, some a) ∧
        Sighting.Genuine ⟨w, a⟩ := by
  cases move with
  | nextId => exact .inr ⟨_, rfl, rfl, fun _ hobject ↦ nomatch hobject⟩
  | next =>
    refine .inr ⟨_, rfl, h.id_get?_step, fun o hobject ↦ ?_⟩
    cases hobject
    exact congrArg w.container.get? h.id_get?_step.symm
  | change change => exact .inl ⟨change, rfl⟩

theorem step (h : w.Sound key ceiling) (move : Move) : (w.step move).1.Sound key ceiling := by
  rcases h.step_cases move with ⟨change, hstep⟩ | ⟨a, hstep, -⟩
  · rw [hstep]
    exact h.changed change
  · rw [hstep]
    exact h.searched

/-- A search has ended after a step exactly if the step has found nothing. -/
theorem done_step_iff (h : w.Sound key ceiling) :
    (w.search.step w.container).2.done = true ↔ (w.search.step w.container).1 = .invalid := by
  rcases w.search.step_cases w.container with
    ⟨hdone, hstep⟩ | ⟨hdone, id, hnext, hstep⟩ | ⟨-, -, hstep⟩
  · rw [hstep]
    exact ⟨fun _ ↦ rfl, fun _ ↦ hdone⟩
  · rw [hstep]
    obtain ⟨o, ho, -⟩ := h.shows_upcoming hnext
    refine ⟨fun hend ↦ ?_, fun hinvalid ↦ ?_⟩
    · cases hdone.symm.trans hend
    · have hnone := h.wellFormed.get?_invalid
      rw [← show id = .invalid from hinvalid, ho] at hnone
      cases hnone
  · rw [hstep]
    exact ⟨fun _ ↦ rfl, fun _ ↦ rfl⟩

end Sound

/-! ## Whole runs -/

theorem run_cons (w : Walk) (move : Move) (rest : List Move) :
    w.run (move :: rest) = (w.step move).1.run rest := rfl

/-- The search leaves the container to those who change it. -/
theorem container_run (w : Walk) (moves : List Move) :
    (w.run moves).container = w.container.run (moves.filterMap Move.change?) := by
  induction moves generalizing w with
  | nil => rfl
  | cons move rest ih =>
    rw [run_cons, ih]
    cases move with
    | nextId | next | change => rfl

theorem sightings_cons (w : Walk) (move : Move) (rest : List Move) :
    w.sightings (move :: rest) =
      (w.step move).2.toList.map (⟨w, ·⟩) ++ (w.step move).1.sightings rest := rfl

theorem mem_found {moves : List Move} :
    id ∈ w.found moves ↔ (∃ p ∈ w.sightings moves, p.answer.id = id) ∧ id ≠ .invalid := by
  rw [found, List.mem_filter, List.mem_map, ObjectId.not_isInvalid_iff]

namespace Sound

/-- To show something of all answers, show it of an answer that comes at once, and carry it back
over a change of the container and over a step of the search. -/
theorem mem_sightings_induction {Q : Walk → Sighting → Prop}
    (hnow : ∀ p : Sighting, p.state.Sound key ceiling → p.Genuine → Q p.state p)
    (hchange : ∀ w p change, Q { w with container := w.container.apply change } p → Q w p)
    (hsearch : ∀ w p, Q { w with search := (w.search.step w.container).2 } p → Q w p)
    (h : w.Sound key ceiling) {moves : List Move} {p : Sighting} (hp : p ∈ w.sightings moves) :
    Q w p := by
  induction moves generalizing w with
  | nil => cases hp
  | cons move rest ih =>
    have hrest := h.step move
    rw [sightings_cons] at hp
    rcases h.step_cases move with ⟨change, hstep⟩ | ⟨a, hstep, hgenuine⟩
    · rw [hstep] at hp hrest
      exact hchange w p change (ih hrest hp)
    · rw [hstep] at hp hrest
      rcases List.mem_cons.1 hp with rfl | hp
      · exact hnow ⟨w, a⟩ h hgenuine
      · exact hsearch w p (ih hrest hp)

/-- To show how every answer stands to all later ones, show it of the first. -/
theorem pairwise_sightings {R : Sighting → Sighting → Prop}
    (hfirst : ∀ p : Sighting, p.state.Sound key ceiling → p.Genuine → ∀ rest,
      ∀ q ∈ ({ p.state with search := (p.state.search.step p.state.container).2 } : Walk).sightings
        rest, R p q)
    (h : w.Sound key ceiling) (moves : List Move) : (w.sightings moves).Pairwise R := by
  induction moves generalizing w with
  | nil => exact .nil
  | cons move rest ih =>
    have hrest := h.step move
    rw [sightings_cons]
    rcases h.step_cases move with ⟨change, hstep⟩ | ⟨a, hstep, hgenuine⟩
    · rw [hstep] at hrest ⊢
      exact ih hrest
    · rw [hstep] at hrest ⊢
      exact List.pairwise_cons.2 ⟨hfirst ⟨w, a⟩ h hgenuine rest, ih hrest⟩

/-- Every answer is the one that the search has at that moment. -/
theorem of_mem_sightings (h : w.Sound key ceiling) {moves : List Move} {p : Sighting}
    (hp : p ∈ w.sightings moves) :
    p.state.Sound key ceiling ∧ p.Genuine := by
  refine mem_sightings_induction (Q := fun _ p ↦ p.state.Sound key ceiling ∧ p.Genuine)
    ?_ ?_ ?_ h hp
  · exact fun _ hstate hgenuine ↦ ⟨hstate, hgenuine⟩
  · exact fun _ _ _ hq ↦ hq
  · exact fun _ _ hq ↦ hq

/-- What a search ever finds is ahead of it from the start. -/
theorem isAhead_of_mem_sightings (h : w.Sound key ceiling) {moves : List Move} {p : Sighting}
    (hp : p ∈ w.sightings moves) (hfound : p.answer.id ≠ .invalid) :
    w.search.isAhead p.answer.id = true := by
  revert hfound
  refine mem_sightings_induction (Q := fun w p ↦
    p.answer.id ≠ .invalid → w.search.isAhead p.answer.id = true) ?_ ?_ ?_ h hp
  · intro p _ hgenuine hfound
    rw [hgenuine.id_eq] at hfound ⊢
    exact isAhead_step hfound
  · exact fun _ _ _ hq ↦ hq
  · exact fun _ _ hq hfound ↦ isAhead_of_isAhead_step (hq hfound)

/-- What a search finds comes after what it has found before. -/
theorem pairwise_lt_sightings (h : w.Sound key ceiling) (moves : List Move) :
    (w.sightings moves).Pairwise fun p q ↦
      p.answer.id ≠ .invalid → q.answer.id ≠ .invalid → p.answer.id < q.answer.id := by
  refine pairwise_sightings ?_ h moves
  intro p hstate hgenuine rest q hq hfound hlater
  have hahead := hstate.searched.isAhead_of_mem_sightings hq hlater
  rw [hgenuine.id_eq] at hfound ⊢
  exact lt_of_isAhead_step hfound hahead

theorem pairwise_found (h : w.Sound key ceiling) (moves : List Move) :
    (w.found moves).Pairwise (· < ·) := by
  rw [found, List.pairwise_filter, List.pairwise_map]
  refine (h.pairwise_lt_sightings moves).imp fun hlt hp hq ↦ ?_
  exact hlt (ObjectId.not_isInvalid_iff.1 hp) (ObjectId.not_isInvalid_iff.1 hq)

/-- A search that has ended finds nothing any more. -/
theorem answer_of_done (h : w.Sound key ceiling) (hdone : w.search.done = true)
    {moves : List Move} {p : Sighting} (hp : p ∈ w.sightings moves) : p.answer.id = .invalid := by
  revert hdone
  refine mem_sightings_induction (Q := fun w p ↦
    w.search.done = true → p.answer.id = .invalid) ?_ ?_ ?_ h hp
  · intro p _ hgenuine hdone
    rw [hgenuine.id_eq, step_of_done hdone]
  · exact fun _ _ _ hq ↦ hq
  · intro w p hq hdone
    refine hq ?_
    rw [step_of_done hdone]
    exact hdone

/-- Once a step has found nothing, no later step does. -/
theorem pairwise_invalid (h : w.Sound key ceiling) (moves : List Move) :
    (w.sightings moves).Pairwise fun p q ↦ p.answer.id = .invalid → q.answer.id = .invalid := by
  refine pairwise_sightings ?_ h moves
  intro p hstate hgenuine rest q hq hinvalid
  rw [hgenuine.id_eq] at hinvalid
  exact hstate.searched.answer_of_done (hstate.done_step_iff.2 hinvalid) hq

theorem done_run_of_done (h : w.Sound key ceiling) (hdone : w.search.done = true)
    (moves : List Move) : (w.run moves).search.done = true := by
  induction moves generalizing w with
  | nil => exact hdone
  | cons move rest ih =>
    rw [run_cons]
    refine ih (h.step move) ?_
    rcases h.step_cases move with ⟨change, hstep⟩ | ⟨a, hstep, -⟩
    · rw [hstep]
      exact hdone
    · rw [hstep, step_of_done hdone]
      exact hdone

/-- A search has ended exactly if a step has found nothing. -/
theorem done_run_iff (h : w.Sound key ceiling) (hdone : w.search.done = false)
    (moves : List Move) :
    (w.run moves).search.done = true ↔ ∃ p ∈ w.sightings moves, p.answer.id = .invalid := by
  induction moves generalizing w with
  | nil =>
    constructor
    · intro hend
      cases hdone.symm.trans hend
    · rintro ⟨p, hp, -⟩
      cases hp
  | cons move rest ih =>
    have hrest := h.step move
    rw [run_cons, sightings_cons]
    rcases h.step_cases move with ⟨change, hstep⟩ | ⟨a, hstep, hgenuine⟩
    · rw [hstep] at hrest ⊢
      exact ih hrest hdone
    · rw [hstep] at hrest ⊢
      cases hends : (w.search.step w.container).2.done with
      | true =>
        have hinvalid := hgenuine.id_eq.trans (h.done_step_iff.1 hends)
        exact ⟨fun _ ↦ ⟨⟨w, a⟩, List.mem_cons_self, hinvalid⟩,
          fun _ ↦ hrest.done_run_of_done hends rest⟩
      | false =>
        have hvalid : a.id ≠ .invalid := by
          intro hinvalid
          cases hends.symm.trans (h.done_step_iff.2 (hgenuine.id_eq.symm.trans hinvalid))
        rw [ih hrest hends]
        constructor
        · rintro ⟨p, hp, hinvalid⟩
          exact ⟨p, List.mem_cons_of_mem _ hp, hinvalid⟩
        · rintro ⟨p, hp, hinvalid⟩
          rcases List.mem_cons.1 hp with rfl | hp
          · exact absurd hinvalid hvalid
          · exact ⟨p, hp, hinvalid⟩

/-- What is ahead of a search and matches at every moment until the search ends is found. -/
theorem mem_sightings_of_isAhead (h : w.Sound key ceiling) (hdone : w.search.done = false)
    (hahead : w.search.isAhead id = true) {moves : List Move}
    (hshown : ∀ n, (w.run (moves.take n)).search.done = false →
      (w.run (moves.take n)).container.Shows key id)
    (hend : (w.run moves).search.done = true) : ∃ p ∈ w.sightings moves, p.answer.id = id := by
  induction moves generalizing w with
  | nil => cases hdone.symm.trans hend
  | cons move rest ih =>
    have hrest := h.step move
    have hmem : id ∈ w.container.idsFor w.search.key := by
      rw [h.key_eq]
      exact h.wellFormed.mem_idsFor.2 (hshown 0 hdone)
    have hshown' : ∀ n, ((w.step move).1.run (rest.take n)).search.done = false →
        ((w.step move).1.run (rest.take n)).container.Shows key id := fun n ↦ hshown (n + 1)
    rw [run_cons] at hend
    rw [sightings_cons]
    rcases h.step_cases move with ⟨change, hstep⟩ | ⟨a, hstep, hgenuine⟩
    · rw [hstep] at hrest hshown' hend ⊢
      exact ih hrest hdone hahead hshown' hend
    · rw [hstep] at hrest hshown' hend ⊢
      rcases eq_or_isAhead_step hdone hmem hahead with heq | ⟨hgoing, hstill⟩
      · exact ⟨⟨w, a⟩, List.mem_cons_self, hgenuine.id_eq.trans heq⟩
      · obtain ⟨p, hp, hpid⟩ := ih hrest hgoing hstill hshown' hend
        exact ⟨p, List.mem_cons_of_mem _ hp, hpid⟩

end Sound

/-- For every container that a run of changes makes, every key and every order of steps of the
search and changes of the container: the numbers found ascend; each is that of a live and matching
object at that moment, and that object is the answer where one is asked for; none was given out
after the search was made; what matches all the time until the search ends is found once; the
search ends with the first step that finds nothing, and finds nothing after it; and the number found
last is below the ceiling whenever the search goes on from it. -/
theorem search_under_changes (history : List Container.Change) (key : SearchKey)
    (moves : List Move) :
    let c := Container.empty.run history
    let w := start c key
    (w.found moves).Pairwise (· < ·) ∧
      (∀ p ∈ w.sightings moves, p.answer.id ≠ .invalid →
        ∃ o, p.state.container.get? p.answer.id = some o ∧ o.id = p.answer.id ∧ key.Matches o ∧
          ∀ o', p.answer = .object o' → o' = some o) ∧
      (w.run moves).container = c.run (moves.filterMap Move.change?) ∧
      (∀ id ∈ c.handedOut (moves.filterMap Move.change?), id ∉ w.found moves) ∧
      (∀ id,
        (∀ n, (w.run (moves.take n)).search.done = false →
          (w.run (moves.take n)).container.Shows key id) →
        (w.run moves).search.done = true → (w.found moves).count id = 1) ∧
      ((w.run moves).search.done = true ↔ ∃ p ∈ w.sightings moves, p.answer.id = .invalid) ∧
      ((w.sightings moves).Pairwise fun p q ↦
        p.answer.id = .invalid → q.answer.id = .invalid) ∧
      ∀ p ∈ w.sightings moves, ∀ l,
        p.state.search.last = some l → l < p.state.search.ceiling := by
  intro c w
  have hc : c.WellFormed := Container.WellFormed.empty.run history
  have h : w.Sound key c.nextId := sound_start hc key
  refine ⟨h.pairwise_found moves, ?_, w.container_run moves, ?_, ?_, h.done_run_iff rfl moves,
    h.pairwise_invalid moves, ?_⟩
  · intro p hp hfound
    obtain ⟨hstate, hgenuine⟩ := h.of_mem_sightings hp
    rw [hgenuine.id_eq] at hfound
    obtain ⟨o, ho, hmatch⟩ := hstate.shows_of_step hfound
    rw [← hgenuine.id_eq] at ho
    refine ⟨o, ho, (hstate.wellFormed.filed _ o ho).1, hmatch, fun o' ho' ↦ ?_⟩
    rw [hgenuine.object_eq o' ho', ho]
  · intro id hid hmem
    obtain ⟨⟨p, hp, rfl⟩, hfound⟩ := mem_found.1 hmem
    obtain ⟨-, hlt⟩ := isAhead_iff.1 (h.isAhead_of_mem_sightings hp hfound)
    obtain ⟨hle, -⟩ := hc.mem_handedOut.1 hid
    exact ObjectId.lt_irrefl _ (ObjectId.lt_of_lt_of_le hlt hle)
  · intro id hshown hend
    obtain ⟨o, ho, -⟩ := hshown 0 rfl
    have hahead : w.search.isAhead id = true := by
      rw [isAhead_iff]
      refine ⟨fun l hl ↦ ?_, (hc.filed id o ho).2.2⟩
      cases hl
    have hvalid : id ≠ .invalid := by
      rintro rfl
      cases hc.get?_invalid.symm.trans ho
    have hmem : id ∈ w.found moves :=
      mem_found.2 ⟨h.mem_sightings_of_isAhead rfl hahead hshown hend, hvalid⟩
    have hnodup : (w.found moves).Nodup := (h.pairwise_found moves).imp ObjectId.ne_of_lt
    rw [hnodup.count, if_pos hmem]
  · intro p hp l hl
    obtain ⟨hstate, -⟩ := h.of_mem_sightings hp
    rw [hstate.ceiling_eq]
    exact hstate.last_lt l hl

/-- A door that is made meanwhile is not found, and one that is gone by then is not either. -/
example :
    let door := Object.fresh .door "gate"
    let c := Container.empty.run [.add door, .add door, .add (.fresh .item "key"), .add door]
    (start c (.type .door)).found
      [.nextId, .change (.remove ⟨2⟩), .change (.add door), .next, .nextId] = [⟨1⟩, ⟨4⟩] := by
  decide +kernel

end Walk

end Search

end ScriptHost

import RegionGraph.Network.Basic
import RegionGraph.Proofs.Traversal

/-!
# What an edit does

An edit reads and replaces a state and may fail on the way, keeping what it had
done. The laws below say what running each way of building an edit gives: the
outcome and the state it leaves. They hold for edits of networks and for
computations that consult the registry alike.
-/

namespace RegionGraph.Edit

variable {σ ε α β : Type}

/-- One edit after the other; the second runs only if the first succeeded. -/
theorem run_bind (first : ExceptT ε (StateM σ) α) (next : α → ExceptT ε (StateM σ) β)
    (state : σ) : (first >>= next).run state =
      match first.run state with
      | (.ok value, after) => (next value).run after
      | (.error fault, after) => (.error fault, after) := by
  rw [ExceptT.run_bind]
  change (ExceptT.bindCont next (first.run state).1).run (first.run state).2 = _
  rcases first.run state with ⟨outcome, after⟩
  cases outcome <;> rfl

/-- One edit after the other succeeds exactly when both do, the second where the
first ended. -/
theorem run_bind_ok_iff (first : ExceptT ε (StateM σ) α) (next : α → ExceptT ε (StateM σ) β)
    (state final : σ) (result : β) : (first >>= next).run state = (.ok result, final) ↔
      ∃ value middle, first.run state = (.ok value, middle) ∧
        (next value).run middle = (.ok result, final) := by
  rw [run_bind]
  rcases first.run state with ⟨outcome, after⟩
  cases outcome with
  | error fault =>
    constructor
    · intro impossible
      cases (Prod.mk.inj impossible).1
    · rintro ⟨_, _, impossible, _⟩
      cases (Prod.mk.inj impossible).1
  | ok value =>
    constructor
    · intro ended
      exact ⟨value, after, rfl, ended⟩
    · rintro ⟨_, _, same, ended⟩
      cases same
      exact ended

/-- What one edit after the other gives is what the second gives in the state that the first
has left. -/
theorem outcome_bind_ok_iff (first : ExceptT ε (StateM σ) α) (next : α → ExceptT ε (StateM σ) β)
    (state : σ) (result : β) : ((first >>= next).run state).1 = .ok result ↔
      ∃ value, (first.run state).1 = .ok value ∧
        ((next value).run (first.run state).2).1 = .ok result := by
  rw [run_bind]
  rcases first.run state with ⟨outcome, after⟩
  cases outcome <;> simp

/-- What holds after the first computation, and is kept by the second where that runs, holds
after both. -/
theorem run_bind_keeps (motive : σ → Prop) (first : ExceptT ε (StateM σ) α)
    (next : α → ExceptT ε (StateM σ) β) (state : σ) (holds : motive (first.run state).2)
    (keeps : ∀ value middle, first.run state = (.ok value, middle) → motive middle →
      motive ((next value).run middle).2) : motive ((first >>= next).run state).2 := by
  rw [run_bind]
  rcases ran : first.run state with ⟨outcome, after⟩
  rw [ran] at holds
  cases outcome with
  | error fault => exact holds
  | ok value => exact keeps value after ran holds

/-- A value without a change. -/
@[simp] theorem run_pure (value : α) (state : σ) :
    (pure value : ExceptT ε (StateM σ) α).run state = (.ok value, state) := rfl

/-- Reading the state. -/
@[simp] theorem run_get (state : σ) :
    (get : ExceptT ε (StateM σ) σ).run state = (.ok state, state) := rfl

/-- Replacing the state. -/
@[simp] theorem run_set (next state : σ) :
    (set next : ExceptT ε (StateM σ) PUnit).run state = (.ok ⟨⟩, next) := rfl

/-- Changing the state by a function. -/
@[simp] theorem run_modify (change : σ → σ) (state : σ) :
    (modify change : ExceptT ε (StateM σ) PUnit).run state = (.ok ⟨⟩, change state) := rfl

/-- A computation that reads nothing and changes nothing. -/
@[simp] theorem run_lift (outcome : Except ε α) (state : σ) :
    (liftM outcome : ExceptT ε (StateM σ) α).run state = (outcome, state) := rfl

/-- A computation that reads nothing and changes nothing succeeds in any state. -/
theorem run_lift_ok_iff (outcome : Except ε α) (state final : σ) (value : α) :
    (liftM outcome : ExceptT ε (StateM σ) α).run state = (.ok value, final) ↔
      outcome = .ok value ∧ state = final :=
  Prod.ext_iff

/-- A remedy runs only after a failure, in the state that the failure left. -/
theorem run_tryCatch (first : ExceptT ε (StateM σ) α) (remedy : ε → ExceptT ε (StateM σ) α)
    (state : σ) : (tryCatch first remedy).run state =
      match first.run state with
      | (.ok value, after) => (.ok value, after)
      | (.error fault, after) => (remedy fault).run after := by
  simp only [tryCatch, tryCatchThe, MonadExceptOf.tryCatch, ExceptT.tryCatch, ExceptT.run,
    ExceptT.mk, bind, StateT.bind]
  rcases first state with ⟨outcome, after⟩
  cases outcome <;> rfl

/-- An edit that carries a value along a list keeps whatever every step keeps. -/
theorem foldlM_keeps (motive : α → σ → Prop) (edit : α → β → ExceptT ε (StateM σ) α)
    (items : List β) (start result : α) (state final : σ)
    (passed : (items.foldlM edit start).run state = (.ok result, final))
    (begins : motive start state)
    (keeps : ∀ value item next before after, item ∈ items → motive value before →
      (edit value item).run before = (.ok next, after) → motive next after) :
    motive result final := by
  induction items generalizing start state with
  | nil =>
    cases passed
    exact begins
  | cons item rest inductionHypothesis =>
    obtain ⟨next, middle, first, others⟩ := (run_bind_ok_iff _ _ _ _ _).mp passed
    have member : item ∈ item :: rest := List.mem_cons_self
    refine inductionHypothesis next middle others (keeps _ _ _ _ _ member begins first) ?_
    intro value other following before after listed
    exact keeps value other following before after (List.mem_cons_of_mem item listed)

/-- Edits one after the other keep whatever each of them keeps, whether it fails or not. -/
theorem forM_keeps (motive : σ → Prop) (edit : α → ExceptT ε (StateM σ) PUnit) (items : List α)
    (keeps : ∀ item ∈ items, ∀ state, motive state → motive ((edit item).run state).2)
    (state : σ) (holds : motive state) : motive ((items.forM edit).run state).2 := by
  induction items generalizing state with
  | nil => exact holds
  | cons item rest inductionHypothesis =>
    rw [List.forM_eq_forM, List.forM_cons]
    refine run_bind_keeps motive _ _ state (keeps item List.mem_cons_self state holds) ?_
    intro _ middle _ held
    exact inductionHypothesis
      (fun other member => keeps other (List.mem_cons_of_mem item member)) middle held

/-- Edits one after the other that all succeed, in whatever state they begin. -/
theorem forM_ok (edit : α → ExceptT ε (StateM σ) PUnit) (become : σ → α → σ) (items : List α)
    (succeeds : ∀ item ∈ items, ∀ state, (edit item).run state = (.ok ⟨⟩, become state item))
    (state : σ) : (items.forM edit).run state = (.ok ⟨⟩, items.foldl become state) := by
  induction items generalizing state with
  | nil => rfl
  | cons item rest inductionHypothesis =>
    rw [List.forM_eq_forM, List.forM_cons, run_bind, succeeds item List.mem_cons_self,
      List.foldl_cons]
    exact inductionHypothesis
      (fun other member => succeeds other (List.mem_cons_of_mem item member)) (become state item)

/-- Edits that each replace the state by what is made of it lead where the makings lead. -/
theorem forM_set_of_foldlM (make : σ → α → Except ε σ) (items : List α) (state final : σ)
    (made : items.foldlM make state = .ok final) :
    (items.forM (fun item => do set (← make (← get) item) :
      α → ExceptT ε (StateM σ) PUnit)).run state = (.ok ⟨⟩, final) := by
  induction items generalizing state with
  | nil =>
    cases made
    rfl
  | cons item rest inductionHypothesis =>
    obtain ⟨next, first, others⟩ := (Traversal.bind_ok_iff _ _ _).mp made
    rw [List.forM_eq_forM, List.forM_cons]
    simp only [run_bind, run_get, run_lift, first, run_set]
    exact inductionHypothesis next others

/-- Where edits come to their end, each of them has succeeded. -/
theorem exists_of_forM (edit : α → ExceptT ε (StateM σ) PUnit) (items : List α) (state final : σ)
    (passed : (items.forM edit).run state = (.ok ⟨⟩, final)) (item : α) (member : item ∈ items) :
    ∃ before after, (edit item).run before = (.ok ⟨⟩, after) := by
  induction items generalizing state with
  | nil => cases member
  | cons head rest inductionHypothesis =>
    obtain ⟨_, middle, first, others⟩ := (run_bind_ok_iff _ _ _ _ _).mp passed
    rcases List.mem_cons.mp member with rfl | later
    · exact ⟨state, middle, first⟩
    · exact inductionHypothesis middle others later

/-! ### Items edited in their places -/

variable (edit : α → Except GraphError Unit × α)

/-- Where every edit succeeds, each item is replaced by what it becomes. -/
theorem editEach_ok (become : α → α) (items : List α)
    (succeeds : ∀ item ∈ items, edit item = (.ok (), become item)) :
    editEach edit items = (.ok (), items.map become) := by
  induction items with
  | nil => rfl
  | cons item rest inductionHypothesis =>
    rw [editEach, succeeds item List.mem_cons_self]
    simp only [List.map_cons,
      inductionHypothesis (fun other member => succeeds other (List.mem_cons_of_mem item member))]

/-- However the edits end, an item is as it was or as its edit left it. -/
theorem editEach_cases (items : List α) :
    List.Forall₂ (fun before after => after = before ∨ after = (edit before).2) items
      (editEach edit items).2 := by
  induction items with
  | nil => exact .nil
  | cons item rest inductionHypothesis =>
    unfold editEach
    rcases made : edit item with ⟨fault | _, edited⟩
    case error =>
      exact .cons (Or.inr (by rw [made])) (List.forall₂_same.mpr (fun _ _ => Or.inl rfl))
    case ok => exact .cons (Or.inr (by rw [made])) inductionHypothesis

/-- What no edit changes in its item is the same of all items, however the edits end. -/
theorem map_editEach (tell : α → β) (same : ∀ item, tell (edit item).2 = tell item)
    (items : List α) : (editEach edit items).2.map tell = items.map tell := by
  rw [← List.forall₂_eq_eq_eq, List.forall₂_map_left_iff, List.forall₂_map_right_iff]
  refine ((editEach_cases edit items).imp ?_).flip
  rintro before after (rfl | rfl)
  · rfl
  · exact same before

end RegionGraph.Edit

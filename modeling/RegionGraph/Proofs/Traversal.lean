import Mathlib.Data.List.Forall2

/-!
# Passes over lists that may fail

Checks and changes of a network go through its regions and links one after the
other and stop at the first fault. A pass succeeds exactly when every item does;
then its result is that of the items, taken together in order.
-/

namespace RegionGraph.Traversal

variable {α β ε : Type}

/-- What follows a success gets its value. -/
@[simp] theorem ok_bind (value : α) (next : α → Except ε β) :
    (Except.ok value >>= next) = next value := rfl

/-- Nothing follows a failure. -/
@[simp] theorem error_bind (fault : ε) (next : α → Except ε β) :
    (Except.error fault >>= next) = .error fault := rfl

/-- One computation after another succeeds exactly when both do. -/
theorem bind_ok_iff (first : Except ε α) (next : α → Except ε β) (result : β) :
    first >>= next = .ok result ↔ ∃ value, first = .ok value ∧ next value = .ok result := by
  cases first with
  | error fault => simp [bind, Except.bind]
  | ok value => simp [bind, Except.bind]

/-- One computation after another fails when the first does, or the second after it. -/
theorem bind_error_iff (first : Except ε α) (next : α → Except ε β) (fault : ε) :
    first >>= next = .error fault ↔
      first = .error fault ∨ ∃ value, first = .ok value ∧ next value = .error fault := by
  cases first with
  | error cause => simp [bind, Except.bind]
  | ok value => simp [bind, Except.bind]

/-- An outcome that is a success has a value. -/
theorem isOk_iff (outcome : Except ε α) : outcome.isOk = true ↔ ∃ value, outcome = .ok value := by
  cases outcome <;> simp [Except.isOk, Except.toBool]

/-- Wording a fault otherwise changes no success. -/
theorem mapError_ok_iff {δ : Type} (outcome : Except ε α) (word : ε → δ) (value : α) :
    outcome.mapError word = .ok value ↔ outcome = .ok value := by
  cases outcome <;> simp [Except.mapError]

/-- A function applied to the value changes no success. -/
theorem map_ok_iff (outcome : Except ε α) (f : α → β) (result : β) :
    outcome.map f = .ok result ↔ ∃ value, outcome = .ok value ∧ f value = result := by
  cases outcome <;> simp [Except.map]

/-- Outcomes that a function cannot tell apart are the same failure, or successes with values
that it cannot tell apart. -/
theorem cases_of_map_eq (f : α → β) (first second : Except ε α)
    (same : first.map f = second.map f) :
    (∃ fault, first = .error fault ∧ second = .error fault) ∨
      ∃ value other, first = .ok value ∧ second = .ok other ∧ f value = f other := by
  cases first with
  | error fault =>
    cases second with
    | error other =>
      cases same
      exact Or.inl ⟨fault, rfl, rfl⟩
    | ok other => cases same
  | ok value =>
    cases second with
    | error other => cases same
    | ok other => exact Or.inr ⟨value, other, rfl, rfl, Except.ok.inj same⟩

/-- A pass that succeeds gives one result for every item, in the same order. -/
theorem mapM_ok_iff (f : α → Except ε β) (items : List α) (results : List β) :
    items.mapM f = .ok results ↔
      List.Forall₂ (fun item result => f item = .ok result) items results := by
  induction items generalizing results with
  | nil =>
    rw [List.mapM_nil, List.forall₂_nil_left_iff]
    exact ⟨fun same => (Except.ok.inj same).symm, fun same => same ▸ rfl⟩
  | cons item rest inductionHypothesis =>
    rw [List.mapM_cons, bind_ok_iff, List.forall₂_cons_left_iff]
    constructor
    · rintro ⟨value, first, others⟩
      obtain ⟨values, passed, made⟩ := (bind_ok_iff _ _ _).mp others
      exact ⟨value, values, first, (inductionHypothesis values).mp passed,
        (Except.ok.inj made).symm⟩
    · rintro ⟨value, values, first, passed, rfl⟩
      exact ⟨value, first, (bind_ok_iff _ _ _).mpr
        ⟨values, (inductionHypothesis values).mpr passed, rfl⟩⟩

/-- The result for the item at a position stands at that position. -/
theorem mapM_getElem? (f : α → Except ε β) (items : List α) (results : List β)
    (passed : items.mapM f = .ok results) (index : Nat) (item : α)
    (found : items[index]? = some item) :
    ∃ result, results[index]? = some result ∧ f item = .ok result := by
  have each := (mapM_ok_iff f items results).mp passed
  clear passed
  induction each generalizing index with
  | nil => cases found
  | cons here others inductionHypothesis =>
    cases index with
    | zero =>
      cases found
      exact ⟨_, rfl, here⟩
    | succ index => exact inductionHypothesis index found

/-- A pass over items that all succeed is a map. -/
theorem mapM_ok (f : α → Except ε β) (g : α → β) (items : List α)
    (succeeds : ∀ item ∈ items, f item = .ok (g item)) : items.mapM f = .ok (items.map g) := by
  rw [mapM_ok_iff, List.forall₂_map_right_iff, List.forall₂_same]
  exact succeeds

/-- Passes that do the same on every item do the same. -/
theorem mapM_congr (f g : α → Except ε β) (items : List α)
    (agree : ∀ item ∈ items, f item = g item) : items.mapM f = items.mapM g := by
  induction items with
  | nil => rfl
  | cons item rest inductionHypothesis =>
    rw [List.mapM_cons, List.mapM_cons, agree item List.mem_cons_self,
      inductionHypothesis (fun other member => agree other (List.mem_cons_of_mem item member))]

/-- A check of all items succeeds exactly when each item passes. -/
theorem forM_ok_iff (check : α → Except ε Unit) (items : List α) :
    items.forM check = .ok () ↔ ∀ item ∈ items, check item = .ok () := by
  induction items with
  | nil => simp [pure, Except.pure]
  | cons item rest inductionHypothesis =>
    rw [List.forM_eq_forM] at inductionHypothesis ⊢
    rw [List.forM_cons, bind_ok_iff, List.forall_mem_cons, inductionHypothesis]
    exact ⟨fun ⟨_, first, others⟩ => ⟨first, others⟩, fun ⟨first, others⟩ => ⟨(), first, others⟩⟩

/-- A check of a list that fails fails on one of its items. -/
theorem forM_error (check : α → Except ε Unit) (items : List α) (fault : ε)
    (failed : items.forM check = .error fault) : ∃ item ∈ items, check item = .error fault := by
  induction items with
  | nil => cases failed
  | cons item rest inductionHypothesis =>
    rw [List.forM_eq_forM] at inductionHypothesis failed
    rw [List.forM_cons] at failed
    cases here : check item with
    | error cause =>
      rw [here] at failed
      exact ⟨item, List.mem_cons_self, here.trans failed⟩
    | ok _ =>
      rw [here] at failed
      obtain ⟨other, member, found⟩ := inductionHypothesis failed
      exact ⟨other, List.mem_cons_of_mem item member, found⟩

/-- A pass that fails fails on one of the items. -/
theorem mapM_error (f : α → Except ε β) (items : List α) (fault : ε)
    (failed : items.mapM f = .error fault) : ∃ item ∈ items, f item = .error fault := by
  induction items with
  | nil => cases failed
  | cons item rest inductionHypothesis =>
    rw [List.mapM_cons] at failed
    cases here : f item with
    | error cause =>
      rw [here, error_bind] at failed
      cases failed
      exact ⟨item, List.mem_cons_self, here⟩
    | ok result =>
      rw [here, ok_bind] at failed
      cases later : rest.mapM f with
      | error cause =>
        rw [later, error_bind] at failed
        obtain ⟨other, member, found⟩ := inductionHypothesis (later.trans failed)
        exact ⟨other, List.mem_cons_of_mem item member, found⟩
      | ok results =>
        rw [later] at failed
        cases failed

/-- Checks that say the same of every item say the same. -/
theorem forM_congr (f g : α → Except ε Unit) (items : List α)
    (agree : ∀ item ∈ items, f item = g item) : items.forM f = items.forM g := by
  induction items with
  | nil => rfl
  | cons item rest inductionHypothesis =>
    simp only [List.forM_eq_forM, List.forM_cons] at inductionHypothesis ⊢
    rw [agree item List.mem_cons_self,
      inductionHypothesis (fun other member => agree other (List.mem_cons_of_mem item member))]

/-- A pass that carries a value along keeps whatever every step keeps. -/
theorem foldlM_keeps (motive : β → Prop) (f : β → α → Except ε β) (items : List α)
    (start result : β) (passed : items.foldlM f start = .ok result) (begins : motive start)
    (keeps : ∀ value item next, item ∈ items → motive value → f value item = .ok next →
      motive next) : motive result := by
  induction items generalizing start with
  | nil =>
    cases passed
    exact begins
  | cons item rest inductionHypothesis =>
    obtain ⟨next, first, others⟩ := (bind_ok_iff _ _ _).mp passed
    refine inductionHypothesis next others (keeps start item next List.mem_cons_self begins first) ?_
    intro value other following member
    exact keeps value other following (List.mem_cons_of_mem item member)

/-- A pass whose every step succeeds is a fold. -/
theorem foldlM_ok (f : β → α → Except ε β) (g : β → α → β) (items : List α) (start : β)
    (succeeds : ∀ value, ∀ item ∈ items, f value item = .ok (g value item)) :
    items.foldlM f start = .ok (items.foldl g start) := by
  induction items generalizing start with
  | nil => rfl
  | cons item rest inductionHypothesis =>
    rw [List.foldlM_cons, succeeds start item List.mem_cons_self, List.foldl_cons]
    exact inductionHypothesis (g start item)
      (fun value other member => succeeds value other (List.mem_cons_of_mem item member))

/-! ### Lists item by item -/

/-- What leads from item to item in two steps leads from list to list in two steps. -/
theorem forall₂_trans {γ : Type} {first : α → β → Prop} {second : β → γ → Prop}
    (both : α → γ → Prop) (trans : ∀ before middle last, first before middle →
      second middle last → both before last) {befores : List α} {middles : List β} {lasts : List γ}
    (earlier : List.Forall₂ first befores middles) (later : List.Forall₂ second middles lasts) :
    List.Forall₂ both befores lasts := by
  induction earlier generalizing lasts with
  | nil =>
    cases later
    exact .nil
  | cons here _ inductionHypothesis =>
    cases later with
    | cons next others => exact .cons (trans _ _ _ here next) (inductionHypothesis others)

/-- Every item of the second list has one of the first that leads to it. -/
theorem exists_of_forall₂ {related : α → β → Prop} {befores : List α} {afters : List β}
    (each : List.Forall₂ related befores afters) (after : β) (member : after ∈ afters) :
    ∃ before ∈ befores, related before after := by
  induction each with
  | nil => cases member
  | cons here _ inductionHypothesis =>
    rcases List.mem_cons.mp member with rfl | later
    · exact ⟨_, List.mem_cons_self, here⟩
    · obtain ⟨before, present, leads⟩ := inductionHypothesis later
      exact ⟨before, List.mem_cons_of_mem _ present, leads⟩

/-- Every item leads to one of its own exactly if the list leads to a list. -/
theorem exists_forall₂_iff (related : α → β → Prop) (befores : List α) :
    (∃ afters, List.Forall₂ related befores afters) ↔
      ∀ before ∈ befores, ∃ after, related before after := by
  constructor
  · rintro ⟨afters, each⟩ before member
    obtain ⟨after, _, leads⟩ := exists_of_forall₂ each.flip before member
    exact ⟨after, leads⟩
  · intro each
    induction befores with
    | nil => exact ⟨[], .nil⟩
    | cons before rest inductionHypothesis =>
      obtain ⟨after, here⟩ := each before List.mem_cons_self
      obtain ⟨afters, others⟩ := inductionHypothesis fun other member =>
        each other (List.mem_cons_of_mem before member)
      exact ⟨after :: afters, .cons here others⟩

/-- One item changes, the others stay. -/
theorem forall₂_set (related : α → α → Prop) (refl : ∀ item, related item item) (items : List α)
    (index : Nat) (item changed : α) (found : items[index]? = some item)
    (changes : related item changed) : List.Forall₂ related items (items.set index changed) := by
  refine List.forall₂_iff_get.mpr ⟨(List.length_set ..).symm, ?_⟩
  intro other inside insideAfter
  simp only [List.get_eq_getElem, List.getElem_set]
  split
  · rename_i here
    obtain ⟨_, stands⟩ := List.getElem?_eq_some_iff.mp (here ▸ found)
    exact stands ▸ changes
  · exact refl _

/-! ### First items -/

/-- An item is the first of a list that has a property. -/
def First (flawed : α → Prop) (items : List α) (item : α) : Prop :=
  ∃ before after, items = before ++ item :: after ∧ flawed item ∧
    ∀ earlier ∈ before, ¬flawed earlier

/-- An empty list has no first item. -/
theorem not_first_nil (flawed : α → Prop) (item : α) :
    ¬First flawed [] item := by
  rintro ⟨before, after, split, _⟩
  cases before <;> cases split

/-- The first item with a property stands at the head, or in the rest if the head lacks the
property. -/
theorem first_cons_iff (flawed : α → Prop) (head : α) (rest : List α) (item : α) :
    First flawed (head :: rest) item ↔
      flawed head ∧ item = head ∨ ¬flawed head ∧ First flawed rest item := by
  constructor
  · rintro ⟨before, after, split, here, earlier⟩
    cases before with
    | nil =>
      cases split
      exact Or.inl ⟨here, rfl⟩
    | cons first others =>
      cases split
      exact Or.inr ⟨earlier head List.mem_cons_self, others, after, rfl, here,
        fun other member => earlier other (List.mem_cons_of_mem head member)⟩
  · rintro (⟨here, rfl⟩ | ⟨sound, before, after, rfl, here, earlier⟩)
    · exact ⟨[], rest, rfl, here, fun _ impossible => nomatch impossible⟩
    · refine ⟨head :: before, after, rfl, here, fun other member => ?_⟩
      rcases List.mem_cons.mp member with rfl | later
      · exact sound
      · exact earlier other later

/-- Properties that the items of a list share have the same first item. -/
theorem First.imp {flawed other : α → Prop} {items : List α} {item : α}
    (first : First flawed items item) (agree : ∀ item ∈ items, flawed item ↔ other item) :
    First other items item := by
  obtain ⟨before, after, rfl, here, earlier⟩ := first
  refine ⟨before, after, rfl, ?_, fun previous member => ?_⟩
  · exact (agree item (List.mem_append_right before List.mem_cons_self)).mp here
  · exact mt (agree previous (List.mem_append_left _ member)).mpr (earlier previous member)

end RegionGraph.Traversal

import RegionGraph.Scripted
import RegionGraph.Proofs.Admission
import RegionGraph.Proofs.Instances
import RegionGraph.Proofs.Steady
import RegionGraph.Proofs.Turns

/-!
# Diaries of implementations

To tell what happens to implementations, whatever they do, each keeps a diary beside its
work: every attempt to start it, with its outcome, and every computation. The diaries show
that an implementation is started successfully at most once and then never again, that it
computes only after that or if it was restored as started, and that one restored as started
is never started. Starts happen while a network is built and at no other time, region after
region in the execution order, when all buffers have storage. The first that fails is the
last of the build, and it is the one that the next build goes on with.
-/

namespace RegionGraph

variable {κ : Type}

/-- What a diary notes of an implementation: an attempt to start it, or a computation. -/
inductive DiaryEntry where
  | started (succeeded : Bool)
  | computed
deriving DecidableEq

/-- An implementation with a diary. It does what the inner one does. -/
structure Diarist (κ : Type) where
  inner : κ
  /-- Whether it was made from a record that says that it was started. -/
  resumed : Bool
  diary : List DiaryEntry

namespace Diarist

/-- A further entry. -/
def note (self : Diarist κ) (inner : κ) (entry : DiaryEntry) : Diarist κ :=
  { self with inner, diary := self.diary ++ [entry] }

instance [Implementation κ] : Implementation (Diarist κ) where
  start self :=
    let (inner, result) := Implementation.start self.inner
    (self.note inner (.started result.isOk), result)
  compute self io :=
    (Implementation.compute self.inner io).map (fun inner => self.note inner .computed)
  save self := Implementation.save self.inner
  parameter? self := Implementation.parameter? self.inner
  setParameter self name value :=
    let (inner, result) := Implementation.setParameter self.inner name value
    ({ self with inner }, result)
  outputCount? self := Implementation.outputCount? self.inner

end Diarist

/-- The same type with diaries, which are empty at first. -/
def RegionType.diarized (type : RegionType κ) : RegionType (Diarist κ) where
  spec := type.spec
  create params region name := (type.create params region name).map (⟨·, false, []⟩)
  restore record region name :=
    (type.restore record region name).map (⟨·, record.initialized, []⟩)

/-- All implementations that a registry makes keep diaries. -/
def Registry.Diarized (registry : Registry (Diarist κ)) : Prop :=
  ∀ name type, registry.found name = some type → ∃ plain : RegionType κ, type = plain.diarized

/-! ### What a diary may say -/

/-- The diary of an implementation is in order: a start that succeeded is followed by
computations alone, a computation follows such a start unless the implementation was resumed,
and one that was resumed is not started. The mark of the region says whether it is started. -/
structure Proper (keeper : Diarist κ) (marked : Bool) : Prop where
  once : ∀ earlier later, keeper.diary = earlier ++ .started true :: later →
    ∀ entry ∈ later, entry = .computed
  before : ∀ earlier later, keeper.diary = earlier ++ .computed :: later →
    keeper.resumed = true ∨ .started true ∈ earlier
  never : keeper.resumed = true → ∀ succeeded, .started succeeded ∉ keeper.diary
  mark : marked = true ↔ keeper.resumed = true ∨ .started true ∈ keeper.diary

/-- An entry of a longer diary is the last one, or one of before. -/
theorem split_of_concat {diary earlier later : List DiaryEntry} {last entry : DiaryEntry}
    (split : diary ++ [last] = earlier ++ entry :: later) :
    (later = [] ∧ earlier = diary ∧ entry = last) ∨
      ∃ rest, later = rest ++ [last] ∧ diary = earlier ++ entry :: rest := by
  rcases List.eq_nil_or_concat' later with rfl | ⟨rest, newest, rfl⟩
  · obtain ⟨same, ends⟩ := List.append_inj' split rfl
    exact Or.inl ⟨rfl, same.symm, (List.cons.inj ends).1.symm⟩
  · rw [← List.cons_append, ← List.append_assoc] at split
    obtain ⟨same, ends⟩ := List.append_inj' split rfl
    exact Or.inr ⟨rest, by rw [(List.cons.inj ends).1], same⟩

namespace Proper

/-- An empty diary is in order. -/
theorem empty (inner : κ) (resumed : Bool) : Proper ⟨inner, resumed, []⟩ resumed where
  once := fun earlier later split => by simp at split
  before := fun earlier later split => by simp at split
  never := fun _ _ => List.not_mem_nil
  mark := by simp

/-- Another inner state leaves the diary as it is. -/
theorem setInner {keeper : Diarist κ} {marked : Bool} (proper : Proper keeper marked) (inner : κ) :
    Proper { keeper with inner } marked :=
  ⟨proper.once, proper.before, proper.never, proper.mark⟩

/-- A start of an implementation that is not marked is in order. -/
theorem started {keeper : Diarist κ} (proper : Proper keeper false) (inner : κ) (succeeded : Bool) :
    Proper (keeper.note inner (.started succeeded)) succeeded := by
  obtain ⟨fresh, unstarted⟩ : keeper.resumed = false ∧ .started true ∉ keeper.diary := by
    simpa using proper.mark
  constructor
  · intro earlier later split
    rcases split_of_concat split with ⟨rfl, _, _⟩ | ⟨rest, _, before⟩
    · exact fun _ impossible => absurd impossible List.not_mem_nil
    · refine absurd ?_ unstarted
      rw [before]
      exact List.mem_append_right _ List.mem_cons_self
  · intro earlier later split
    rcases split_of_concat split with ⟨_, _, impossible⟩ | ⟨rest, _, before⟩
    · cases impossible
    · exact proper.before earlier rest before
  · intro resumed
    cases fresh.symm.trans resumed
  · simp [Diarist.note, fresh, unstarted, eq_comm]

/-- A computation of an implementation that is marked is in order. -/
theorem computed {keeper : Diarist κ} (proper : Proper keeper true) (inner : κ) :
    Proper (keeper.note inner .computed) true := by
  have ready := proper.mark.mp rfl
  constructor
  · intro earlier later split
    rcases split_of_concat split with ⟨rfl, _, _⟩ | ⟨rest, rfl, before⟩
    · exact fun _ impossible => absurd impossible List.not_mem_nil
    · intro entry listed
      rcases List.mem_append.mp listed with former | new
      · exact proper.once earlier rest before entry former
      · exact List.mem_singleton.mp new
  · intro earlier later split
    rcases split_of_concat split with ⟨_, rfl, _⟩ | ⟨rest, _, before⟩
    · exact ready
    · exact proper.before earlier rest before
  · intro resumed succeeded listed
    rcases List.mem_append.mp listed with former | impossible
    · exact proper.never resumed succeeded former
    · cases List.mem_singleton.mp impossible
  · simpa [Diarist.note] using ready

end Proper

/-- Diaries are in order through all calls. -/
theorem enduring_proper [Implementation κ] : Enduring (Proper (κ := κ)) where
  start _ proper := proper.started _ _
  compute _ _ proper := proper.computed _
  setParameter _ _ _ _ proper := proper.setInner _

/-- Implementations begin with a diary in order. -/
theorem Registry.Diarized.begets {registry : Registry (Diarist κ)} (diarized : registry.Diarized) :
    registry.Begets Proper := by
  intro name type found
  obtain ⟨plain, rfl⟩ := diarized name type found
  constructor
  · intro params region typeName state created
    obtain ⟨inner, _, rfl⟩ := (Traversal.map_ok_iff _ _ _).mp created
    exact Proper.empty inner false
  · intro record region typeName state restored
    obtain ⟨inner, _, rfl⟩ := (Traversal.map_ok_iff _ _ _).mp restored
    exact Proper.empty inner record.initialized

/-! ### Starts while building -/

/-- All buffers of a region have storage. -/
structure Region.Allocated (region : Region κ) : Prop where
  outputs : ∀ name output, region.outputs.get? name = some output →
    output.buffer.allocated = true
  inputs : ∀ name input, region.inputs.get? name = some input → input.buffer.allocated = true

/-- A region that got its lengths has storage. -/
theorem Region.allocated_sized (region : Region κ) (outputs inputs : NameMap Nat) (phase : Nat) :
    (region.sized outputs inputs phase).Allocated := by
  constructor
  · intro name output found
    rw [sized, NameMap.get?_map, Option.map_eq_some_iff] at found
    obtain ⟨former, _, rfl⟩ := found
    exact Buffer.sized_allocated _ _
  · intro name input found
    rw [sized, NameMap.get?_map, Option.map_eq_some_iff] at found
    obtain ⟨former, _, rfl⟩ := found
    exact Buffer.sized_allocated _ _

variable [Implementation κ]

/-- A region had its turn to be started. If it was marked nothing happened; otherwise its
implementation was called, the diary has one more entry, and the mark tells the outcome. -/
structure Region.Visited (before after : Region (Diarist κ)) : Prop where
  turn : after = before.start.1
  marked : before.initialized = true → after = before
  called : before.initialized = false →
    after.state.diary = before.state.diary ++ [.started after.initialized]

/-- Starting is a turn of a region, and succeeds exactly if the region is marked then. -/
theorem Region.visited_start (region : Region (Diarist κ)) :
    region.Visited region.start.1 ∧
      (region.start.2 = .ok () ↔ region.start.1.initialized = true) := by
  cases mark : region.initialized with
  | true =>
    have idle : region.start = (region, .ok ()) := if_pos mark
    rw [idle]
    refine ⟨⟨by rw [idle], fun _ => rfl, fun fresh => ?_⟩, fun _ => mark, fun _ => rfl⟩
    cases mark.symm.trans fresh
  | false =>
    have noted : (Implementation.start region.state).1.diary =
        region.state.diary ++ [.started (Implementation.start region.state).2.isOk] := rfl
    have called : region.start.1.state.diary =
          region.state.diary ++ [.started region.start.1.initialized] ∧
        (region.start.2 = .ok () ↔ region.start.1.initialized = true) := by
      unfold Region.start
      rw [if_neg (by simp [mark])]
      rcases began : Implementation.start region.state with ⟨state, outcome⟩
      rw [began] at noted
      cases outcome with
      | ok _ => exact ⟨noted, by simp⟩
      | error fault =>
        simp only [mark]
        exact ⟨noted, by simp⟩
    refine ⟨⟨rfl, fun marked => ?_, fun _ => called.1⟩, called.2⟩
    cases mark.symm.trans marked

namespace Network

omit [Implementation κ] in
/-- At a position both networks have regions, and these are related. -/
def At (before after : Network κ) (related : Region κ → Region κ → Prop) (index : Nat) : Prop :=
  ∃ first second, before.regions[index]? = some first ∧ after.regions[index]? = some second ∧
    related first second

/-- Regions were started one after the other in an order. Either all of them had their turn
and are marked, or the turn of one failed, those earlier in the order are marked, and those
later in the order were not called. -/
inductive StartsInOrder (before after : Network (Diarist κ)) (order : List Nat) :
    Except GraphError Unit → Prop where
  | all (each : ∀ index ∈ order, At before after
      (fun first second => first.Visited second ∧ second.initialized = true) index) :
      StartsInOrder before after order (.ok ())
  | failing (front rest : List Nat) (last : Nat) (fault : GraphError)
      (split : order = front ++ last :: rest)
      (started : ∀ index ∈ front, At before after
        (fun first second => first.Visited second ∧ second.initialized = true) index)
      (failed : At before after
        (fun first second => first.Visited second ∧ second.initialized = false) last)
      (waiting : ∀ index ∈ rest, At before after (fun first second => second = first) index) :
      StartsInOrder before after order (.error fault)

/-- Where the start of a region succeeded it was called as it had to be, and is marked. -/
theorem at_startedAt (network : Network (Diarist κ)) (turns : List Nat) (index : Nat)
    (region : Region (Diarist κ)) (found : network.regions[index]? = some region)
    (listed : index ∈ turns) (began : region.start.2 = .ok ()) :
    At network { network with regions := startedAt network.regions turns }
      (fun first second => first.Visited second ∧ second.initialized = true) index := by
  refine ⟨region, region.start.1, found, ?_, region.visited_start.1,
    region.visited_start.2.mp began⟩
  rw [getElem?_startedAt, found, Option.map_some, if_pos listed]

/-- Starting in order starts regions in order. -/
theorem startsInOrder_startAll (order : List Nat) (network : Network (Diarist κ))
    (perm : order.Perm (List.range network.regions.length)) :
    StartsInOrder network ((order.forM startAt).run network).2 order
      ((order.forM startAt).run network).1 := by
  have inside : ∀ index ∈ order, index < network.regions.length := fun index listed =>
    List.mem_range.mp (perm.mem_iff.mp listed)
  have distinct : order.Nodup := perm.nodup_iff.mpr List.nodup_range
  have stands (index : Nat) (listed : index ∈ order) :
      ∃ region, network.regions[index]? = some region :=
    ⟨_, List.getElem?_eq_getElem (inside index listed)⟩
  rcases startAll_walk order distinct network inside with
    ⟨all, ran⟩ | ⟨front, last, rest, region, fault, split, all, found, fails, ran⟩
  · rw [ran]
    refine .all (fun index listed => ?_)
    obtain ⟨region, here⟩ := stands index listed
    exact network.at_startedAt order index region here listed (all index listed region here)
  · rw [ran]
    have within (index : Nat) (earlier : index ∈ front) : index ∈ order := by
      rw [split]
      exact List.mem_append_left _ earlier
    refine .failing front rest last fault split ?_ ?_ ?_
    · intro index earlier
      obtain ⟨region, here⟩ := stands index (within index earlier)
      exact network.at_startedAt _ index region here (List.mem_append_left _ earlier)
        (all index earlier region here)
    · refine ⟨region, region.start.1, found, ?_, region.visited_start.1, ?_⟩
      · rw [getElem?_startedAt, found, Option.map_some,
          if_pos (List.mem_append_right _ (List.mem_singleton_self last))]
      · cases marked : region.start.1.initialized with
        | false => rfl
        | true => cases fails.symm.trans (region.visited_start.2.mpr marked)
    · intro index later
      obtain ⟨region, here⟩ := stands index (by
        rw [split]
        exact List.mem_append_right _ (List.mem_cons_of_mem last later))
      have absent : index ∉ front ++ [last] := by
        rw [split, List.append_cons] at distinct
        exact fun listed => (List.nodup_append.mp distinct).2.2 index listed index later rfl
      refine ⟨region, region, here, ?_, rfl⟩
      rw [getElem?_startedAt, here, Option.map_some, if_neg absent]

omit [Implementation κ] in
/-- Two orders with the same turns: a turn that comes after the last one of a part of the
order comes after all that part. -/
theorem earlier_of_split {front rest front' rest' : List Nat} {last last' : Nat}
    (same : front ++ last :: rest = front' ++ last' :: rest')
    (distinct : (front ++ last :: rest).Nodup) (later : last ∈ rest') : last' ∈ front := by
  have fresh : last ∉ rest := (List.nodup_cons.mp (List.nodup_append.mp distinct).2.1).1
  rcases List.append_eq_append_iff.mp same with ⟨between, _, split⟩ | ⟨between, rfl, split⟩
  · cases between with
    | nil =>
      obtain ⟨_, rfl⟩ := List.cons.inj split
      exact absurd later fresh
    | cons first others =>
      obtain ⟨_, rfl⟩ := List.cons.inj split
      exact absurd (List.mem_append_right others (List.mem_cons_of_mem last' later)) fresh
  · cases between with
    | nil =>
      obtain ⟨_, rfl⟩ := List.cons.inj split
      exact absurd later fresh
    | cons first others =>
      obtain ⟨rfl, _⟩ := List.cons.inj split
      exact List.mem_append_right front' List.mem_cons_self

/-- Where all of an order had their turn, or it failed, each region that was marked is as it
was. -/
theorem StartsInOrder.spares {before after : Network (Diarist κ)} {order : List Nat}
    {outcome : Except GraphError Unit} (starts : before.StartsInOrder after order outcome)
    (index : Nat) (listed : index ∈ order) (region : Region (Diarist κ))
    (found : before.regions[index]? = some region) (marked : region.initialized = true) :
    after.regions[index]? = some region := by
  have spared {related : Region (Diarist κ) → Region (Diarist κ) → Prop}
      (here : At before after related index)
      (same : ∀ second, related region second → second = region) :
      after.regions[index]? = some region := by
    obtain ⟨first, second, stood, stands, relates⟩ := here
    cases found.symm.trans stood
    rw [stands, same second relates]
  cases starts with
  | all each => exact spared (each index listed) fun _ visited => visited.1.marked marked
  | failing front rest last fault split started failed waiting =>
    rw [split] at listed
    rcases List.mem_append.mp listed with earlier | present
    · exact spared (started index earlier) fun _ visited => visited.1.marked marked
    · rcases List.mem_cons.mp present with rfl | later
      · exact spared failed fun _ visited => visited.1.marked marked
      · exact spared (waiting index later) fun _ same => same

/-- A region that is the first in the order without a mark is called. -/
theorem StartsInOrder.calls {before after : Network (Diarist κ)} {front rest : List Nat}
    {last : Nat} {outcome : Except GraphError Unit} (distinct : (front ++ last :: rest).Nodup)
    (starts : before.StartsInOrder after (front ++ last :: rest) outcome)
    (marked : ∀ index ∈ front, ∀ region, before.regions[index]? = some region →
      region.initialized = true) :
    At before after Region.Visited last := by
  have listed : last ∈ front ++ last :: rest := List.mem_append_right front List.mem_cons_self
  cases starts with
  | all each =>
    obtain ⟨first, second, stood, stands, visited, _⟩ := each last listed
    exact ⟨first, second, stood, stands, visited⟩
  | failing front' rest' last' fault split started failed waiting =>
    have turns := split ▸ listed
    rcases List.mem_append.mp turns with earlier | present
    · obtain ⟨first, second, stood, stands, visited, _⟩ := started last earlier
      exact ⟨first, second, stood, stands, visited⟩
    · obtain ⟨first, second, stood, stands, visited, unmarked⟩ := failed
      rcases List.mem_cons.mp present with rfl | later
      · exact ⟨first, second, stood, stands, visited⟩
      · -- What failed before the turn of this region would be marked already.
        have mark := marked last' (earlier_of_split split distinct later) first stood
        rw [visited.marked mark] at unmarked
        cases unmarked.symm.trans mark

/-! ### Building -/

/-- The region of which the start failed is still not marked, and its diary ends with the
failure. Another build that passes the checks calls it again, and leaves those alone that are
marked. -/
structure Retries (after again : Network (Diarist κ)) (index : Nat) : Prop where
  retried : ∃ failed retried earlier, after.regions[index]? = some failed ∧
    failed.initialized = false ∧ failed.state.diary = earlier ++ [.started false] ∧
    again.regions[index]? = some retried ∧
    retried.state.diary = failed.state.diary ++ [.started retried.initialized]
  spared : ∀ (other : Nat) region, after.regions[other]? = some region →
    region.initialized = true →
    ∃ later, again.regions[other]? = some later ∧ later.state = region.state

/-- What building a network does to implementations. A network that is ready is not built
again. One that fails a check is left as it is. Otherwise all buffers get storage first, and
then regions are started in the execution order, each of them once. Where the last build
failed to start a region the next goes on with it. -/
structure BuildsInOrder (network : Network (Diarist κ)) : Prop where
  idle : network.state = .initialized → (build (κ := Diarist κ)).run network = (.ok (), network)
  refused : ∀ fault, network.state = .unbuilt ∨ network.state = .stopped →
    network.plan = .error fault → (build (κ := Diarist κ)).run network = (.error fault, network)
  starts : ∀ plan, network.state = .unbuilt ∨ network.state = .stopped → network.plan = .ok plan →
    ∃ readied, (shape plan).run network = (.ok (), readied) ∧
      readied.regions.map Region.standing = network.regions.map Region.standing ∧
      (∀ region ∈ readied.regions, region.Allocated) ∧
      plan.schedule.order.Perm (List.range readied.regions.length) ∧
      StartsInOrder readied ((build (κ := Diarist κ)).run network).2 plan.schedule.order
        ((build (κ := Diarist κ)).run network).1
  retries : ∀ plan again fault after, network.state = .unbuilt ∨ network.state = .stopped →
    network.plan = .ok plan → (build (κ := Diarist κ)).run network = (.error fault, after) →
    after.plan = .ok again →
    ∃ index, after.Retries ((build (κ := Diarist κ)).run after).2 index

/-- Building starts regions in order, after it gave all buffers storage. -/
theorem starts_of_plan (network : Network (Diarist κ)) (sound : network.wiring.Sound)
    (plan : Plan) (open_ : network.state = .unbuilt ∨ network.state = .stopped)
    (planned : network.plan = .ok plan) :
    ∃ readied, (shape plan).run network = (.ok (), readied) ∧
      readied.regions.map Region.standing = network.regions.map Region.standing ∧
      (∀ region ∈ readied.regions, region.Allocated) ∧
      plan.schedule.order.Perm (List.range readied.regions.length) ∧
      StartsInOrder readied ((build (κ := Diarist κ)).run network).2 plan.schedule.order
        ((build (κ := Diarist κ)).run network).1 := by
  have fits := network.fits_of_plan sound plan planned
  have perm := network.perm_sized plan fits
  have started := startsInOrder_startAll plan.schedule.order (network.sized plan) perm
  refine ⟨network.sized plan, network.shape_of_fits sound plan fits,
    network.map_sizedRegions plan Region.standing (fun _ _ => rfl), ?_, perm, ?_⟩
  · intro region member
    obtain ⟨_, _, index, rfl⟩ :=
      Traversal.exists_of_forall₂ (network.regions_sized plan) region member
    exact Region.allocated_sized _ _ _ _
  · rw [network.build_of_open open_, rebuilt, planned]
    simp only [network.shape_of_fits sound plan fits]
    rcases ran : (plan.schedule.order.forM startAt).run (network.sized plan) with ⟨outcome, after⟩
    rw [ran] at started
    cases outcome with
    | error fault => exact started
    | ok _ =>
      cases started with
      | all each => exact .all each

omit [Implementation κ] in
/-- Where regions have come as far as others, there is one at every position that has come as
far as the other there. -/
theorem standing_at (first second : Network κ)
    (same : first.regions.map Region.standing = second.regions.map Region.standing) (index : Nat)
    (region : Region κ) (found : first.regions[index]? = some region) :
    ∃ twin, second.regions[index]? = some twin ∧ twin.state = region.state ∧
      twin.initialized = region.initialized := by
  have here := congrArg (fun standings => standings[index]?) same
  simp only [List.getElem?_map, found, Option.map_some] at here
  obtain ⟨twin, stands, told⟩ := Option.map_eq_some_iff.mp here.symm
  exact ⟨twin, stands, congrArg Prod.fst told, congrArg Prod.snd told⟩

omit [Implementation κ] in
/-- The execution order is told by the wiring. -/
theorem schedule_of_wiring (first second : Network κ) (same : first.wiring = second.wiring) :
    first.schedule = second.schedule := by
  have index : first.index = second.index := congrArg Wiring.index same
  rw [schedule_eq, schedule_eq, index, names_of_wiring first second same,
    specs_of_wiring first second same]

/-- A build that failed to start a region is followed by one that goes on with it. -/
theorem retries_of_failed (network after : Network (Diarist κ)) (sound : network.wiring.Sound)
    (plan again : Plan) (fault : GraphError)
    (open_ : network.state = .unbuilt ∨ network.state = .stopped)
    (planned : network.plan = .ok plan)
    (failed : (build (κ := Diarist κ)).run network = (.error fault, after))
    (plannedAgain : after.plan = .ok again) :
    ∃ index, after.Retries ((build (κ := Diarist κ)).run after).2 index := by
  have wiring := network.wiring_build
  rw [failed] at wiring
  have soundAfter : after.wiring.Sound := wiring ▸ sound
  have state : after.state = network.state := by
    rw [network.build_of_open open_] at failed
    rcases network.rebuilt_cases sound plan planned with ⟨_, done⟩ | ⟨_, _, done, _, readied⟩
    · cases failed.symm.trans done
    · cases failed.symm.trans done
      exact readied.state
  have order : again.schedule.order = plan.schedule.order := by
    have scheduled := (network.fits_of_plan sound plan planned).scheduled
    have scheduledAgain := (after.fits_of_plan soundAfter again plannedAgain).scheduled
    rw [after.schedule_of_wiring network wiring, scheduled, Except.ok.injEq] at scheduledAgain
    rw [scheduledAgain]
  obtain ⟨_, _, _, _, _, starts⟩ := network.starts_of_plan sound plan open_ planned
  obtain ⟨readied, _, standings, _, perm, startsAgain⟩ :=
    after.starts_of_plan soundAfter again (state ▸ open_) plannedAgain
  rw [failed] at starts
  cases starts with
  | failing front rest last _ split started unstarted waiting =>
    obtain ⟨former, region, _, stands, visited, unmarked⟩ := unstarted
    have fresh : former.initialized = false := by
      cases mark : former.initialized with
      | false => rfl
      | true =>
        rw [visited.marked mark] at unmarked
        exact mark.symm.trans unmarked
    have distinct : again.schedule.order.Nodup := perm.nodup_iff.mpr List.nodup_range
    rw [order, split] at startsAgain distinct perm
    obtain ⟨first, retried, stood, now, calls⟩ := startsAgain.calls distinct (by
      intro index earlier other found
      obtain ⟨twin, here, _, mark⟩ := standing_at readied after standings index other found
      obtain ⟨_, second, _, there, _, marked⟩ := started index earlier
      cases here.symm.trans there
      exact mark.symm.trans marked)
    obtain ⟨twin, here, same, mark⟩ := standing_at readied after standings last first stood
    cases here.symm.trans stands
    refine ⟨last, ⟨region, retried, former.state.diary, stands, unmarked, ?_, now, ?_⟩, ?_⟩
    · rw [visited.called fresh, unmarked]
    · rw [calls.called (mark.symm.trans unmarked), same]
    · intro other marked found initialized
      obtain ⟨twin, there, told, flag⟩ :=
        standing_at after readied standings.symm other marked found
      have listed : other ∈ front ++ last :: rest := by
        rw [perm.mem_iff, List.mem_range]
        exact (List.getElem?_eq_some_iff.mp there).1
      exact ⟨twin, startsAgain.spares other listed twin there (flag.trans initialized), told⟩

/-- A network builds in order. -/
theorem buildsInOrder_of_sound (network : Network (Diarist κ)) (sound : network.wiring.Sound) :
    network.BuildsInOrder where
  idle := by
    intro ready
    rw [run_build, ready]
  refused := by
    intro fault open_ refused
    rw [network.build_of_open open_, rebuilt, refused]
  starts := network.starts_of_plan sound
  retries := fun plan again fault after => network.retries_of_failed after sound plan again fault

/-- In a reachable network every diary is in order. An implementation was started with success
at most once, and then only computed. It computed only after that, or if it was restored as
started; if it was, it was never started. Building calls implementations when all buffers have
storage, in the execution order and none that is marked as started, and it ends with the first
that fails; the next build that passes the checks calls that one again.

That a diary is in order is a property of one implementation and its mark. It holds when an
implementation is made or restored, and starting, computing and setting a parameter each keep
it; by induction over the calls it holds of all regions at all times. The starts of one build
are an induction over the execution order. -/
theorem diaries_of_reachable (network : Network (Diarist κ))
    (reachable : Reachable Registry.Diarized network) :
    (∀ region ∈ network.regions, Proper region.state region.initialized) ∧
      network.BuildsInOrder := by
  refine ⟨?_, network.buildsInOrder_of_sound (sound_of_reachable _ network reachable)⟩
  exact each_of_reachable Proper enduring_proper Registry.Diarized
    (fun registry diarized => diarized.begets) network reachable

end Network

/-- A type of regions that count in one output, and whose first start fails. -/
def Script.lateRiser : Script where
  spec := ⟨"", [], [], [("out", { OutputSpec.new .int32 with count := 3 })]⟩
  createError := none
  startFailures := 1
  stateful := false
  saveError := none
  tracks := []
  accepts := []
  counts := []
  minimal := false
  program := [.state "out"]

/-- The registry of that type, with diaries. -/
def Registry.risers : Registry (Diarist Scripted) :=
  registerAll ∅ [("LateRiser", Script.lateRiser.type.diarized)]

/-- All that it makes keeps diaries. -/
theorem Registry.diarized_risers : risers.Diarized := by
  intro name type found
  have told := (offers_registerAll [("LateRiser", Script.lateRiser.type.diarized)]).types name
  change risers.found name = _ at told
  rw [told, List.lookup_cons] at found
  split at found
  · exact ⟨_, (Option.some.inj found).symm⟩
  · cases found

namespace Network

/-- A late riser that was built twice, because the first build failed, and ran. -/
def risen : Network (Diarist Scripted) :=
  let made := (new default).added Registry.risers "riser" "LateRiser" ∅
  let failed := ((build (κ := Diarist Scripted)).run made).2
  let built := ((build (κ := Diarist Scripted)).run failed).2
  (built.run 2 ([] : List Empty)).network

/-- The diary of the late riser tells of two starts and two computations, and is in order. -/
theorem diaries_risen :
    risen.regions.map (fun region => region.state.diary) =
        [[.started false, .started true, .computed, .computed]] ∧
      (∀ region ∈ risen.regions, Proper region.state region.initialized) ∧
      risen.BuildsInOrder := by
  have empty : Reachable Registry.Diarized (Network.new default : Network (Diarist Scripted)) :=
    .new default
  have made := Reachable.step _ _ empty
    (.addRegion _ Registry.risers "riser" "LateRiser" ∅ Registry.diarized_risers)
  have built := Reachable.step _ _ (Reachable.step _ _ made (.build _)) (.build _)
  exact ⟨by decide +kernel,
    diaries_of_reachable risen (.step _ _ built (.run Empty _ 2 []))⟩

end Network

end RegionGraph

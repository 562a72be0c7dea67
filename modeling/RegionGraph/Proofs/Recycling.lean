import RegionGraph.Proofs.Dataflow
import RegionGraph.Proofs.Sizing

/-!
# Recycled snapshots

A delayed link is a queue: every cycle the oldest snapshot goes and the contents of the
source come last. It saves storage by writing the newest contents over the snapshot that
goes, if that has room for them, and only otherwise takes a copy. Here the snapshots lie
in a memory of places, among other buffers that anybody may change, and what the link
holds there is compared with the queue after any history.
-/

namespace RegionGraph

namespace Link

variable (link : Link)

/-! ### The queue -/

/-- The snapshots that a link starts with: its own, and, where it is prepared for a source,
its own only if they are as many as the delay says and like the source, and zeros
otherwise. -/
def starting : Option Buffer → List Buffer
  | none => link.pending
  | some source =>
    if link.pending.length = link.delay ∧
        ∀ snapshot ∈ link.pending, snapshot.extent = source.extent then link.pending
    else List.replicate link.delay (.zeroed source.type source.length)

/-- A link that was prepared for a source, if there is one. -/
def preparedFor (source : Option Buffer) : Link := source.elim link link.prepare

/-- A link holds what is left of a queue of snapshots after outputs have come in at its end
and as many entries have gone at its front. -/
structure Queued (snapshots outputs : List Buffer) (moved : Link) : Prop where
  id : moved.id = link.id
  spec : moved.spec = link.spec
  count : moved.pending.length = link.delay
  contents : moved.pending.map Buffer.contents =
    ((snapshots ++ outputs).map Buffer.contents).drop outputs.length
  /-- The reader sees the entry that goes next, whatever the source holds meanwhile. -/
  visible : ∀ live, (snapshots ++ outputs)[outputs.length]?.map Buffer.contents =
    some (moved.visible live).contents

/-- Preparing a link changes nothing but its snapshots. -/
theorem preparedFor_eq (source : Option Buffer) :
    link.preparedFor source = { link with pending := link.starting source } := by
  cases source with
  | none => rfl
  | some source =>
    unfold preparedFor Option.elim prepare starting
    simp only [List.all_eq_true, Bool.and_eq_true, beq_iff_eq, Buffer.extent, Prod.mk.injEq]
    split <;> rfl

/-- A prepared link has as many snapshots as its delay says, and so has every other one that
had them before. -/
theorem length_starting (source : Option Buffer)
    (full : source = none → link.pending.length = link.delay) :
    (link.starting source).length = link.delay := by
  cases source with
  | none => exact full rfl
  | some source =>
    rw [starting]
    split
    case isTrue kept => exact kept.1
    case isFalse => exact List.length_replicate

/-- One cycle takes the oldest entry off the queue and puts the newest at its end, in
whichever of its three ways the link comes by the storage. -/
theorem contents_shift (delayed : 0 < link.delay) (live : Buffer) :
    (link.shift live).pending.map Buffer.contents =
      (link.pending.map Buffer.contents).tail ++ [live.contents] := by
  have moving : link.isDelayed = true := by simpa [isDelayed] using Nat.ne_of_gt delayed
  unfold shift
  rw [if_pos moving]
  cases link.pending with
  | nil => rfl
  | cons oldest rest =>
    rw [List.map_append, List.map_singleton, contents_reuse, List.map_cons, List.tail_cons]

/-- Cycles keep the number and the specification of a link. -/
theorem id_spec_shifts (outputs : List Buffer) :
    (outputs.foldl shift link).id = link.id ∧ (outputs.foldl shift link).spec = link.spec := by
  induction outputs generalizing link with
  | nil => exact ⟨rfl, rfl⟩
  | cons output outputs inductionHypothesis =>
    obtain ⟨id, spec⟩ := Prod.mk.inj (Network.shift_id_spec link output)
    obtain ⟨laterId, laterSpec⟩ := inductionHypothesis (link.shift output)
    exact ⟨laterId.trans id, laterSpec.trans spec⟩

/-- Cycle after cycle the queue moves on by one entry. -/
theorem contents_shifts (delayed : 0 < link.delay) (full : link.pending.length = link.delay)
    (outputs : List Buffer) :
    (outputs.foldl shift link).pending.map Buffer.contents =
      ((link.pending ++ outputs).map Buffer.contents).drop outputs.length := by
  induction outputs using List.reverseRecOn with
  | nil => simp
  | append_singleton earlier newest inductionHypothesis =>
    have moving : 0 < (earlier.foldl shift link).delay := by
      rwa [delay, (id_spec_shifts link earlier).2]
    have inside : earlier.length + 1 ≤ ((link.pending ++ earlier).map Buffer.contents).length := by
      rw [List.length_map, List.length_append]
      omega
    rw [List.foldl_concat, ← List.append_assoc, List.map_append, List.map_singleton,
      List.length_append, List.length_singleton]
    calc ((earlier.foldl shift link).shift newest).pending.map Buffer.contents
        = (((link.pending ++ earlier).map Buffer.contents).drop earlier.length).tail ++
            [newest.contents] := by rw [contents_shift _ moving, inductionHypothesis]
      _ = ((link.pending ++ earlier).map Buffer.contents).drop (earlier.length + 1) ++
            [newest.contents] := by rw [List.tail_drop]
      _ = ((link.pending ++ earlier).map Buffer.contents ++ [newest.contents]).drop
            (earlier.length + 1) := (List.drop_append_of_le_length inside).symm

/-- A link that has as many snapshots as its delay says remains a queue. -/
theorem queued_of_shifts (delayed : 0 < link.delay) (full : link.pending.length = link.delay)
    (outputs : List Buffer) :
    link.Queued link.pending outputs (outputs.foldl shift link) := by
  obtain ⟨id, spec⟩ := id_spec_shifts link outputs
  have contents := contents_shifts link delayed full outputs
  have count : (outputs.foldl shift link).pending.length = link.delay := by
    rw [← List.length_map Buffer.contents, contents]
    simp [full]
  refine ⟨id, spec, count, contents, ?_⟩
  intro live
  have moving : (outputs.foldl shift link).isDelayed = true := by
    simpa [isDelayed, delay, spec] using Nat.ne_of_gt delayed
  rw [visible, if_pos moving, ← List.getElem?_map, ← List.head?_drop, ← contents]
  cases remaining : (outputs.foldl shift link).pending with
  | nil =>
    rw [remaining, List.length_nil] at count
    omega
  | cons oldest rest => rfl

end Link

/-! ### The storage -/

/-- A memory of places that hold buffers, and the places of a link's snapshots, oldest first. -/
structure Memory where
  cells : List Buffer
  queue : List Nat
deriving DecidableEq

namespace Memory

/-- What a place holds. -/
def cell (memory : Memory) (place : Nat) : Buffer := memory.cells[place]?.getD default

/-- A new place is given out; nobody else has it. -/
def create (memory : Memory) (buffer : Buffer) : Memory :=
  { memory with cells := memory.cells ++ [buffer] }

/-- Something else is written to a place. -/
def change (memory : Memory) (place : Nat) (buffer : Buffer) : Memory :=
  { memory with cells := memory.cells.set place buffer }

/-- Take a copy of a source to a new place, and put that last. -/
def enqueue (memory : Memory) (rest : List Nat) (source : Nat) : Memory :=
  { memory.create (memory.cell source) with queue := rest ++ [memory.cells.length] }

/-- A cycle ends. The place of the oldest snapshot is written over with the source and put
last; if it has another length, or the copy is refused, the place is given up for a new
one. -/
def shift (memory : Memory) (source : Nat) : Memory :=
  match memory.queue with
  | [] => memory.enqueue [] source
  | oldest :: rest =>
    if (memory.cell oldest).length = (memory.cell source).length then
      match (memory.cell oldest).copyFrom (memory.cell source) with
      | .ok refilled => { memory.change oldest refilled with queue := rest ++ [oldest] }
      | .error _ => memory.enqueue rest source
    else memory.enqueue rest source

/-- Bring the snapshots into the number and shape that a delay and a source ask for: they
stay where they are, or are given up for zeros at new places. -/
def prepare (memory : Memory) (delay source : Nat) : Memory :=
  if memory.queue.length = delay ∧
      ∀ place ∈ memory.queue, (memory.cell place).extent = (memory.cell source).extent then memory
  else
    ⟨memory.cells ++ List.replicate delay
        (.zeroed (memory.cell source).type (memory.cell source).length),
      List.range' memory.cells.length delay⟩

/-- Histories of a memory, with the source that its link was prepared for first, if any, and
the outputs that came in. Only the link writes to the places of its snapshots: a source lies
somewhere else, and a snapshot that went may be changed by anybody as soon as its place is no
longer in use. -/
inductive Passes (delay : Nat) (memory : Memory) : Option Buffer → List Buffer → Memory → Prop
  | begin : Passes delay memory none [] memory
  | prepare (source : Nat) (given : source < memory.cells.length) :
      Passes delay memory (some (memory.cell source)) [] (memory.prepare delay source)
  | create {source : Option Buffer} {outputs : List Buffer} {later : Memory}
      (earlier : Passes delay memory source outputs later) (buffer : Buffer) :
      Passes delay memory source outputs (later.create buffer)
  | change {source : Option Buffer} {outputs : List Buffer} {later : Memory}
      (earlier : Passes delay memory source outputs later) (place : Nat) (buffer : Buffer)
      (free : place ∉ later.queue) :
      Passes delay memory source outputs (later.change place buffer)
  | shift {source : Option Buffer} {outputs : List Buffer} {later : Memory}
      (earlier : Passes delay memory source outputs later) (place : Nat)
      (given : place < later.cells.length) :
      Passes delay memory source (outputs ++ [later.cell place]) (later.shift place)

/-- The snapshots of a link lie at places of their own. -/
structure Stores (memory : Memory) (snapshots : List Buffer) : Prop where
  distinct : memory.queue.Nodup
  given : ∀ place ∈ memory.queue, place < memory.cells.length
  held : memory.queue.map memory.cell = snapshots

variable {memory : Memory} {snapshots : List Buffer}

/-- New places do not change what the old ones hold. -/
theorem cell_append (added : List Buffer) (place : Nat) (given : place < memory.cells.length)
    (queue : List Nat) :
    cell ⟨memory.cells ++ added, queue⟩ place = memory.cell place := by
  simp only [cell, List.getElem?_append_left given]

/-- Writing to a place does not change what the others hold. -/
theorem cell_change (place other : Nat) (apart : place ≠ other) (buffer : Buffer) :
    (memory.change place buffer).cell other = memory.cell other := by
  simp only [cell, change, List.getElem?_set_ne apart]

/-- The snapshots stay as they are if new places are given out. -/
theorem stores_create (stored : memory.Stores snapshots) (buffer : Buffer) :
    (memory.create buffer).Stores snapshots := by
  refine ⟨stored.distinct, ?_, ?_⟩
  · intro place listed
    have given := stored.given place listed
    simp only [create, List.length_append]
    omega
  · rw [← stored.held]
    apply List.map_congr_left
    intro place listed
    exact cell_append [buffer] place (stored.given place listed) memory.queue

/-- The snapshots stay as they are if any other place is written to. -/
theorem stores_change (stored : memory.Stores snapshots) (place : Nat) (buffer : Buffer)
    (free : place ∉ memory.queue) : (memory.change place buffer).Stores snapshots := by
  refine ⟨stored.distinct, ?_, ?_⟩
  · intro other listed
    rw [change, List.length_set]
    exact stored.given other listed
  · rw [← stored.held]
    apply List.map_congr_left
    intro other listed
    exact cell_change place other (fun same => free (same ▸ listed)) buffer

/-- A copy at a new place comes last. -/
theorem stores_enqueue (rest : List Nat) (source : Nat)
    (stored : Stores { memory with queue := rest } snapshots) :
    (memory.enqueue rest source).Stores (snapshots ++ [memory.cell source]) := by
  obtain ⟨distinct, given, held⟩ := stores_create stored (memory.cell source)
  refine ⟨?_, ?_, ?_⟩
  · refine List.nodup_append'.mpr ⟨distinct, List.nodup_singleton _, ?_⟩
    rw [List.disjoint_singleton]
    intro listed
    exact Nat.lt_irrefl _ (stored.given _ listed)
  · intro place listed
    rcases List.mem_append.mp listed with before | last
    · exact given place before
    · rw [List.mem_singleton.mp last]
      simp [enqueue, create]
  · rw [enqueue, List.map_append, ← held]
    congr 1
    simp [cell, create]

/-- A cycle takes the oldest snapshot away and puts the newest last, as the link does: at the
place of the oldest, whose own contents nobody needs any more, or at a new one. -/
theorem stores_shift (link : Link) (delayed : 0 < link.delay)
    (stored : memory.Stores link.pending) (source : Nat) :
    (memory.shift source).Stores (link.shift (memory.cell source)).pending := by
  have moving : link.isDelayed = true := by simpa [Link.isDelayed] using Nat.ne_of_gt delayed
  obtain ⟨distinct, given, held⟩ := stored
  unfold shift Link.shift
  rw [if_pos moving, ← held]
  cases listed : memory.queue with
  | nil =>
    rw [listed] at distinct given
    have nothing (place : Nat) (member : place ∈ []) : place < memory.cells.length :=
      absurd member List.not_mem_nil
    exact stores_enqueue [] source ⟨List.nodup_nil, nothing, rfl⟩
  | cons oldest rest =>
    rw [listed] at distinct given
    obtain ⟨alone, others⟩ := List.nodup_cons.mp distinct
    have remaining : Stores { memory with queue := rest } (rest.map memory.cell) :=
      ⟨others, fun place member => given place (List.mem_cons_of_mem oldest member), rfl⟩
    simp only [List.map_cons, Link.reuse]
    split
    case isFalse => exact stores_enqueue rest source remaining
    case isTrue =>
      cases copied : (memory.cell oldest).copyFrom (memory.cell source) with
      | error _ => exact stores_enqueue rest source remaining
      | ok refilled =>
        obtain ⟨_, within, unchanged⟩ := stores_change remaining oldest refilled alone
        have inside : oldest < memory.cells.length := given oldest List.mem_cons_self
        refine ⟨?_, ?_, ?_⟩
        · refine List.nodup_append'.mpr ⟨others, List.nodup_singleton _, ?_⟩
          rw [List.disjoint_singleton]
          exact alone
        · intro place member
          rcases List.mem_append.mp member with before | last
          · exact within place before
          · rw [List.mem_singleton.mp last]
            simpa [change] using inside
        · simp only [List.map_append, ← unchanged, List.map_singleton]
          congr 1
          simp [cell, change, inside]

/-- Preparing keeps the snapshots of a link where they are or gives it zeros, as the link
does. -/
theorem stores_prepare (link : Link) (stored : memory.Stores link.pending) (source : Nat) :
    (memory.prepare link.delay source).Stores (link.starting (some (memory.cell source))) := by
  obtain ⟨distinct, given, held⟩ := stored
  rw [prepare, Link.starting, ← held, List.length_map]
  simp only [List.forall_mem_map]
  split
  case isTrue => exact ⟨distinct, given, rfl⟩
  case isFalse =>
    refine ⟨List.nodup_range', ?_, ?_⟩
    · intro place listed
      rw [List.mem_range'_1] at listed
      simpa using listed.2
    · apply List.ext_getElem
      · simp
      · intro index inside _
        have within : index < link.delay := by simpa using inside
        simp [cell, within]

/-- Whatever happens, the memory holds the snapshots of the link. -/
theorem stores_of_passes (link : Link) (delayed : 0 < link.delay)
    (stored : memory.Stores link.pending) (source : Option Buffer) (outputs : List Buffer)
    (later : Memory) (passed : memory.Passes link.delay source outputs later) :
    later.Stores (outputs.foldl Link.shift (link.preparedFor source)).pending := by
  induction passed with
  | begin => exact stored
  | prepare source _ =>
    rw [List.foldl_nil, Link.preparedFor_eq]
    exact stores_prepare link stored source
  | create _ buffer inductionHypothesis => exact stores_create inductionHypothesis buffer
  | change _ place buffer free inductionHypothesis =>
    exact stores_change inductionHypothesis place buffer free
  | shift _ place _ inductionHypothesis =>
    rw [List.foldl_concat]
    refine stores_shift _ ?_ inductionHypothesis place
    rwa [Link.delay, (Link.id_spec_shifts _ _).2, Link.preparedFor_eq]

end Memory

/-- A delayed link is a queue of its delay's length, however it comes by the storage. It starts
with the snapshots that it has, or those that preparing leaves it; after any outputs it holds
the last entries of what it started with and what came in, shows the oldest of them, and so do
the places of the memory that it keeps them in, whatever anybody wrote meanwhile to the source
or to places that it no longer uses.

One output moves the queue on by one place, and by induction over the outputs the queue holds
the last of all that came in. The same induction carries along that no two places of the queue
are one and that the source is in none of them, whoever writes to other places between the
outputs. -/
theorem Link.recycling_exact (link : Link) (delayed : 0 < link.delay) (source : Option Buffer)
    (full : source = none → link.pending.length = link.delay) :
    (∀ outputs, link.Queued (link.starting source) outputs
      (outputs.foldl shift (link.preparedFor source))) ∧
    ∀ memory : Memory, memory.Stores link.pending →
      ∀ outputs later, memory.Passes link.delay source outputs later →
        later.Stores (outputs.foldl shift (link.preparedFor source)).pending := by
  constructor
  case left =>
    intro outputs
    rw [preparedFor_eq]
    obtain ⟨id, spec, count, contents, visible⟩ :=
      queued_of_shifts { link with pending := link.starting source } delayed
        (length_starting link source full) outputs
    exact ⟨id, spec, count, contents, visible⟩
  case right =>
    intro memory stored outputs later passed
    exact Memory.stores_of_passes link delayed stored source outputs later passed

/-- A link that is late by two cycles. -/
def lateByTwo : Link :=
  ⟨⟨0⟩, ⟨"a", "out", "b", "in", none, 2⟩, [.ofList .int16 [1, 2], .ofList .int16 [3]]⟩

/-- Its snapshots in a memory, and a source. -/
def crowded : Memory :=
  ⟨[.ofList .int16 [1, 2], .ofList .int16 [3], .ofList .int16 [5, 6]], [0, 1]⟩

/-- A place is written over; then the source changes its type, and a copy of the same length is
refused; then the source changes its length, and the places given up are written to. -/
def overrun : Memory :=
  (((((crowded.shift 2).change 2 (.ofList .uint16 [7])).shift 2).change 1 (.ofList .int16 [8])).change
    2 (.ofList .uint16 [9])).shift 2

/-- The outputs of all three cycles came through, and the two later ones are held. -/
theorem recycling_lateByTwo :
    lateByTwo.Queued lateByTwo.pending
        [.ofList .int16 [5, 6], .ofList .uint16 [7], .ofList .uint16 [9]]
        ([.ofList .int16 [5, 6], .ofList .uint16 [7], .ofList .uint16 [9]].foldl Link.shift lateByTwo) ∧
      overrun.queue = [3, 4] ∧
      overrun.Stores [.ofList .uint16 [7], .ofList .uint16 [9]] := by
  obtain ⟨queued, kept⟩ := Link.recycling_exact lateByTwo (by decide) none (fun _ => by decide)
  have stored : crowded.Stores lateByTwo.pending := ⟨by decide, by decide, by decide⟩
  have passed : crowded.Passes 2 none
      [.ofList .int16 [5, 6], .ofList .uint16 [7], .ofList .uint16 [9]] overrun := by
    refine .shift (.change (.change (.shift (.change (.shift .begin 2 ?_) 2 _ ?_) 2 ?_) 1 _ ?_)
      2 _ ?_) 2 ?_
    all_goals decide
  exact ⟨queued _, by decide, kept crowded stored _ overrun passed⟩

end RegionGraph

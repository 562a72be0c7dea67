import RegionGraph.Proofs.Propagation

/-!
# Changes of the topology are made or refused

A call that is to change the topology checks first and then writes, in several places one
after the other. Between the writes it may still leave with a fault: a link that is taken off
is gone from the list of links before its ends are looked up, a region goes after its links,
one by one, and a link that its reader refuses is taken back from its source. In a reachable
network none of these exits is ever taken. So a call fails with a fault of its checks only,
and then it has changed nothing; and after every call the links are recorded at both of their
ends or at none.
-/

namespace RegionGraph

variable {κ : Type}

/-- A call that is to change the topology. A region is made by any registry. -/
inductive TopologyCall (κ : Type) where
  | addRegion (registry : Registry κ) (name type : String) (params : Params)
  | removeRegion (name : String)
  | addLink (spec : LinkSpec)
  | linkDefault (source destination : String)
  | removeLink (id : LinkId)

namespace Network

/-- Whether a call succeeds, and the network after it. -/
def attempt (network : Network κ) : TopologyCall κ → Except GraphError Unit × Network κ
  | .addRegion registry name type params =>
    (((addRegion name type params).run (registry, network)).1,
      network.added registry name type params)
  | .removeRegion name => (removeRegion name).run network
  | .addLink spec =>
    (((addLink spec).run network).1.map (fun _ => ()), ((addLink spec).run network).2)
  | .linkDefault source destination =>
    (((linkDefault source destination).run network).1.map (fun _ => ()),
      ((linkDefault source destination).run network).2)
  | .removeLink id => (removeLink id).run network

/-- What a call checks before it writes anything: that the topology may be changed, and that
the name is free and the registry makes an implementation, that the link may be made, or that
what is to be removed exists. -/
def vet (network : Network κ) : TopologyCall κ → Except GraphError Unit
  | .addRegion registry name type params => do
    network.checkRegion name
    ((do
      let _ ← Registry.create type params name
      let _ ← Registry.spec type : Consult κ Unit).run registry).1
  | .removeRegion name => do
    network.ensureMutable
    let _ ← network.position name
  | .addLink spec => do
    let _ ← network.approve spec
  | .linkDefault source destination => do
    let _ ← network.approve (.betweenDefaults source destination)
  | .removeLink id => do
    network.ensureMutable
    let _ ← network.link id

/-- A region is added if its checks pass. -/
theorem outcome_addRegion (network : Network κ) (registry : Registry κ) (name type : String)
    (params : Params) : ((addRegion name type params).run (registry, network)).1 =
      network.vet (.addRegion registry name type params) := by
  rw [run_addRegion, newRegion, vet]
  simp only [Edit.run_bind, Edit.run_lift]
  cases network.checkRegion name with
  | error fault => rfl
  | ok _ =>
    simp only [Traversal.ok_bind]
    rcases (Registry.create type params name).run registry with ⟨made, middle⟩
    cases made with
    | error fault => rfl
    | ok pair =>
      simp only
      rcases (Registry.spec type).run middle with ⟨told, later⟩
      cases told <;> rfl

/-- A call succeeds if its checks pass: what it writes then, it writes to the end. -/
theorem outcome_attempt (network : Network κ) (sound : network.wiring.Sound)
    (call : TopologyCall κ) : (network.attempt call).1 = network.vet call := by
  have linked (spec : LinkSpec) :
      ((addLink spec).run network).1.map (fun _ => ()) = network.vet (.addLink spec) := by
    rw [network.run_addLink sound spec, vet]
    cases network.approve spec <;> rfl
  cases call with
  | addRegion registry name type params => exact network.outcome_addRegion registry name type params
  | addLink spec => exact linked spec
  | linkDefault source destination => exact linked (.betweenDefaults source destination)
  | removeRegion name =>
    rw [attempt, network.run_removeRegion sound name, vet]
    cases network.ensureMutable with
    | error fault => rfl
    | ok _ => cases network.position name <;> rfl
  | removeLink id =>
    rw [attempt, network.run_removeLink sound id, vet, link]
    cases network.ensureMutable with
    | error fault => rfl
    | ok _ => cases network.link? id <;> rfl

/-- A call that fails changes nothing. -/
theorem unchanged_attempt (network : Network κ) (sound : network.wiring.Sound)
    (call : TopologyCall κ) (fault : GraphError)
    (failed : (network.attempt call).1 = .error fault) : (network.attempt call).2 = network := by
  have refused {α : Type} (outcome : Except GraphError α × Network κ)
      (rewired : network.Rewired outcome) (failed : outcome.1.map (fun _ => ()) = .error fault) :
      outcome.2 = network := by
    rcases outcome with ⟨result, after⟩
    cases result with
    | error cause => exact rewired
    | ok value => cases failed
  have unit (outcome : Except GraphError Unit × Network κ) (failed : outcome.1 = .error fault) :
      outcome.1.map (fun _ => ()) = .error fault := by
    rw [failed]
    rfl
  cases call with
  | addRegion registry name type params =>
    rcases outcome : (addRegion name type params).run (registry, network) with
      ⟨result, later, after⟩
    dsimp only [attempt, added] at failed ⊢
    rw [outcome] at failed ⊢
    obtain rfl : result = .error fault := failed
    exact network.addRegion_error after registry later name type params fault outcome
  | addLink spec =>
    exact refused ((addLink spec).run network) (network.rewired_addLink sound spec) failed
  | linkDefault source destination =>
    exact refused ((linkDefault source destination).run network)
      (network.rewired_addLink sound (.betweenDefaults source destination)) failed
  | removeRegion name =>
    exact refused _ (network.rewired_removeRegion sound name) (unit _ failed)
  | removeLink id => exact refused _ (network.rewired_removeLink sound id) (unit _ failed)

/-- A call is made or refused: it fails with a fault of its checks and of nothing else, it has
changed nothing if it fails, and however it ends, regions, links and the lists at endpoints
agree. -/
structure MadeOrRefused (network : Network κ) (call : TopologyCall κ) : Prop where
  outcome : (network.attempt call).1 = network.vet call
  refused : ∀ fault, (network.attempt call).1 = .error fault → (network.attempt call).2 = network
  wellWired : (network.attempt call).2.WellWired

variable [Implementation κ]

/-- A call is one step of an operation. -/
theorem step_attempt (network : Network κ) (call : TopologyCall κ) :
    Step (fun _ => True) network (network.attempt call).2 := by
  cases call with
  | addRegion registry name type params =>
    exact .addRegion network registry name type params trivial
  | removeRegion name => exact .removeRegion network name
  | addLink spec => exact .addLink network spec
  | linkDefault source destination => exact .linkDefault network source destination
  | removeLink id => exact .removeLink network id

/-- In every reachable network every call that is to change the topology is made or refused.

The exits between the writes are closed by the soundness of the wiring, which says that what one
write relies on is there: every link has its ends, and each end lists it. Sound wiring is the
invariant of all operations. -/
theorem madeOrRefused_of_reachable (usable : Registry κ → Prop) (network : Network κ)
    (reachable : Reachable usable network) (call : TopologyCall κ) :
    network.MadeOrRefused call := by
  have sound := sound_of_reachable usable network reachable
  refine ⟨network.outcome_attempt sound call, network.unchanged_attempt sound call, ?_⟩
  exact wellWired_of_sound _ (step_follows _ network _ (network.step_attempt call) sound).sound

/-- The chain refuses to give up a link that it does not have. -/
theorem madeOrRefused_lateChain :
    (lateChain.attempt (.removeLink ⟨7⟩)).1 = .error (.missingLink ⟨7⟩) ∧
      lateChain.MadeOrRefused (.removeLink ⟨7⟩) :=
  ⟨by decide,
    madeOrRefused_of_reachable (fun _ => True) lateChain (reachable_lateChain _ trivial) _⟩

end Network

end RegionGraph

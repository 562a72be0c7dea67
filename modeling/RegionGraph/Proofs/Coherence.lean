import RegionGraph.Builtin.Basic
import RegionGraph.Proofs.Registries

/-!
# Specifications that are kept

A registry keeps the specifications it was asked for. It is coherent if each of them is
that of the type it finds under the name, so that parameters are checked against the
specification of the type that then makes the implementation. Looking up, adding
resolvers, unregistering and forgetting keep it so.

Registering does not: a type may be registered under a name whose specification was kept
for another type, found by a resolver, and the kept one stays in force. A registry is
therefore coherent after every history of requests in which no registration does that.
-/

namespace RegionGraph.Registry

variable {κ : Type}

/-- Every specification that is kept is that of the type found under its name. -/
def Coherent (registry : Registry κ) : Prop := registry.Offers registry.found

/-- A registry that offers types and keeps their specifications is coherent. -/
theorem Offers.coherent {registry : Registry κ} {kind : String → Option (RegionType κ)}
    (offers : registry.Offers kind) : registry.Coherent := by
  have same : registry.found = kind := funext offers.types
  rw [Coherent, same]
  exact offers

/-! ### What looking up keeps -/

section

variable (kind : String → Option (RegionType κ))

/-- Looking a type up changes nothing of what is offered. -/
theorem offers_resolve (registry : Registry κ) (offers : registry.Offers kind) (name : String) :
    ((resolve name).run registry).2.Offers kind := by
  obtain ⟨later, offersLater, ran⟩ := run_resolve kind registry offers name
  rw [ran]
  cases kind name <;> exact offersLater

/-- Looking a specification up changes nothing of what is offered, also when it fails. -/
theorem offers_spec (registry : Registry κ) (offers : registry.Offers kind) (name : String) :
    ((Registry.spec name).run registry).2.Offers kind := by
  rcases Option.eq_none_or_eq_some (registry.specs.get? name) with unknown | ⟨before, known⟩
  · obtain ⟨middle, offersMiddle, resolved⟩ := run_resolve kind registry offers name
    cases offered : kind name with
    | none =>
      rw [offered] at resolved
      rw [run_spec_unknown registry middle name unknown _ resolved]
      exact offersMiddle
    | some type =>
      rw [offered] at resolved
      rw [run_spec_unknown registry middle name unknown _ resolved]
      dsimp only
      cases type.spec.validate name with
      | error fault => exact offersMiddle
      | ok _ => exact offers_insert kind middle offersMiddle name type offered
  · simp only [Registry.spec, Edit.run_bind, Edit.run_get, known]
    exact offers

/-- Making an implementation changes nothing of what is offered. -/
theorem offers_create (registry : Registry κ) (offers : registry.Offers kind) (name : String)
    (supplied : Params) (region : String) :
    ((create name supplied region).run registry).2.Offers kind := by
  let kept (later : Registry κ) : Prop := later.Offers kind
  refine Edit.run_bind_keeps kept _ _ _ (offers_resolve kind registry offers name) ?_
  intro type middle _ offersMiddle
  refine Edit.run_bind_keeps kept _ _ _ (offers_spec kind middle offersMiddle name) ?_
  intro spec last _ offersLast
  refine Edit.run_bind_keeps kept _ _ _ offersLast fun params same _ offersSame => ?_
  exact Edit.run_bind_keeps kept _ _ _ offersSame fun _ _ _ offersEnd => offersEnd

/-- Making an implementation from a record changes nothing of what is offered. -/
theorem offers_restore (registry : Registry κ) (offers : registry.Offers kind) (name : String)
    (record : RegionRecord) (region : String) :
    ((restore name record region).run registry).2.Offers kind :=
  Edit.run_bind_keeps (fun later : Registry κ => later.Offers kind) _ _ _
    (offers_resolve kind registry offers name) fun _ _ _ offersMiddle => offersMiddle

end

/-! ### Histories of requests -/

/-- What may be asked of a registry. -/
inductive Request (κ : Type) where
  | register (name : String) (type : RegionType κ)
  | unregister (name : String)
  | addResolver (resolve? : String → Option (RegionType κ))
  | resolve (name : String)
  | spec (name : String)
  | create (type : String) (supplied : Params) (region : String)
  | restore (type : String) (record : RegionRecord) (region : String)
  | reset

/-- The registry after a request. A registration that is refused changes nothing. -/
def serve (registry : Registry κ) : Request κ → Registry κ
  | .register name type => (registry.register name type).toOption.getD registry
  | .unregister name => (registry.unregister name).toOption.getD registry
  | .addResolver resolve? => registry.addResolver resolve?
  | .resolve name => ((resolve name).run registry).2
  | .spec name => ((spec name).run registry).2
  | .create type supplied region => ((create type supplied region).run registry).2
  | .restore type record region => ((restore type record region).run registry).2
  | .reset => registry.reset

/-- The registry after a list of requests. -/
def serveAll (registry : Registry κ) (requests : List (Request κ)) : Registry κ :=
  requests.foldl serve registry

/-- A request registers a type under a free name for which another specification is
    kept. -/
def Request.Overrides (registry : Registry κ) : Request κ → Prop
  | .register name type => registry.registered.get? name = none ∧
      ∃ spec, registry.specs.get? name = some spec ∧ spec ≠ type.spec
  | _ => False

/-- No request of a list overrides a specification that is kept when it is made. -/
def Undisturbed (registry : Registry κ) : List (Request κ) → Prop
  | [] => True
  | request :: rest => ¬request.Overrides registry ∧ Undisturbed (registry.serve request) rest

/-- Resolvers that are asked after others answer only what those do not. -/
theorem ask_append (name : String) (first second : List (Resolver κ)) :
    (ask name (first ++ second)).1 = (ask name first).1.or (ask name second).1 := by
  induction first with
  | nil => rfl
  | cons resolver rest inductionHypothesis =>
    cases here : resolver.resolve? name with
    | some type => simp [ask, here]
    | none => simp [ask, here, inductionHypothesis]

/-- A registration takes precedence over what was found before; other names are found as
    before. -/
theorem coherent_register (registry : Registry κ) (coherent : registry.Coherent) (name : String)
    (type : RegionType κ)
    (fits : ∀ spec, registry.specs.get? name = some spec → type.spec = spec) :
    Coherent { registry with registered := registry.registered.insert name type } := by
  refine ⟨fun _ => rfl, fun other spec kept => ?_⟩
  obtain ⟨former, offered, described⟩ := coherent.specs other spec kept
  rw [found, NameMap.get?_insert]
  split
  case isTrue same =>
    exact ⟨type, rfl, fits spec (same ▸ kept)⟩
  case isFalse elsewhere =>
    exact ⟨former, offered, described⟩

/-- Taking a type away takes its specification away, and other names are found as before. -/
theorem coherent_erase (registry : Registry κ) (coherent : registry.Coherent) (name : String) :
    Coherent { registry with
      registered := registry.registered.erase name
      specs := registry.specs.erase name } := by
  refine ⟨fun _ => rfl, fun other spec kept => ?_⟩
  rw [NameMap.get?_erase] at kept
  split at kept
  case isTrue same => cases kept
  case isFalse elsewhere =>
    rw [found, NameMap.get?_erase, if_neg elsewhere]
    exact coherent.specs other spec kept

/-- A further resolver does not change what was found without it. -/
theorem coherent_addResolver (registry : Registry κ) (coherent : registry.Coherent)
    (resolve? : String → Option (RegionType κ)) : (registry.addResolver resolve?).Coherent := by
  refine ⟨fun _ => rfl, fun name spec kept => ?_⟩
  obtain ⟨type, offered, described⟩ := coherent.specs name spec kept
  refine ⟨type, ?_, described⟩
  rw [found, addResolver, ask_append, ← Option.or_assoc]
  exact Option.or_eq_some_iff.mpr (Or.inl offered)

/-- A request that overrides nothing keeps a registry coherent. -/
theorem coherent_serve (registry : Registry κ) (coherent : registry.Coherent)
    (request : Request κ) (fits : ¬request.Overrides registry) :
    (registry.serve request).Coherent := by
  cases request with
  | register name type =>
    rw [serve, register]
    split
    case isTrue taken => exact coherent
    case isFalse free =>
      refine coherent_register registry coherent name type fun spec kept => ?_
      refine Decidable.byContradiction fun differs => fits ⟨?_, spec, kept, Ne.symm differs⟩
      exact Option.not_isSome_iff_eq_none.mp free
  | unregister name =>
    rw [serve, unregister]
    split
    case isTrue taken => exact coherent_erase registry coherent name
    case isFalse free => exact coherent
  | addResolver resolve? => exact coherent_addResolver registry coherent resolve?
  | resolve name => exact (offers_resolve _ registry coherent name).coherent
  | spec name => exact (offers_spec _ registry coherent name).coherent
  | create type supplied region =>
    exact (offers_create _ registry coherent type supplied region).coherent
  | restore type record region =>
    exact (offers_restore _ registry coherent type record region).coherent
  | reset => exact ⟨fun _ => rfl, fun _ _ kept => nomatch kept⟩

/-- A registry stays coherent through requests that override nothing. -/
theorem coherent_serveAll (registry : Registry κ) (coherent : registry.Coherent)
    (requests : List (Request κ)) (undisturbed : registry.Undisturbed requests) :
    (registry.serveAll requests).Coherent := by
  induction requests generalizing registry with
  | nil => exact coherent
  | cons request rest inductionHypothesis =>
    exact inductionHypothesis (registry.serve request)
      (coherent_serve registry coherent request undisturbed.1) undisturbed.2

/-- The registry that knows nothing is coherent. -/
theorem coherent_empty : (∅ : Registry κ).Coherent :=
  ⟨fun _ => rfl, fun _ _ kept => nomatch kept⟩

/-- After every history in which no registration overrides a kept specification, the
specification found under a name is that of the type found under it, now and afterwards.
Implementations are made by that type, of parameters completed by its specification.

The invariant is that every kept specification is the one of the type found under its name, in
the registry or by its resolvers. Each request keeps it but for a registration that takes a name
over; the history is an induction over the list of requests. -/
theorem spec_of_undisturbed (requests : List (Request κ))
    (undisturbed : (∅ : Registry κ).Undisturbed requests) (name : String) (spec : Spec)
    (later : Registry κ)
    (described : (Registry.spec name).run (serveAll ∅ requests) = (.ok spec, later)) :
    ∃ type, ((resolve name).run (serveAll ∅ requests)).1 = .ok type ∧
      ((resolve name).run later).1 = .ok type ∧ type.spec = spec ∧
      ∀ supplied region state completed last,
        (create name supplied region).run (serveAll ∅ requests) = (.ok (state, completed), last) →
          spec.normalize supplied = .ok completed ∧
            type.create completed region name = .ok state := by
  have coherent := coherent_serveAll ∅ coherent_empty requests undisturbed
  obtain ⟨offersLater, type, offered, rfl⟩ := spec_ok _ _ _ coherent name spec described
  have finds (registry : Registry κ) (offers : registry.Offers (serveAll ∅ requests).found) :
      ((resolve name).run registry).1 = .ok type := by
    obtain ⟨after, _, ran⟩ := run_resolve _ registry offers name
    rw [ran, offered]
  refine ⟨type, finds _ coherent, finds later offersLater, rfl, ?_⟩
  intro supplied region state completed last made
  obtain ⟨_, maker, same, normalized, created⟩ := create_ok _ _ _ coherent name _ _ _ _ made
  cases offered.symm.trans same
  exact ⟨normalized, created⟩

/-- A resolver makes incrementers under every name; for a while a scaler is registered. -/
def borrowed : List (Request Builtin) :=
  [.addResolver (fun _ => some (Incrementer.type.map .incrementer)),
    .register "Scaler" (Scaler.type.map .scaler), .spec "Scaler", .unregister "Scaler"]

/-- After a name was taken back from a registered type, the specification found is that of
the type that the resolver gives. -/
theorem spec_of_borrowed :
    (∅ : Registry Builtin).Undisturbed borrowed ∧
      ∃ type, ((resolve "Scaler").run (serveAll ∅ borrowed)).1 = .ok type ∧
        type.spec = Incrementer.spec := by
  have undisturbed : (∅ : Registry Builtin).Undisturbed borrowed := by
    refine And.intro id (And.intro ?_ (And.intro id (And.intro id trivial)))
    rintro ⟨_, _, kept, _⟩
    cases kept
  obtain ⟨type, resolved, _, described, _⟩ :=
    spec_of_undisturbed borrowed undisturbed "Scaler" Incrementer.spec _ rfl
  exact ⟨undisturbed, type, resolved, described⟩

/-! ### Kept specifications are valid -/

/-- Every specification that is kept was found valid under its name. -/
def Vetted (registry : Registry κ) : Prop :=
  ∀ name spec, registry.specs.get? name = some spec → spec.validate name = .ok ()

/-- Registries that keep the same specifications are vetted alike. -/
theorem vetted_congr (first second : Registry κ) (specs : second.specs = first.specs)
    (vetted : first.Vetted) : second.Vetted := by
  intro name spec kept
  exact vetted name spec (specs ▸ kept)

/-- Looking a type up keeps no specification. -/
theorem vetted_resolve (registry : Registry κ) (vetted : registry.Vetted) (name : String) :
    ((resolve name).run registry).2.Vetted := by
  obtain ⟨later, _, specs, ran⟩ := registry.run_resolve_found name
  rw [ran]
  cases registry.found name <;> exact vetted_congr registry later specs vetted

/-- A specification is kept only if it is valid. -/
theorem vetted_spec (registry : Registry κ) (vetted : registry.Vetted) (name : String) :
    ((Registry.spec name).run registry).2.Vetted := by
  rcases Option.eq_none_or_eq_some (registry.specs.get? name) with unknown | ⟨before, known⟩
  · have vettedMiddle := vetted_resolve registry vetted name
    rcases resolved : (resolve name).run registry with ⟨outcome, middle⟩
    rw [resolved] at vettedMiddle
    rw [run_spec_unknown registry middle name unknown outcome resolved]
    cases outcome with
    | error fault => exact vettedMiddle
    | ok type =>
      dsimp only
      cases valid : type.spec.validate name with
      | error fault => exact vettedMiddle
      | ok _ =>
        intro other spec kept
        rw [NameMap.get?_insert] at kept
        split at kept
        case isTrue same =>
          cases kept
          exact same ▸ valid
        case isFalse elsewhere => exact vettedMiddle other spec kept
  · simp only [Registry.spec, Edit.run_bind, Edit.run_get, known]
    exact vetted

/-- A request keeps valid specifications only. -/
theorem vetted_serve (registry : Registry κ) (vetted : registry.Vetted) (request : Request κ) :
    (registry.serve request).Vetted := by
  cases request with
  | register name type =>
    rw [serve, register]
    split <;> exact vetted
  | unregister name =>
    rw [serve, unregister]
    split
    case isTrue taken =>
      intro other spec kept
      change (registry.specs.erase name).get? other = some spec at kept
      rw [NameMap.get?_erase] at kept
      split at kept
      case isTrue same => cases kept
      case isFalse elsewhere => exact vetted other spec kept
    case isFalse free => exact vetted
  | addResolver resolve? => exact vetted
  | resolve name => exact vetted_resolve registry vetted name
  | spec name => exact vetted_spec registry vetted name
  | create type supplied region =>
    refine Edit.run_bind_keeps Vetted _ _ _ (vetted_resolve registry vetted type) ?_
    intro found middle _ vettedMiddle
    refine Edit.run_bind_keeps Vetted _ _ _ (vetted_spec middle vettedMiddle type) ?_
    intro spec last _ vettedLast
    refine Edit.run_bind_keeps Vetted _ _ _ vettedLast fun params same _ vettedSame => ?_
    exact Edit.run_bind_keeps Vetted _ _ _ vettedSame fun _ _ _ vettedEnd => vettedEnd
  | restore type record region =>
    exact Edit.run_bind_keeps Vetted _ _ _ (vetted_resolve registry vetted type)
      fun _ _ _ vettedMiddle => vettedMiddle
  | reset => exact fun _ _ kept => nomatch kept

/-- After every history of requests the specifications that are kept are valid. -/
theorem vetted_serveAll (requests : List (Request κ)) : (serveAll ∅ requests).Vetted := by
  suffices kept : ∀ registry : Registry κ, registry.Vetted →
      (registry.serveAll requests).Vetted from kept ∅ fun _ _ kept => nomatch kept
  induction requests with
  | nil => exact fun _ vetted => vetted
  | cons request rest inductionHypothesis =>
    intro registry vetted
    exact inductionHypothesis (registry.serve request) (vetted_serve registry vetted request)

/-- Every specification in force is valid. -/
def Describing (registry : Registry κ) : Prop :=
  ∀ name spec, registry.described? name = some spec → spec.validate name = .ok ()

/-- Where kept specifications are valid, so are those in force. -/
theorem Vetted.describing {registry : Registry κ} (vetted : registry.Vetted) :
    registry.Describing := by
  intro name spec described
  rcases Option.or_eq_some_iff.mp described with kept | ⟨_, found⟩
  · exact vetted name spec kept
  · obtain ⟨type, _, chosen⟩ := Option.bind_eq_some_iff.mp found
    split at chosen
    case isTrue valid =>
      cases chosen
      exact valid
    case isFalse invalid => cases chosen

/-- A registry that offers types with valid specifications describes them by those. -/
theorem Offers.describing {registry : Registry κ} {kind : String → Option (RegionType κ)}
    (offers : registry.Offers kind)
    (valid : ∀ name type, kind name = some type → type.spec.validate name = .ok ()) :
    registry.Describing := by
  intro name spec described
  rcases ran : (Registry.spec name).run registry with ⟨outcome, later⟩
  have told := (registry.described_iff name spec).mpr described
  rw [ran] at told
  cases told
  obtain ⟨_, type, offered, rfl⟩ := spec_ok kind registry later offers name spec ran
  exact valid name type offered

/-! ### Registering over a kept specification -/

/-- A type registered under a free name for which a specification is kept is found under the
name, but the specification that was kept is still the one in force. -/
theorem spec_of_overridden (registry : Registry κ) (name : String) (type : RegionType κ)
    (kept : Spec) (known : registry.specs.get? name = some kept)
    (free : registry.registered.get? name = none) :
    ((Registry.spec name).run (registry.serve (.register name type))).1 = .ok kept ∧
      ((resolve name).run (registry.serve (.register name type))).1 = .ok type := by
  have registers : registry.serve (.register name type) =
      { registry with registered := registry.registered.insert name type } := by
    have absent : ¬registry.registered.contains name = true := by
      rw [NameMap.contains, free]
      exact Bool.false_ne_true
    rw [serve, register, if_neg absent]
    rfl
  rw [registers]
  constructor
  · simp only [Registry.spec, Edit.run_bind, Edit.run_get, known]
    rfl
  · simp only [resolve, Edit.run_bind, Edit.run_get, NameMap.get?_insert_self]
    rfl

/-- A resolver makes incrementers under every name; then a scaler is registered under a name
whose specification was asked for. -/
def overridden : List (Request Builtin) :=
  [.addResolver (fun _ => some (Incrementer.type.map .incrementer)), .spec "Scaler",
    .register "Scaler" (Scaler.type.map .scaler)]

/-- So specifications are not always those of the types found: the registered scaler is
described as an incrementer. -/
theorem stale_overridden :
    ¬∀ (requests : List (Request Builtin)) (name : String) (spec : Spec) (later : Registry Builtin),
      (Registry.spec name).run (serveAll ∅ requests) = (.ok spec, later) →
        ∃ type, ((resolve name).run (serveAll ∅ requests)).1 = .ok type ∧ type.spec = spec := by
  intro always
  obtain ⟨type, resolved, described⟩ := always overridden "Scaler" Incrementer.spec _ rfl
  have scaler : Scaler.type.map Builtin.scaler = type := Except.ok.inj resolved
  rw [← scaler] at described
  have different : Scaler.spec ≠ Incrementer.spec := by decide
  exact different described

end RegionGraph.Registry

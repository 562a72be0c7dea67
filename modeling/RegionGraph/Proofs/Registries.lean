import RegionGraph.Registry
import RegionGraph.Proofs.Edits
import RegionGraph.Proofs.NameMaps

/-!
# What registries offer

A registry offers a type under a name if the type is registered, was found before, or
is found by a resolver that is asked now. Looking types up teaches a registry, but it
goes on offering the same, so the order in which names are asked for does not matter.
-/

namespace RegionGraph.Registry

variable {κ : Type}

/-- The type that a registry finds under a name. -/
def found (registry : Registry κ) (name : String) : Option (RegionType κ) :=
  ((registry.registered.get? name).or (registry.resolved.get? name)).or
    (ask name registry.resolvers).1

/-- A registry offers types under names, and the specifications that it keeps are theirs. -/
structure Offers (registry : Registry κ) (kind : String → Option (RegionType κ)) : Prop where
  types : ∀ name, registry.found name = kind name
  specs : ∀ name spec, registry.specs.get? name = some spec →
    ∃ type, kind name = some type ∧ type.spec = spec

/-- Asking changes no answers. -/
theorem ask_again (name other : String) (resolvers : List (Resolver κ)) :
    (ask other (ask name resolvers).2).1 = (ask other resolvers).1 := by
  induction resolvers with
  | nil => rfl
  | cons resolver rest inductionHypothesis =>
    cases here : resolver.resolve? name with
    | some type => cases there : resolver.resolve? other <;> simp [ask, here, there]
    | none =>
      cases there : resolver.resolve? other <;> simp [ask, here, there, inductionHypothesis]

/-- Looking a name up gives the type that is found under it. The same types are found
afterwards, and no specification is kept for it. -/
theorem run_resolve_found (registry : Registry κ) (name : String) :
    ∃ later, later.found = registry.found ∧ later.specs = registry.specs ∧
      (resolve name).run registry =
        match registry.found name with
        | some type => (.ok type, later)
        | none => (.error (.unknownType name), later) := by
  simp only [resolve, Edit.run_bind, Edit.run_get]
  cases known : registry.registered.get? name with
  | some type =>
    have told : registry.found name = some type := by simp only [found, known, Option.some_or]
    rw [told]
    exact ⟨registry, rfl, rfl, rfl⟩
  | none =>
    simp only
    cases before : registry.resolved.get? name with
    | some type =>
      have told : registry.found name = some type := by
        simp only [found, known, before, Option.none_or, Option.some_or]
      rw [told]
      exact ⟨registry, rfl, rfl, rfl⟩
    | none =>
      have told : registry.found name = (ask name registry.resolvers).1 := by
        simp only [found, known, before, Option.none_or]
      have again (other : String) := ask_again name other registry.resolvers
      rw [told]
      rcases asked : ask name registry.resolvers with ⟨answer, resolvers⟩
      simp only [asked] at again told
      cases answer with
      | some type =>
        refine ⟨{ registry with resolvers, resolved := registry.resolved.insert name type },
          funext fun other => ?_, rfl, rfl⟩
        by_cases same : other = name
        · subst same
          simp only [found, NameMap.get?_insert_self, known, before, asked, Option.none_or,
            Option.some_or]
        · simp only [found, again, NameMap.get?_insert, same, if_false]
      | none =>
        refine ⟨{ registry with resolvers }, funext fun other => ?_, rfl, rfl⟩
        simp only [found, again]

variable (kind : String → Option (RegionType κ))

/-- Looking a name up gives the type that is offered under it, and the same is offered
afterwards. -/
theorem run_resolve (registry : Registry κ) (offers : registry.Offers kind) (name : String) :
    ∃ later, later.Offers kind ∧ (resolve name).run registry =
      match kind name with
      | some type => (.ok type, later)
      | none => (.error (.unknownType name), later) := by
  obtain ⟨later, same, specs, ran⟩ := registry.run_resolve_found name
  rw [offers.types name] at ran
  refine ⟨later, ⟨fun other => ?_, fun other spec kept => ?_⟩, ran⟩
  · rw [same, offers.types other]
  · exact offers.specs other spec (specs ▸ kept)

/-- What looking a specification up does if none is kept. -/
theorem run_spec_unknown (registry middle : Registry κ) (name : String)
    (unknown : registry.specs.get? name = none) (outcome : Except GraphError (RegionType κ))
    (resolved : (resolve name).run registry = (outcome, middle)) :
    (Registry.spec name).run registry =
      match outcome with
      | .error fault => (.error fault, middle)
      | .ok type =>
        match type.spec.validate name with
        | .error fault => (.error fault, middle)
        | .ok _ => (.ok type.spec,
            { middle with specs := middle.specs.insert name type.spec }) := by
  simp only [Registry.spec, Edit.run_bind, Edit.run_get, unknown, resolved]
  cases outcome with
  | error fault => rfl
  | ok type =>
    simp only [Edit.run_lift]
    cases type.spec.validate name <;> rfl

/-- Keeping the specification of an offered type changes nothing of what is offered. -/
theorem offers_insert (registry : Registry κ) (offers : registry.Offers kind) (name : String)
    (type : RegionType κ) (offered : kind name = some type) :
    Offers { registry with specs := registry.specs.insert name type.spec } kind := by
  refine ⟨offers.types, ?_⟩
  intro other spec kept
  rw [NameMap.get?_insert] at kept
  split at kept
  · rename_i same
    exact ⟨type, same ▸ offered, Option.some.inj kept⟩
  · exact offers.specs other spec kept

/-- The specification that is found is that of the type offered, and the same is offered
afterwards. -/
theorem spec_ok (registry later : Registry κ) (offers : registry.Offers kind) (name : String)
    (spec : Spec) (described : (Registry.spec name).run registry = (.ok spec, later)) :
    later.Offers kind ∧ ∃ type, kind name = some type ∧ type.spec = spec := by
  rcases Option.eq_none_or_eq_some (registry.specs.get? name) with unknown | ⟨before, known⟩
  · obtain ⟨middle, offersAfter, resolved⟩ := run_resolve kind registry offers name
    cases offered : kind name with
    | none =>
      rw [offered] at resolved
      rw [run_spec_unknown registry middle name unknown _ resolved] at described
      cases described
    | some type =>
      rw [offered] at resolved
      rw [run_spec_unknown registry middle name unknown _ resolved] at described
      cases valid : type.spec.validate name with
      | error fault =>
        simp only [valid] at described
        cases described
      | ok _ =>
        simp only [valid] at described
        cases described
        exact ⟨offers_insert kind middle offersAfter name type offered, type, rfl, rfl⟩
  · simp only [Registry.spec, Edit.run_bind, Edit.run_get, known] at described
    cases described
    exact ⟨offers, offers.specs name _ known⟩

/-- The specification of an offered type is found if it is valid. -/
theorem run_spec (registry : Registry κ) (offers : registry.Offers kind) (name : String)
    (type : RegionType κ) (offered : kind name = some type)
    (valid : type.spec.validate name = .ok ()) :
    ∃ later, later.Offers kind ∧ (Registry.spec name).run registry = (.ok type.spec, later) := by
  rcases Option.eq_none_or_eq_some (registry.specs.get? name) with unknown | ⟨before, known⟩
  · obtain ⟨middle, offersAfter, resolved⟩ := run_resolve kind registry offers name
    rw [offered] at resolved
    refine ⟨_, offers_insert kind middle offersAfter name type offered, ?_⟩
    rw [run_spec_unknown registry middle name unknown _ resolved]
    simp only [valid]
  · obtain ⟨same, kindly, spec⟩ := offers.specs name before known
    rw [offered, Option.some.injEq] at kindly
    refine ⟨registry, offers, ?_⟩
    simp only [Registry.spec, Edit.run_bind, Edit.run_get, known]
    rw [kindly, spec]
    rfl

/-- An implementation that was made from a record was made by the type that is offered. -/
theorem restore_ok (registry later : Registry κ) (offers : registry.Offers kind) (name : String)
    (record : RegionRecord) (region : String) (state : κ)
    (made : (Registry.restore name record region).run registry = (.ok state, later)) :
    later.Offers kind ∧
      ∃ type, kind name = some type ∧ type.restore record region name = .ok state := by
  obtain ⟨middle, offersAfter, resolved⟩ := run_resolve kind registry offers name
  cases offered : kind name with
  | none =>
    rw [offered] at resolved
    simp only [Registry.restore, Edit.run_bind, resolved] at made
    cases made
  | some type =>
    rw [offered] at resolved
    simp only [Registry.restore, Edit.run_bind, resolved, Edit.run_lift] at made
    obtain ⟨restored, rfl⟩ := Prod.mk.inj made
    exact ⟨offersAfter, type, rfl, restored⟩

/-- A new implementation was made by the type that is offered, of the parameters that the
specification of the type completes. -/
theorem create_ok (registry later : Registry κ) (offers : registry.Offers kind) (name : String)
    (supplied completed : Params) (region : String) (state : κ)
    (made : (Registry.create name supplied region).run registry = (.ok (state, completed), later)) :
    later.Offers kind ∧ ∃ type, kind name = some type ∧
      type.spec.normalize supplied = .ok completed ∧
      type.create completed region name = .ok state := by
  obtain ⟨middle, offersMiddle, resolved⟩ := run_resolve kind registry offers name
  cases offered : kind name with
  | none =>
    rw [offered] at resolved
    simp only [Registry.create, Edit.run_bind, resolved] at made
    cases made
  | some type =>
    rw [offered] at resolved
    simp only [Registry.create] at made
    rw [Edit.run_bind, resolved] at made
    simp only at made
    obtain ⟨spec, last, described, made⟩ := (Edit.run_bind_ok_iff _ _ _ _ _).mp made
    obtain ⟨offersLast, other, same, rfl⟩ :=
      spec_ok kind middle last offersMiddle name spec described
    rw [offered, Option.some.injEq] at same
    obtain ⟨params, _, normalized, made⟩ := (Edit.run_bind_ok_iff _ _ _ _ _).mp made
    obtain ⟨normal, rfl⟩ := (Edit.run_lift_ok_iff _ _ _ _).mp normalized
    obtain ⟨result, _, created, finished⟩ := (Edit.run_bind_ok_iff _ _ _ _ _).mp made
    obtain ⟨creation, rfl⟩ := (Edit.run_lift_ok_iff _ _ _ _).mp created
    obtain ⟨ended, rfl⟩ := Prod.mk.inj finished
    cases ended
    exact ⟨offersLast, type, rfl, same ▸ normal, creation⟩

/-- Looking a specification up changes nothing of what is found, also when it fails. -/
theorem found_spec (registry : Registry κ) (name : String) :
    ((Registry.spec name).run registry).2.found = registry.found := by
  rcases Option.eq_none_or_eq_some (registry.specs.get? name) with unknown | ⟨before, known⟩
  · obtain ⟨middle, same, _, resolved⟩ := registry.run_resolve_found name
    cases finds : registry.found name with
    | none =>
      rw [finds] at resolved
      rw [run_spec_unknown registry middle name unknown _ resolved]
      exact same
    | some type =>
      rw [finds] at resolved
      rw [run_spec_unknown registry middle name unknown _ resolved]
      dsimp only
      cases type.spec.validate name <;> exact same
  · simp only [Registry.spec, Edit.run_bind, Edit.run_get, known]
    rfl

/-- A new implementation was made by the type that is found under its name, whichever
specification is kept for it. -/
theorem create_found (registry later : Registry κ) (name : String) (supplied completed : Params)
    (region : String) (state : κ)
    (made : (Registry.create name supplied region).run registry = (.ok (state, completed), later)) :
    ∃ type, registry.found name = some type ∧ type.create completed region name = .ok state := by
  obtain ⟨middle, _, _, resolved⟩ := registry.run_resolve_found name
  cases finds : registry.found name with
  | none =>
    rw [finds] at resolved
    simp only [Registry.create, Edit.run_bind, resolved] at made
    cases made
  | some type =>
    rw [finds] at resolved
    simp only [Registry.create] at made
    rw [Edit.run_bind, resolved] at made
    simp only at made
    obtain ⟨spec, last, _, made⟩ := (Edit.run_bind_ok_iff _ _ _ _ _).mp made
    obtain ⟨params, _, _, made⟩ := (Edit.run_bind_ok_iff _ _ _ _ _).mp made
    obtain ⟨result, _, created, finished⟩ := (Edit.run_bind_ok_iff _ _ _ _ _).mp made
    obtain ⟨creation, rfl⟩ := (Edit.run_lift_ok_iff _ _ _ _).mp created
    obtain ⟨ended, rfl⟩ := Prod.mk.inj finished
    cases ended
    exact ⟨type, rfl, creation⟩

/-- An implementation that was made from a record was made by the type that is found under
its name, and the same is found afterwards. -/
theorem restore_found (registry later : Registry κ) (name : String) (record : RegionRecord)
    (region : String) (state : κ)
    (made : (Registry.restore name record region).run registry = (.ok state, later)) :
    later.found = registry.found ∧
      ∃ type, registry.found name = some type ∧ type.restore record region name = .ok state := by
  obtain ⟨middle, same, _, resolved⟩ := registry.run_resolve_found name
  cases finds : registry.found name with
  | none =>
    rw [finds] at resolved
    simp only [Registry.restore, Edit.run_bind, resolved] at made
    cases made
  | some type =>
    rw [finds] at resolved
    simp only [Registry.restore, Edit.run_bind, resolved, Edit.run_lift] at made
    obtain ⟨restored, rfl⟩ := Prod.mk.inj made
    exact ⟨same, type, rfl, restored⟩

/-- Registering types changes nothing else, and of several types for one name the first is
registered. -/
theorem registerAll_eq (registry : Registry κ) (types : List (String × RegionType κ)) :
    ∃ registered, registry.registerAll types = { registry with registered } ∧
      ∀ name, registered.get? name = (registry.registered.get? name).or (types.lookup name) := by
  induction types generalizing registry with
  | nil => exact ⟨registry.registered, rfl, fun name => Option.or_none.symm⟩
  | cons first rest inductionHypothesis =>
    obtain ⟨name, type⟩ := first
    have step : ((registry.register name type).toOption.getD registry) = { registry with
        registered := if registry.registered.contains name then registry.registered
          else registry.registered.insert name type } := by
      unfold register
      split <;> rfl
    obtain ⟨registered, made, found⟩ :=
      inductionHypothesis ((registry.register name type).toOption.getD registry)
    rw [step] at made found
    refine ⟨registered, ?_, ?_⟩
    · rw [registerAll, List.foldl_cons]
      simp only [step]
      exact made
    · intro other
      rw [found, List.lookup_cons]
      by_cases same : other = name
      · subst same
        cases taken : registry.registered.get? other with
        | some before => simp [NameMap.contains, taken]
        | none => simp [NameMap.contains, taken, NameMap.get?_insert]
      · have apart : (other == name) = false := beq_false_of_ne same
        simp only [apart]
        cases registry.registered.contains name with
        | true => rfl
        | false => simp [NameMap.get?_insert, same]

/-- A registry that knows registered types only offers the first under each name. -/
theorem offers_registerAll (types : List (String × RegionType κ)) :
    ((∅ : Registry κ).registerAll types).Offers (fun name => types.lookup name) := by
  obtain ⟨registered, made, found⟩ := registerAll_eq (∅ : Registry κ) types
  rw [made]
  constructor
  · intro name
    rw [Registry.found, found]
    exact Option.or_none.trans (Option.or_none.trans Option.none_or)
  · intro name spec kept
    cases kept

/-! ### Specifications in force -/

/-- The specification in force under a name: the one that is kept, else that of the type found
there, if it is valid. -/
def described? (registry : Registry κ) (name : String) : Option Spec :=
  (registry.specs.get? name).or ((registry.found name).bind fun type =>
    if type.spec.validate name = .ok () then some type.spec else none)

/-- What is in force is told by what is kept and by the types found. -/
theorem described?_congr (first second : Registry κ) (found : first.found = second.found)
    (specs : first.specs = second.specs) : first.described? = second.described? := by
  funext name
  rw [described?, described?, found, specs]

/-- Keeping a specification that is in force changes nothing of what is in force. -/
theorem described?_insert (registry : Registry κ) (name : String) (spec : Spec)
    (described : registry.described? name = some spec) :
    described? { registry with specs := registry.specs.insert name spec } =
      registry.described? := by
  funext other
  by_cases same : other = name
  · rw [same, described, described?, NameMap.get?_insert_self, Option.some_or]
  · rw [described?, described?, NameMap.get?_insert, if_neg same]
    rfl

/-- Looking a type up changes nothing of what is in force. -/
theorem described_resolve (registry : Registry κ) (name : String) :
    ((resolve name).run registry).2.described? = registry.described? := by
  obtain ⟨later, found, specs, ran⟩ := registry.run_resolve_found name
  rw [ran]
  cases registry.found name <;> exact later.described?_congr registry found specs

/-- Looking a specification up gives the one in force. The same types are found afterwards and
the same specifications are in force. -/
theorem run_spec_described (registry : Registry κ) (name : String) :
    ∃ later, later.found = registry.found ∧ later.described? = registry.described? ∧
      match registry.described? name with
      | some spec => (Registry.spec name).run registry = (.ok spec, later)
      | none => ∃ fault, (Registry.spec name).run registry = (.error fault, later) := by
  cases known : registry.specs.get? name with
  | some before =>
    have told : registry.described? name = some before := by
      rw [described?, known, Option.some_or]
    refine ⟨registry, rfl, rfl, ?_⟩
    simp only [told, Registry.spec, Edit.run_bind, Edit.run_get, known]
    rfl
  | none =>
    obtain ⟨middle, found, specs, resolved⟩ := registry.run_resolve_found name
    have kept := middle.described?_congr registry found specs
    have told : registry.described? name = (registry.found name).bind fun type =>
        if type.spec.validate name = .ok () then some type.spec else none := by
      rw [described?, known, Option.none_or]
    rw [told]
    cases finds : registry.found name with
    | none =>
      rw [finds] at resolved
      refine ⟨middle, found, kept, .unknownType name, ?_⟩
      rw [run_spec_unknown registry middle name known _ resolved]
    | some type =>
      rw [finds] at resolved told
      rw [Option.bind_some] at told ⊢
      cases valid : type.spec.validate name with
      | error fault =>
        refine ⟨middle, found, kept, fault, ?_⟩
        rw [run_spec_unknown registry middle name known _ resolved]
        simp only [valid]
      | ok _ =>
        rw [valid, if_pos rfl] at told
        refine ⟨{ middle with specs := middle.specs.insert name type.spec }, found,
          (middle.described?_insert name type.spec (kept ▸ told)).trans kept, ?_⟩
        rw [run_spec_unknown registry middle name known _ resolved]
        simp only [valid, if_true]

/-- The specification in force is the one that looking it up gives. -/
theorem described_iff (registry : Registry κ) (name : String) (spec : Spec) :
    ((Registry.spec name).run registry).1 = .ok spec ↔ registry.described? name = some spec := by
  obtain ⟨later, _, _, told⟩ := registry.run_spec_described name
  cases described : registry.described? name with
  | none =>
    rw [described] at told
    obtain ⟨fault, ran⟩ := told
    simp [ran]
  | some other =>
    rw [described] at told
    simp [told]

/-- The type found is the one that looking it up gives. -/
theorem resolved_iff (registry : Registry κ) (name : String) (type : RegionType κ) :
    ((resolve name).run registry).1 = .ok type ↔ registry.found name = some type := by
  obtain ⟨later, _, _, ran⟩ := registry.run_resolve_found name
  rw [ran]
  cases registry.found name <;> simp

/-- Making an implementation from a record succeeds if the type that is found under its name
does. The same types are found afterwards, and the same specifications are in force. -/
theorem run_restore_described (registry : Registry κ) (name : String) (type : RegionType κ)
    (finds : registry.found name = some type) (record : RegionRecord) (region : String) :
    ∃ later, later.found = registry.found ∧ later.described? = registry.described? ∧
      (Registry.restore name record region).run registry =
        (type.restore record region name, later) := by
  obtain ⟨later, found, specs, resolved⟩ := registry.run_resolve_found name
  rw [finds] at resolved
  refine ⟨later, found, later.described?_congr registry found specs, ?_⟩
  simp only [Registry.restore, Edit.run_bind, resolved, Edit.run_lift]

end RegionGraph.Registry

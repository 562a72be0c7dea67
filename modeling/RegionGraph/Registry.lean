import RegionGraph.Implementation

/-!
# The registry of region types

Region types are registered under names, or found on demand by resolvers, which
are asked in the order they were added. What a resolver found is kept, and so is
every valid specification that was asked for. Looking a type up may therefore
change the registry, also when it fails: every resolver that is asked counts the
call.
-/

namespace RegionGraph

/-- A way to find region types by name, and how often it was asked. -/
structure Resolver (κ : Type) where
  resolve? : String → Option (RegionType κ)
  calls : Nat

/-- Region types by name, and what was learnt about them. -/
structure Registry (κ : Type) where
  registered : NameMap (RegionType κ)
  resolvers : List (Resolver κ)
  /-- What resolvers have found. -/
  resolved : NameMap (RegionType κ)
  /-- Specifications that were asked for and are valid. -/
  specs : NameMap Spec

/-- Computations that consult the registry and keep what they learn. -/
abbrev Consult (κ α : Type) := ExceptT GraphError (StateM (Registry κ)) α

namespace Registry

variable {κ : Type}

/-- The registry that knows nothing. -/
def empty : Registry κ := ⟨∅, [], ∅, ∅⟩

instance : EmptyCollection (Registry κ) := ⟨empty⟩
instance : Inhabited (Registry κ) := ⟨empty⟩

/-- Register a type under a name that is not taken. -/
def register (registry : Registry κ) (name : String) (type : RegionType κ) :
    Except GraphError (Registry κ) :=
  if registry.registered.contains name then .error (.duplicateType name)
  else .ok { registry with registered := registry.registered.insert name type }

/-- Register types; names that are taken keep their type. -/
def registerAll (registry : Registry κ) (types : List (String × RegionType κ)) : Registry κ :=
  types.foldl (fun registry (name, type) => (registry.register name type).toOption.getD registry)
    registry

/-- Take a registered type away, together with its specification. -/
def unregister (registry : Registry κ) (name : String) : Except GraphError (Registry κ) :=
  if registry.registered.contains name then
    .ok { registry with
      registered := registry.registered.erase name
      specs := registry.specs.erase name }
  else .error (.unknownType name)

/-- Add a resolver, to be asked after the others. -/
def addResolver (registry : Registry κ) (resolve? : String → Option (RegionType κ)) :
    Registry κ :=
  { registry with resolvers := registry.resolvers ++ [⟨resolve?, 0⟩] }

/-- Resolve every name that begins with a stem to one type. -/
def byStem (stem : String) (type : RegionType κ) (name : String) : Option (RegionType κ) :=
  if name.startsWith stem then some type else none

/-- Forget everything that was learnt. Registrations stay. -/
def reset (registry : Registry κ) : Registry κ :=
  { registry with resolved := ∅, specs := ∅ }

/-- Ask resolvers until one answers. -/
def ask (name : String) : List (Resolver κ) → Option (RegionType κ) × List (Resolver κ)
  | [] => (none, [])
  | resolver :: rest =>
    let asked := { resolver with calls := resolver.calls + 1 }
    match resolver.resolve? name with
    | some type => (some type, asked :: rest)
    | none =>
      let (found, rest) := ask name rest
      (found, asked :: rest)

/-- The type of a name: the registered one, else the one a resolver found before,
    else the one that a resolver finds now. -/
def resolve (name : String) : Consult κ (RegionType κ) := do
  let registry ← get
  match registry.registered.get? name with
  | some type => return type
  | none =>
    match registry.resolved.get? name with
    | some type => return type
    | none =>
      let (found, resolvers) := ask name registry.resolvers
      match found with
      | some type =>
        set { registry with resolvers, resolved := registry.resolved.insert name type }
        return type
      | none =>
        set { registry with resolvers }
        throw (.unknownType name)

/-- The specification of a name. It is checked when it is first asked for, and a
    valid one is kept. -/
def spec (name : String) : Consult κ Spec := do
  let registry ← get
  match registry.specs.get? name with
  | some spec => return spec
  | none =>
    let type ← resolve name
    type.spec.validate name
    modify (fun registry => { registry with specs := registry.specs.insert name type.spec })
    return type.spec

/-- Make an implementation for a new region. Gives it with its completed
    parameters. -/
def create (type : String) (supplied : Params) (region : String) : Consult κ (κ × Params) := do
  let found ← resolve type
  let spec ← spec type
  let params ← spec.normalize supplied
  let state ← found.create params region type
  return (state, params)

/-- Make an implementation from its record. -/
def restore (type : String) (record : RegionRecord) (region : String) : Consult κ κ := do
  let found ← resolve type
  found.restore record region type

end Registry

end RegionGraph

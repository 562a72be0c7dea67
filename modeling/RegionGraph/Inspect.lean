import RegionGraph.Network.Basic

/-!
# Text for inspection

Regions, networks and registries as text that names their parts. It is meant for
people who look for a fault, and leaves out contents of buffers.
-/

namespace RegionGraph

namespace ElementType

/-- The text of an element. Floating-point numbers are marked as such. -/
def inspect : (type : ElementType) → type.Carrier → String
  | real32, value => Binary.single.inspect value.bits.toNat
  | real64, value => Binary.double.inspect value.bits.toNat
  | handle, value => "Handle(" ++ Nat.repr value.id.toNat ++ ")"
  | byte, value => display byte value
  | int16, value => display int16 value
  | uint16, value => display uint16 value
  | int32, value => display int32 value
  | uint32, value => display uint32 value
  | int64, value => display int64 value
  | uint64, value => display uint64 value
  | bool, value => display bool value

end ElementType

/-- A scalar with the name of its type. -/
def Scalar.inspect (scalar : Scalar) : String :=
  scalar.type.name ++ "(" ++ scalar.type.inspect scalar.value ++ ")"

/-- A value with the name of its form. -/
def Value.inspect : Value → String
  | scalar s => "Scalar(" ++ s.inspect ++ ")"
  | text content => "String(" ++ Quoted.text content ++ ")"
  | sequence items => "Sequence([" ++ String.intercalate ", " (items.map Scalar.inspect) ++ "])"

/-- The bindings of a map of parameters. -/
def Params.inspect (params : Params) : String :=
  "ParameterMap \x7b values: \x7b"
    ++ String.intercalate ", "
      (params.entries.map (fun (name, value) => Quoted.text name ++ ": " ++ value.inspect))
    ++ "\x7d \x7d"

/-- The name of a lifecycle state as it stands in text for inspection. -/
def Lifecycle.inspect : Lifecycle → String
  | unbuilt => "Unbuilt"
  | initialized => "Initialized"
  | running => "Running"
  | stopped => "Stopped"

variable {κ : Type}

/-- The text of a region. -/
def Region.inspect (region : Region κ) : String :=
  "Region \x7b name: " ++ Quoted.text region.name ++ ", type_name: " ++ Quoted.text region.type
    ++ ", parameters: " ++ Params.inspect region.params
    ++ ", outputs: " ++ Quoted.list region.outputs.names
    ++ ", inputs: " ++ Quoted.list region.inputs.names
    ++ ", initialized: " ++ (if region.initialized then "true" else "false")
    ++ ", phase: " ++ (match region.phase with
      | some phase => "Some(" ++ Nat.repr phase ++ ")"
      | none => "None")
    ++ " \x7d"

/-- The text of a network. -/
def Network.inspect (network : Network κ) : String :=
  "Network \x7b regions: " ++ Nat.repr network.regions.length
    ++ ", links: " ++ Nat.repr network.links.length
    ++ ", state: " ++ network.state.inspect
    ++ ", iteration: " ++ Nat.repr network.iteration.toNat ++ " \x7d"

/-- The text of a registry. -/
def Registry.inspect (registry : Registry κ) : String :=
  "RegionImplFactory \x7b registered: " ++ Quoted.list registry.registered.names
    ++ ", resolvers: " ++ Nat.repr registry.resolvers.length ++ " \x7d"

end RegionGraph

import RegionGraph.Endpoint
import RegionGraph.Spec

/-!
# Implementations of regions

An implementation is a state with a few operations on it. In each cycle it gets
an exchange: its inputs, which it may use as scratch space, and its outputs.
Computing may change what buffers hold but not their types and lengths; a buffer
that comes back in another shape is not taken. A computation that fails keeps
what it had changed until then, in its state and in its buffers; so do a start that
fails and a parameter that is refused, in its state.
-/

namespace RegionGraph

/-- What a region sees and may change during one computation. -/
structure Exchange where
  region : String
  iteration : UInt64
  /-- Names of the inputs that have links. -/
  connected : List String
  inputs : NameMap Buffer
  outputs : NameMap Buffer
deriving DecidableEq

namespace Exchange

/-- The buffer of an input. -/
def input (io : Exchange) (name : String) : Except GraphError Buffer :=
  match io.inputs.get? name with
  | some buffer => .ok buffer
  | none => .error (.unknownInput io.region name)

/-- The buffer of an output. -/
def output (io : Exchange) (name : String) : Except GraphError Buffer :=
  match io.outputs.get? name with
  | some buffer => .ok buffer
  | none => .error (.unknownOutput io.region name)

/-- The elements of an input. -/
def readInput (io : Exchange) (type : ElementType) (name : String) :
    Except GraphError (List type.Carrier) := do
  let buffer ← io.input name
  liftData (buffer.read type)

/-- Whether an input has links. -/
def isConnected (io : Exchange) (name : String) : Bool := name ∈ io.connected

/-- Change the elements of an input. -/
def modifyInput (io : Exchange) (type : ElementType) (name : String)
    (change : List type.Carrier → List type.Carrier) : Except GraphError Exchange := do
  let buffer ← io.input name
  let changed ← liftData (buffer.modify type change)
  return { io with inputs := io.inputs.insert name changed }

/-- Change the elements of an output. -/
def modifyOutput (io : Exchange) (type : ElementType) (name : String)
    (change : List type.Carrier → List type.Carrier) : Except GraphError Exchange := do
  let buffer ← io.output name
  let changed ← liftData (buffer.modify type change)
  return { io with outputs := io.outputs.insert name changed }

/-- Fill an output from an input, element by element as far as both go. Both endpoints
    are looked up before either type is compared. -/
def mapInto (io : Exchange) (source target : ElementType) (input output : String)
    (f : source.Carrier → target.Carrier) : Except GraphError Exchange := do
  let _ ← io.input input
  let _ ← io.output output
  let elements ← io.readInput source input
  io.modifyOutput target output
    (fun former => (elements.take former.length).map f ++ former.drop elements.length)

end Exchange

/-- Where a computation ended: the state, the buffers, and whether it succeeded. -/
structure Outcome (κ : Type) where
  state : κ
  exchange : Exchange
  result : Except GraphError Unit

/-- What a type has to offer to serve as the state of implementations. -/
class Implementation (κ : Type) where
  /-- Make ready for the first cycle. A failed attempt may leave its mark. -/
  start : κ → κ × Except GraphError Unit
  /-- Compute one cycle. -/
  compute : κ → Exchange → Outcome κ
  /-- The state as bytes. -/
  save : κ → Except GraphError (List UInt8)
  /-- The current value of a parameter, where the implementation knows it. -/
  parameter? : κ → String → Option Value
  /-- Take a new value for a parameter. A value that is refused may leave its mark. -/
  setParameter : κ → String → Value → κ × Except GraphError Unit
  /-- The length of an output, given the lengths of inputs known so far. -/
  outputCount? : κ → String → NameMap Nat → Option Nat

/-- The outcome of a change that is made whole or not at all. -/
def wholly {κ : Type} (state : κ) : Except GraphError κ → κ × Except GraphError Unit
  | .ok changed => (changed, .ok ())
  | .error fault => (state, .error fault)

/-- A region type: its description, and how instances are made anew and from
    records. Both get the name of the region and of the type. -/
structure RegionType (κ : Type) where
  spec : Spec
  create : Params → (region type : String) → Except GraphError κ
  restore : RegionRecord → (region type : String) → Except GraphError κ

/-- The same type with its instances inside a wider kind of state. -/
def RegionType.map {κ μ : Type} (type : RegionType κ) (embed : κ → μ) : RegionType μ where
  spec := type.spec
  create params region name := (type.create params region name).map embed
  restore record region name := (type.restore record region name).map embed

/-- Read a value that is to be one element of a type. -/
def readElement (type : ElementType) (name : String) (value : Value) :
    Except GraphError type.Carrier :=
  match value.scalar?.bind (fun scalar => scalar.element? type) with
  | some element => .ok element
  | none => .error (.parameterMismatch name type.name value.display)

/-- Read a state from bytes; what follows it is ignored. -/
def decodeState {α : Type} (codec : Codec α) (bytes : List UInt8) : Except GraphError α :=
  (codec.decodeAll bytes).mapError .stateUnreadable

end RegionGraph

import RegionGraph.GraphError

/-!
# Endpoints

An endpoint is an end of links: it holds a buffer and the numbers of its links in the
order in which they were attached. Outputs and inputs differ in how they take a
new length. An output with links keeps the length it has, because readers rely
on it; an input follows whatever its links bring.
-/

namespace RegionGraph

/-- An endpoint of a region. Outputs are plain endpoints. -/
structure Endpoint where
  region : String
  name : String
  isDefault : Bool
  buffer : Buffer
  links : List LinkId
deriving DecidableEq

/-- An input, which may have to be connected before the network can start. -/
structure Input extends Endpoint where
  required : Bool
deriving DecidableEq

namespace Endpoint

/-- An endpoint without storage and links. -/
def new (region name : String) (type : ElementType) (isDefault : Bool) : Endpoint :=
  ⟨region, name, isDefault, .new type, []⟩

/-- Whether the endpoint has links. -/
def isLinked (endpoint : Endpoint) : Bool := !endpoint.links.isEmpty

/-- Attach a link. A link is attached to an endpoint at most once. -/
def attach (endpoint : Endpoint) (id : LinkId) : Except GraphError Endpoint :=
  if id ∈ endpoint.links then .error (.alreadyAttached id endpoint.region endpoint.name)
  else .ok { endpoint with links := endpoint.links ++ [id] }

/-- Detach a link; the others keep their order. -/
def detach (endpoint : Endpoint) (id : LinkId) : Except GraphError Endpoint :=
  if id ∈ endpoint.links then .ok { endpoint with links := endpoint.links.erase id }
  else .error (.notAttached id endpoint.region endpoint.name)

/-- Give an output the length it is to have. A length that is right already keeps
    the contents, and one that readers rely on is not changed. -/
def prepare (endpoint : Endpoint) (count : Nat) : Except GraphError Endpoint :=
  if ¬endpoint.buffer.allocated then .ok { endpoint with buffer := endpoint.buffer.allocate count }
  else if endpoint.buffer.length = count then .ok endpoint
  else if endpoint.isLinked then
    .error (.bufferResize endpoint.region endpoint.name endpoint.buffer.length count)
  else .ok { endpoint with buffer := endpoint.buffer.allocate count }

/-- Put a saved buffer in place. It has to have the endpoint's element type. -/
def restore (endpoint : Endpoint) (saved : Buffer) : Except GraphError Endpoint :=
  if saved.type = endpoint.buffer.type then .ok { endpoint with buffer := saved }
  else .error (.data (.typeMismatch endpoint.buffer.type saved.type))

end Endpoint

namespace Input

/-- An input without storage and links. -/
def new (region name : String) (type : ElementType) (required isDefault : Bool) : Input :=
  ⟨Endpoint.new region name type isDefault, required⟩

/-- Attach a link. -/
def attach (input : Input) (id : LinkId) : Except GraphError Input :=
  (input.toEndpoint.attach id).map (fun endpoint => { input with toEndpoint := endpoint })

/-- Detach a link. -/
def detach (input : Input) (id : LinkId) : Except GraphError Input :=
  (input.toEndpoint.detach id).map (fun endpoint => { input with toEndpoint := endpoint })

/-- Replace the contents. -/
def withBuffer (input : Input) (buffer : Buffer) : Input :=
  { input with toEndpoint := { input.toEndpoint with buffer } }

/-- Give an input the length that its links bring; the right length keeps the
    contents. -/
def prepare (input : Input) (count : Nat) : Input :=
  if input.buffer.allocated ∧ input.buffer.length = count then input
  else input.withBuffer (input.buffer.allocate count)

end Input

end RegionGraph

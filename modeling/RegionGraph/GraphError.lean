import RegionGraph.Bundle.Record
import RegionGraph.Text.Quoted

/-!
# Faults of graphs

Everything that can go wrong while a graph is described, wired, run or loaded.
A fault records its cause; the wording is in `GraphError.message`. A fault of a
region's own computation is wrapped, so that the region and the cycle are known.
-/

namespace RegionGraph

/-- Where a network stands between being wired and being run. -/
inductive Lifecycle where
  | unbuilt | initialized | running | stopped
deriving DecidableEq, Inhabited

/-- The name of a lifecycle state. -/
def Lifecycle.name : Lifecycle → String
  | unbuilt => "unbuilt"
  | initialized => "initialized"
  | running => "running"
  | stopped => "stopped"

/-- Why a parameter was refused or has no answer. -/
inductive ParameterFault where
  | undeclared
  | undeclaredBy (type : String)
  | readOnly
  | unavailable
  | notWritable
  | belowOne
  /-- The implementation takes no changes while it runs, or not this one. -/
  | unsupported
  | refused
deriving DecidableEq

/-- The text of a parameter fault. -/
def ParameterFault.message : ParameterFault → String
  | undeclared => "not declared by the region type"
  | undeclaredBy type => "not declared by region type " ++ type
  | readOnly => "read-only parameters cannot be supplied"
  | unavailable => "no value available"
  | notWritable => "not writable"
  | belowOne => "must be at least 1"
  | unsupported => "implementation does not accept runtime changes"
  | refused => "refused"

/-- The text about a value that does not fit its parameter. -/
def mismatchMessage (name expected actual : String) : String :=
  "Parameter type mismatch for '" ++ name ++ "': expected " ++ expected ++ ", got " ++ actual

/-- Why the description of a region type contradicts itself. -/
inductive SpecFlaw where
  | duplicateParameter (name : String)
  | duplicateInput (name : String)
  | duplicateOutput (name : String)
  | severalDefaultInputs
  | severalDefaultOutputs
  | badDefault (name expected actual : String)
deriving DecidableEq

/-- The text of a flaw. -/
def SpecFlaw.message : SpecFlaw → String
  | duplicateParameter name => "duplicate parameter '" ++ name ++ "'"
  | duplicateInput name => "duplicate input '" ++ name ++ "'"
  | duplicateOutput name => "duplicate output '" ++ name ++ "'"
  | severalDefaultInputs => "more than one default input"
  | severalDefaultOutputs => "more than one default output"
  | badDefault name expected actual =>
    "bad default for '" ++ name ++ "': " ++ mismatchMessage name expected actual

/-- Why an operation on a graph failed. -/
inductive GraphError where
  | unknownType (name : String)
  | duplicateType (name : String)
  | invalidParameter (name : String) (fault : ParameterFault)
  | missingParameter (name : String)
  | parameterMismatch (name expected actual : String)
  | parameterNotWritable (region name : String)
  | duplicateRegion (name : String)
  | unknownRegion (name : String)
  | unknownOutput (region output : String)
  | unknownInput (region input : String)
  /-- The two endpoints are joined already. -/
  | duplicateLink (spec : LinkSpec)
  /-- The endpoint holds the link already. -/
  | alreadyAttached (id : LinkId) (region endpoint : String)
  | missingLink (id : LinkId)
  | notAttached (id : LinkId) (region endpoint : String)
  | linkTypeMismatch (spec : LinkSpec) (source destination : ElementType)
  | illegalTopologyChange (state : Lifecycle)
  | cyclicGraph (regions : List String)
  | missingRequiredInput (region input : String)
  | elementCountMismatch (region input : String) (expected actual : Nat)
  | unresolvedElementCount (region output : String)
  | bufferResize (region output : String) (current requested : Nat)
  /-- The rule selects nothing. -/
  | emptyReindex (spec : LinkSpec)
  | reindexOutOfRange (id : LinkId) (spec : LinkSpec) (cause : DataError)
  | invalidSpec (type : String) (flaw : SpecFlaw)
  | notInitialized
  | alreadyRunning
  | noExecutionOrder
  /-- The topology gives a region another type than its record does. -/
  | recordTypeMismatch (region listed recorded : String)
  /-- A fault told by an implementation. -/
  | implementation (text : String)
  | stateUnreadable (cause : DecodeError)
  | computeFailure (region : String) (cycle : UInt64) (cause : GraphError)
  | data (cause : DataError)
  | bundle (cause : BundleError)
  /-- Memory cannot hold what has to be kept. The program ends. -/
  | outOfMemory
deriving DecidableEq

namespace GraphError

/-- A data fault as a fault of the graph. Parameters are a matter of the graph. -/
def ofData : DataError → GraphError
  | .missingParameter name => missingParameter name
  | .parameterMismatch name expected => parameterMismatch name expected "an incompatible value"
  | other => data other

/-- The text of a fault. -/
def message : GraphError → String
  | unknownType name => "Unknown region type: " ++ name
  | duplicateType name => "Region type already registered: " ++ name
  | invalidParameter name fault => "Invalid parameter '" ++ name ++ "': " ++ fault.message
  | missingParameter name => "Missing parameter: " ++ name
  | parameterMismatch name expected actual => mismatchMessage name expected actual
  | parameterNotWritable region name =>
    "Parameter '" ++ name ++ "' of region '" ++ region ++ "' is not writable"
  | duplicateRegion name => "Region already exists: " ++ name
  | unknownRegion name => "Unknown region: " ++ name
  | unknownOutput region output => "Region '" ++ region ++ "' has no output '" ++ output ++ "'"
  | unknownInput region input => "Region '" ++ region ++ "' has no input '" ++ input ++ "'"
  | duplicateLink spec => "Duplicate link: " ++ spec.display
  | alreadyAttached id region endpoint =>
    "Duplicate link: " ++ id.display ++ " already feeds " ++ region ++ "." ++ endpoint
  | missingLink id => "Missing link: " ++ id.display
  | notAttached id region endpoint =>
    "Missing link: " ++ id.display ++ " is not attached to " ++ region ++ "." ++ endpoint
  | linkTypeMismatch spec source destination =>
    "Type mismatch on link " ++ spec.display ++ ": source is " ++ source.name
      ++ ", destination is " ++ destination.name
  | illegalTopologyChange state =>
    "Illegal topology change while network is " ++ state.name
  | cyclicGraph regions =>
    "Cyclic graph: no execution order exists for regions " ++ Quoted.list regions
  | missingRequiredInput region input =>
    "Required input '" ++ input ++ "' of region '" ++ region ++ "' is not connected"
  | elementCountMismatch region input expected actual =>
    "Element count mismatch on " ++ region ++ "." ++ input ++ ": expected " ++ Nat.repr expected
      ++ ", got " ++ Nat.repr actual
  | unresolvedElementCount region output =>
    "Cannot determine element count of output " ++ region ++ "." ++ output
  | bufferResize region output current requested =>
    "Cannot resize " ++ region ++ "." ++ output ++ " from " ++ Nat.repr current ++ " to "
      ++ Nat.repr requested ++ " elements while links are attached"
  | emptyReindex spec =>
    "Invalid reindex on link " ++ spec.display ++ ": rule selects no elements"
  | reindexOutOfRange id spec cause =>
    "Invalid reindex on link " ++ id.display ++ " " ++ spec.display ++ ": " ++ cause.message
  | invalidSpec type flaw =>
    "Invalid spec for region type " ++ type ++ ": " ++ flaw.message
  | notInitialized => "Invalid state: network has not been initialized"
  | alreadyRunning => "Invalid state: cannot initialize a running network"
  | noExecutionOrder => "Invalid state: network has no execution order"
  | recordTypeMismatch region listed recorded =>
    "Invalid state: region " ++ region ++ " is recorded as " ++ listed
      ++ " but its state belongs to " ++ recorded
  | implementation text => "Implementation error: " ++ text
  | stateUnreadable cause => "Implementation error: State decoding failed: " ++ cause.message
  | computeFailure region cycle cause =>
    "Region '" ++ region ++ "' failed at cycle " ++ Nat.repr cycle.toNat ++ ": " ++ cause.message
  | data cause => cause.message
  | bundle cause => cause.message
  | outOfMemory => "Memory allocation failed"

end GraphError

/-- Carry a data fault into the faults of the graph. -/
def liftData {α : Type} (result : Except DataError α) : Except GraphError α :=
  result.mapError GraphError.ofData

/-- Carry a bundle fault into the faults of the graph. -/
def liftBundle {α : Type} (result : Except BundleError α) : Except GraphError α :=
  result.mapError GraphError.bundle

end RegionGraph

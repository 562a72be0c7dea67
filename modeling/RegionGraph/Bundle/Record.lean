import RegionGraph.Codec
import RegionGraph.LinkSpec

/-!
# Bundles

A bundle is a saved graph: its topology, and for every region a record of its
type, parameters, state and outputs. Records are keyed by region name and are
kept apart from the topology, so that a damaged bundle may list a region without
a record, or the other way round; loading finds out.
-/

namespace RegionGraph

/-- Why a bundle could not be written, read or looked into. -/
inductive BundleError where
  /-- The file ends before its header does. -/
  | truncatedHeader
  | invalidMagic (found : List UInt8)
  | versionMismatch (found expected : UInt32)
  | checksumMismatch
  /-- The contents cannot be read as a bundle. -/
  | unreadable (cause : DecodeError)
  /-- The contents cannot be packed, or what is stored cannot be unpacked. -/
  | compression (cause : String)
  | missingTopology
  | missingRegion (name : String)
  | duplicateRegion (name : String)
deriving DecidableEq

/-- The text of a bundle fault. -/
def BundleError.message : BundleError → String
  | truncatedHeader => "I/O error: bundle header truncated"
  | invalidMagic found =>
    "Invalid magic number: expected NGRPH, got ["
      ++ String.intercalate ", " (found.map (fun byte => Nat.repr byte.toNat)) ++ "]"
  | versionMismatch found expected =>
    "Version mismatch: file version " ++ Nat.repr found.toNat ++ ", expected "
      ++ Nat.repr expected.toNat
  | checksumMismatch => "Checksum mismatch: bundle may be corrupted"
  | unreadable cause => "Deserialization error: " ++ cause.message
  | compression cause => "Compression error: " ++ cause
  | missingTopology => "Bundle has no topology record"
  | missingRegion name => "Bundle has no record for region '" ++ name ++ "'"
  | duplicateRegion name => "Bundle already holds a record for region '" ++ name ++ "'"

/-- What is saved of one region. -/
structure RegionRecord where
  type : String
  params : Params
  /-- The state of the implementation, in a form only it understands. -/
  state : List UInt8
  outputs : NameMap Buffer
  initialized : Bool
deriving DecidableEq

/-- What is saved of one link: its specification and the snapshots under way. -/
structure LinkRecord where
  spec : LinkSpec
  pending : List Buffer
deriving DecidableEq

/-- The name and type of a region in the topology. -/
structure RegionEntry where
  name : String
  type : String
deriving DecidableEq

/-- Regions in order, links in order, and the cycle at which they were saved. -/
structure Topology where
  regions : List RegionEntry
  links : List LinkRecord
  iteration : UInt64
deriving DecidableEq

/-- Remarks that a bundle carries along. -/
structure Metadata where
  timestamp : UInt64
  description : String
  source : String
  tags : NameMap String
deriving DecidableEq

/-- A saved graph. -/
structure Bundle where
  version : UInt32
  metadata : Metadata
  topology : Option Topology
  records : NameMap RegionRecord
deriving DecidableEq

namespace Bundle

/-- The version of the format that is written, and the only one read. -/
def formatVersion : UInt32 := 1

/-- A bundle that holds nothing yet. -/
def new (metadata : Metadata) : Bundle := ⟨formatVersion, metadata, none, ∅⟩

/-- Replace the topology. -/
def writeTopology (bundle : Bundle) (topology : Topology) : Bundle :=
  { bundle with topology := some topology }

/-- The topology, which a bundle has to have before it can be loaded. -/
def readTopology (bundle : Bundle) : Except BundleError Topology :=
  match bundle.topology with
  | some topology => .ok topology
  | none => .error .missingTopology

/-- Add the record of a region. A region has one record. -/
def writeRegion (bundle : Bundle) (name : String) (record : RegionRecord) :
    Except BundleError Bundle :=
  if bundle.records.contains name then .error (.duplicateRegion name)
  else .ok { bundle with records := bundle.records.insert name record }

/-- The record of a region. -/
def readRegion (bundle : Bundle) (name : String) : Except BundleError RegionRecord :=
  match bundle.records.get? name with
  | some record => .ok record
  | none => .error (.missingRegion name)

end Bundle

/-! ### Comparison

Bundles compare as their contents do, floating-point numbers as numbers. -/

namespace NameMap

/-- Whether two maps bind the same names to values that compare as equal. -/
def sameBy {α : Type} (compare : α → α → Bool) (a b : NameMap α) : Bool :=
  a.size == b.size &&
    (a.entries.zip b.entries).all (fun (x, y) => x.1 == y.1 && compare x.2 y.2)

end NameMap

/-- Whether two lists have one length and compare as equal item by item. -/
def sameList {α : Type} (compare : α → α → Bool) (a b : List α) : Bool :=
  a.length == b.length && (a.zip b).all (fun (x, y) => compare x y)

/-- Whether two records compare as equal. -/
def RegionRecord.same (a b : RegionRecord) : Bool :=
  a.type == b.type && a.params.sameBy Value.same b.params && a.state == b.state &&
    a.outputs.sameBy Buffer.same b.outputs && a.initialized == b.initialized

/-- Whether two saved links compare as equal. -/
def LinkRecord.same (a b : LinkRecord) : Bool :=
  a.spec == b.spec && sameList Buffer.same a.pending b.pending

/-- Whether two topologies compare as equal. -/
def Topology.same (a b : Topology) : Bool :=
  a.regions == b.regions && sameList LinkRecord.same a.links b.links && a.iteration == b.iteration

/-- Whether two bundles compare as equal. -/
def Bundle.same (a b : Bundle) : Bool :=
  a.version == b.version && a.metadata == b.metadata &&
    (match a.topology, b.topology with
      | some x, some y => x.same y
      | none, none => true
      | _, _ => false) &&
    a.records.sameBy RegionRecord.same b.records

end RegionGraph

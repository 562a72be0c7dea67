import RegionGraph.Bundle.Record

/-!
# The layout of bundles

The contents of a bundle file are the fields of the bundle, one after the other,
each by the codec of its type. Tags are written in any order, since readers sort
them; writing takes the order as an argument, and name order is the usual one.
-/

namespace RegionGraph

namespace Codec

/-- The fields of a saved region. -/
def regionRecord : Codec RegionRecord :=
  (pair text (pair (nameMap value) (pair (list uint8) (pair (nameMap buffer) bool)))).via
    (fun (type, params, state, outputs, initialized) =>
      ⟨type, params, state, outputs, initialized⟩)
    (fun r => (r.type, r.params, r.state, r.outputs, r.initialized))

/-- The fields of a link specification. -/
def linkSpec : Codec LinkSpec :=
  (pair text (pair text (pair text (pair text (pair (option reindex) uint32))))).via
    (fun (source, output, destination, input, rule, delay) =>
      ⟨source, output, destination, input, rule, delay⟩)
    (fun s => (s.source, s.output, s.destination, s.input, s.reindex, s.delay))

/-- The fields of a saved link. -/
def linkRecord : Codec LinkRecord :=
  (pair linkSpec (list buffer)).via (fun (spec, pending) => ⟨spec, pending⟩)
    (fun r => (r.spec, r.pending))

/-- The fields of a region entry. -/
def regionEntry : Codec RegionEntry :=
  (pair text text).via (fun (name, type) => ⟨name, type⟩) (fun e => (e.name, e.type))

/-- The fields of a topology. -/
def topology : Codec Topology :=
  (pair (list regionEntry) (pair (list linkRecord) uint64)).via
    (fun (regions, links, iteration) => ⟨regions, links, iteration⟩)
    (fun t => (t.regions, t.links, t.iteration))

/-- The fields of the metadata, tags as a list. -/
def metadata : Codec (UInt64 × String × String × List (String × String)) :=
  pair uint64 (pair text (pair text (list (pair text text))))

/-- The fields of a bundle. -/
def bundleFields : Codec (UInt32 × (UInt64 × String × String × List (String × String)) ×
    Option Topology × NameMap RegionRecord) :=
  pair uint32 (pair metadata (pair (option topology) (nameMap regionRecord)))

end Codec

namespace Bundle

/-- The contents of a bundle file, with the tags in a given order. -/
def encodeTagged (bundle : Bundle) (tags : List (String × String)) : List UInt8 :=
  Codec.bundleFields.encode (bundle.version,
    (bundle.metadata.timestamp, bundle.metadata.description, bundle.metadata.source, tags),
    bundle.topology, bundle.records)

/-- How bundles are written and read. -/
def codec : Codec Bundle where
  encode bundle := bundle.encodeTagged bundle.metadata.tags.entries
  decode := do
    let (version, (timestamp, description, source, tags), topology, records) ←
      Codec.bundleFields.decode
    return ⟨version, ⟨timestamp, description, source, NameMap.ofList tags⟩, topology, records⟩

end Bundle

end RegionGraph

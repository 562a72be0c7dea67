import RegionGraph.GraphError

/-!
# Links

A link carries the contents of an output to an input, late by a fixed number of
cycles. A link with a delay holds that many snapshots of its source, the oldest
in front; the reader sees the oldest, and every cycle the oldest goes and the
newest is added. A link without delay shows the source as it is.
-/

namespace RegionGraph

/-- A registered link and the snapshots on their way. -/
structure Link where
  id : LinkId
  spec : LinkSpec
  /-- The snapshots, oldest first. -/
  pending : List Buffer
deriving DecidableEq

namespace Link

/-- A link with nothing on its way. -/
def new (id : LinkId) (spec : LinkSpec) : Link := ⟨id, spec, []⟩

/-- The cycles that pass until contents arrive. -/
def delay (link : Link) : Nat := link.spec.delay.toNat

/-- Whether contents arrive later than they are written. -/
def isDelayed (link : Link) : Bool := link.delay != 0

/-- The number of elements that the link brings from a source of a given length. -/
def width (link : Link) (length : Nat) : Nat := Reindex.widthFor link.spec.reindex length

/-- Whether a link joins two given endpoints. -/
def joins (link : Link) (source output destination input : String) : Bool :=
  link.spec.source == source && link.spec.output == output
    && link.spec.destination == destination && link.spec.input == input

/-- Whether a region is at an end of the link. -/
def touches (link : Link) (region : String) : Bool :=
  link.spec.source == region || link.spec.destination == region

/-- The text of a link. -/
def display (link : Link) : String := link.id.display ++ " " ++ link.spec.display

/-- Bring the snapshots into the number and shape that the delay and the source
    ask for. Snapshots that have it already are kept, others give way to zeros. -/
def prepare (link : Link) (source : Buffer) : Link :=
  if link.pending.length = link.delay ∧
      link.pending.all (fun snapshot =>
        snapshot.type == source.type && snapshot.length == source.length) then link
  else { link with pending := List.replicate link.delay (.zeroed source.type source.length) }

/-- What the reader sees of the source: the oldest snapshot of a delayed link, and
    otherwise the live contents. -/
def visible (link : Link) (live : Buffer) : Buffer :=
  if link.isDelayed then link.pending.headD live else live

/-- The contents of a new snapshot, written into the storage of an old one where
    its length allows. Storage keeps its mark of being allocated. -/
def reuse (storage live : Buffer) : Buffer :=
  if storage.length = live.length then
    match storage.copyFrom live with
    | .ok refilled => refilled
    | .error _ => live
  else live

/-- At the end of a cycle the oldest snapshot goes and the live contents are added. -/
def shift (link : Link) (live : Buffer) : Link :=
  if link.isDelayed then
    match link.pending with
    | [] => { link with pending := [live] }
    | oldest :: rest => { link with pending := rest ++ [reuse oldest live] }
  else link

end Link

end RegionGraph

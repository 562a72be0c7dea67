import RegionGraph.Reindex

/-!
# Wishes for links

A link specification says which output is to feed which input, through which
reindexing rule and how many cycles late. An empty endpoint name stands for the
region's default endpoint until the link is made.
-/

namespace RegionGraph

/-- The number under which a link is registered. Numbers are given out from zero, one for
    each link that is made, so they do not outgrow words of 64 bits. -/
structure LinkId where
  number : Nat
deriving DecidableEq, Inhabited

/-- The text of a link number. -/
def LinkId.display (id : LinkId) : String := "link#" ++ Nat.repr id.number

/-- The ends, selection and delay of a link. -/
structure LinkSpec where
  source : String
  output : String
  destination : String
  input : String
  reindex : Option Reindex
  delay : UInt32
deriving DecidableEq

namespace LinkSpec

/-- A direct link between two named endpoints. -/
def new (source output destination input : String) : LinkSpec :=
  ⟨source, output, destination, input, none, 0⟩

/-- A direct link between the default endpoints of two regions. -/
def betweenDefaults (source destination : String) : LinkSpec :=
  new source "" destination ""

/-- The text of a specification; a delay is mentioned if there is one. -/
def display (spec : LinkSpec) : String :=
  spec.source ++ "." ++ spec.output ++ " -> " ++ spec.destination ++ "." ++ spec.input ++
    (if spec.delay = 0 then "" else " (delay " ++ Nat.repr spec.delay.toNat ++ ")")

end LinkSpec

end RegionGraph

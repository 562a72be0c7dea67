import RegionGraph.Scalar

/-!
# Parameter values

A parameter holds a scalar, a text, or a sequence of scalars that may differ in
type. Conversion reaches every scalar inside; one that does not convert makes
the whole value inconvertible. A text counts as bytes and converts to nothing
else.
-/

namespace RegionGraph

/-- The value of one parameter. -/
inductive Value where
  | scalar (scalar : Scalar)
  | text (content : String)
  | sequence (items : List Scalar)
deriving DecidableEq

namespace Value

instance : Inhabited Value := ⟨.sequence []⟩

/-- The element type: that of the scalar, bytes for a text, that of the first
    item of a sequence. An empty sequence has none. -/
def type? : Value → Option ElementType
  | scalar s => some s.type
  | text _ => some .byte
  | sequence items => items.head?.map Scalar.type

/-- The scalar, if the value is a single one. -/
def scalar? : Value → Option Scalar
  | scalar s => some s
  | _ => none

/-- The text, if the value is one. -/
def text? : Value → Option String
  | text content => some content
  | _ => none

/-- The same value with every scalar converted to the target type. -/
def convert? (value : Value) (target : ElementType) : Option Value :=
  match value with
  | scalar s => (s.convert? target).map scalar
  | text content => if target = .byte then some (text content) else none
  | sequence items => (items.mapM (fun item : Scalar => item.convert? target)).map sequence

/-- Whether two values have the same form and compare as equal throughout. -/
def same : Value → Value → Bool
  | scalar a, scalar b => a.same b
  | text a, text b => a == b
  | sequence a, sequence b => a.length == b.length && (a.zip b).all (fun (x, y) => x.same y)
  | _, _ => false

/-- The text of a value: texts in quotation marks, sequences in brackets. -/
def display : Value → String
  | scalar s => s.display
  | text content => "\"" ++ content ++ "\""
  | sequence items => "[" ++ String.intercalate ", " (items.map Scalar.display) ++ "]"

end Value

end RegionGraph

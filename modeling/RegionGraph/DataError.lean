import RegionGraph.ElementType

/-!
# Faults of data access

The ways in which reading, copying or converting buffers and parameters can
fail. A fault records its cause; the wording is in one place.
-/

namespace RegionGraph

/-- Why an access to a buffer or a parameter failed. -/
inductive DataError where
  /-- A buffer of one element type was accessed as another. -/
  | typeMismatch (expected actual : ElementType)
  /-- An access would reach past the end of a buffer. -/
  | outOfBounds (index length : Nat)
  /-- A number or name denotes no element type. -/
  | unknownTag (tag : Nat)
  | unknownName (name : String)
  /-- No parameter of that name is present. -/
  | missingParameter (name : String)
  /-- A parameter is present but cannot be read in the wanted form. -/
  | parameterMismatch (name expected : String)
  /-- A range ends past the largest position there is. -/
  | rangeOverflow
  /-- A whole-buffer copy joins buffers of different length. -/
  | lengthMismatch (source destination : Nat)
deriving DecidableEq

/-- The text of a fault. -/
def DataError.message : DataError → String
  | typeMismatch expected actual =>
    "Type Mismatch: expected " ++ expected.name ++ ", got " ++ actual.name
  | outOfBounds index length =>
    "Out Of Bounds: index " ++ Nat.repr index ++ " in buffer of " ++ Nat.repr length ++ " elements"
  | unknownTag tag => "Unknown Basic Type: tag " ++ Nat.repr tag
  | unknownName name => "Unknown Basic Type: " ++ name
  | missingParameter name => "Missing Parameter: " ++ name
  | parameterMismatch name expected =>
    "Parameter Type Mismatch: " ++ name ++ " is not " ++ expected
  | rangeOverflow => "Bad Parameters: range overflows"
  | lengthMismatch source destination =>
    "Bad Parameters: cannot copy " ++ Nat.repr source ++ " elements into a buffer of "
      ++ Nat.repr destination

/-- The element type with a given tag, or the fault that there is none. -/
def ElementType.fromTag (tag : Nat) : Except DataError ElementType :=
  match ofTag? tag with
  | some type => .ok type
  | none => .error (.unknownTag tag)

/-- The element type of a name, or the fault that there is none. -/
def ElementType.fromName (name : String) : Except DataError ElementType :=
  match ofName? name with
  | some type => .ok type
  | none => .error (.unknownName name)

end RegionGraph

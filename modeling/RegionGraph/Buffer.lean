import RegionGraph.Reindex

/-!
# Buffers

A buffer is a list of elements of one type that never changes afterwards. It is
created without storage; allocation gives it zeros. Copies go between buffers of
one type only and are all or nothing: a copy that fails returns its cause and no
new buffer.
-/

namespace RegionGraph

/-- A typed run of elements. -/
structure Buffer where
  type : ElementType
  elements : List type.Carrier
  /-- Whether storage was ever given and not taken back; a buffer with storage
      may still have no elements. -/
  allocated : Bool
deriving DecidableEq

namespace Buffer

/-- A buffer without storage. -/
def new (type : ElementType) : Buffer := ⟨type, [], false⟩

instance : Inhabited Buffer := ⟨new default⟩

/-- A buffer of zeros. -/
def zeroed (type : ElementType) (count : Nat) : Buffer :=
  ⟨type, List.replicate count type.zero, true⟩

/-- A buffer of given elements. -/
def ofList (type : ElementType) (elements : List type.Carrier) : Buffer :=
  ⟨type, elements, true⟩

/-- The number of elements. -/
def length (buffer : Buffer) : Nat := buffer.elements.length

/-- The bytes that the elements take. -/
def byteSize (buffer : Buffer) : Nat := buffer.length * buffer.type.width

/-- Give fresh storage of zeros; former elements are lost. -/
def allocate (buffer : Buffer) (count : Nat) : Buffer := zeroed buffer.type count

/-- Take the storage back. -/
def release (buffer : Buffer) : Buffer := new buffer.type

/-- Set every element to zero. -/
def clear (buffer : Buffer) : Buffer :=
  { buffer with elements := List.replicate buffer.length buffer.type.zero }

/-- The elements, read as elements of a type; only the buffer's own type will do. -/
def read (buffer : Buffer) (type : ElementType) : Except DataError (List type.Carrier) :=
  if same : buffer.type = type then .ok (same ▸ buffer.elements)
  else .error (.typeMismatch buffer.type type)

/-- Change the elements, taken as elements of a type, by a function that may not
    change how many there are: surplus results are cut off and missing ones keep
    the former element. -/
def modify (buffer : Buffer) (type : ElementType)
    (change : List type.Carrier → List type.Carrier) : Except DataError Buffer :=
  if same : buffer.type = type then
    let former : List type.Carrier := same ▸ buffer.elements
    let latter := (change former).take former.length
    .ok ⟨type, latter ++ former.drop latter.length, buffer.allocated⟩
  else .error (.typeMismatch buffer.type type)

/-- Write elements over a run of a list. -/
def overwrite {α : Type} (elements : List α) (offset : Nat) (run : List α) : List α :=
  elements.take offset ++ run ++ elements.drop (offset + run.length)

/-- Copy a source, through an optional rule, into a destination from an offset on.
    Gives the number of elements written and the new destination. Types are
    compared first, then the rule is checked against the source, then the end
    of the run against the destination. -/
def copyInto (source destination : Buffer) (offset : Nat) (rule : Option Reindex) :
    Except DataError (Nat × Buffer) :=
  if same : source.type = destination.type then do
    if let some rule := rule then rule.validate source.length
    let width := Reindex.widthFor rule source.length
    if destination.length < offset + width then
      .error (.outOfBounds (offset + width) destination.length)
    else
      let run : List destination.type.Carrier := same ▸ Reindex.selectFor rule source.elements
      .ok (width, { destination with elements := overwrite destination.elements offset run })
  else .error (.typeMismatch destination.type source.type)

/-- Overwrite all elements of a destination with those of a source of the same
    length. -/
def copyFrom (destination source : Buffer) : Except DataError Buffer :=
  if source.length = destination.length then
    (source.copyInto destination 0 none).map Prod.snd
  else .error (.lengthMismatch source.length destination.length)

/-- Take over the elements of another buffer, if it has the same type and length. -/
def refill (former latter : Buffer) : Buffer :=
  if same : latter.type = former.type then
    if latter.length = former.length then { former with elements := same ▸ latter.elements }
    else former
  else former

/-- Refilling keeps type, length and allocation. -/
theorem refill_shape (former latter : Buffer) :
    (former.refill latter).type = former.type ∧
      (former.refill latter).length = former.length ∧
      (former.refill latter).allocated = former.allocated := by
  obtain ⟨type, elements, allocated⟩ := former
  obtain ⟨other, others, mark⟩ := latter
  unfold refill
  split
  · rename_i same
    cases same
    split
    · rename_i lengths
      exact ⟨rfl, lengths, rfl⟩
    · exact ⟨rfl, rfl, rfl⟩
  · exact ⟨rfl, rfl, rfl⟩

/-- Whether two buffers are of one type and length, equally allocated, and
    compare as equal element by element. -/
def same (a b : Buffer) : Bool :=
  if types : b.type = a.type then
    let other : List a.type.Carrier := types ▸ b.elements
    a.length == b.length && (a.elements.zip other).all (fun (x, y) => a.type.same x y)
      && a.allocated == b.allocated
  else false

/-- A copy of the right width changes neither type nor length nor allocation. -/
theorem copyInto_shape {source destination result : Buffer} {offset count : Nat}
    {rule : Option Reindex}
    (copied : source.copyInto destination offset rule = .ok (count, result)) :
    result.type = destination.type ∧ result.allocated = destination.allocated := by
  unfold copyInto at copied
  split at copied
  · cases rule with
    | none =>
      simp only at copied
      split at copied
      · cases copied
      · cases copied; exact ⟨rfl, rfl⟩
    | some rule =>
      simp only [bind, Except.bind] at copied
      split at copied
      · cases copied
      · split at copied
        · cases copied
        · cases copied; exact ⟨rfl, rfl⟩
  · cases copied

end Buffer

end RegionGraph

/-!
# Maps from names, in name order

A name map holds at most one value per name and lists its entries in ascending
order of the names, compared code point by code point. Order is part of the
type: two maps with the same bindings are the same map, so listing, comparing
and writing a map never depend on how it was filled. The laws below say what a
look-up finds once a name is bound.
-/

namespace RegionGraph

/-- Bindings of distinct names, ascending by name. -/
structure NameMap (α : Type) where
  /-- The bindings in ascending order. -/
  entries : List (String × α)
  /-- Names strictly ascend, hence none occurs twice. -/
  ascending : entries.Pairwise (fun earlier later => earlier.1 < later.1)
deriving DecidableEq

namespace NameMap

variable {α β : Type}

/-- The map without bindings. -/
def empty : NameMap α := ⟨[], List.Pairwise.nil⟩

instance : EmptyCollection (NameMap α) := ⟨empty⟩
instance : Inhabited (NameMap α) := ⟨empty⟩

/-- Put a binding at its place in an ascending list; a binding of the same name
    gives way. -/
def place (name : String) (value : α) : List (String × α) → List (String × α)
  | [] => [(name, value)]
  | entry :: rest =>
    if name < entry.1 then (name, value) :: entry :: rest
    else if entry.1 = name then (name, value) :: rest
    else entry :: place name value rest

/-- Whatever stands in the list after placing was placed or stood there before. -/
theorem mem_place {name : String} {value : α} {entries : List (String × α)}
    {entry : String × α} (found : entry ∈ place name value entries) :
    entry = (name, value) ∨ entry ∈ entries := by
  induction entries with
  | nil => exact Or.inl (List.mem_singleton.mp found)
  | cons first rest ih =>
    simp only [place] at found
    split at found
    · exact (List.mem_cons.mp found).imp_right id
    · split at found
      · exact (List.mem_cons.mp found).imp_right (List.mem_cons_of_mem first)
      · rcases List.mem_cons.mp found with same | later
        · exact Or.inr (same ▸ List.mem_cons_self)
        · exact (ih later).imp_right (List.mem_cons_of_mem first)

/-- Placing keeps the list ascending. -/
theorem ascending_place (name : String) (value : α) {entries : List (String × α)}
    (ascending : entries.Pairwise (fun earlier later => earlier.1 < later.1)) :
    (place name value entries).Pairwise (fun earlier later => earlier.1 < later.1) := by
  induction entries with
  | nil => exact List.pairwise_singleton _ _
  | cons first rest ih =>
    have ⟨least, tail⟩ := List.pairwise_cons.mp ascending
    simp only [place]
    split
    · rename_i before
      refine List.pairwise_cons.mpr ⟨fun entry found => ?_, ascending⟩
      rcases List.mem_cons.mp found with same | later
      · exact same ▸ before
      · exact String.lt_trans before (least entry later)
    · split
      · rename_i same
        exact List.pairwise_cons.mpr ⟨fun entry found => same ▸ least entry found, tail⟩
      · rename_i notBefore distinct
        refine List.pairwise_cons.mpr ⟨fun entry found => ?_, ih tail⟩
        rcases mem_place found with same | later
        · subst same
          refine Decidable.byContradiction fun notAfter => distinct ?_
          exact String.le_antisymm (String.not_lt.mp notBefore) (String.not_lt.mp notAfter)
        · exact least entry later

/-- Bind a name, replacing a former binding of it. -/
def insert (map : NameMap α) (name : String) (value : α) : NameMap α :=
  ⟨place name value map.entries, ascending_place name value map.ascending⟩

/-- Drop the binding of a name, if there is one. -/
def erase (map : NameMap α) (name : String) : NameMap α :=
  ⟨map.entries.filter (fun entry => entry.1 ≠ name), map.ascending.filter _⟩

/-- The value bound to a name. -/
def get? (map : NameMap α) (name : String) : Option α :=
  (map.entries.find? (fun entry => entry.1 = name)).map Prod.snd

/-- Whether a name is bound. -/
def contains (map : NameMap α) (name : String) : Bool :=
  (map.get? name).isSome

/-- The bound names, ascending. -/
def names (map : NameMap α) : List String :=
  map.entries.map Prod.fst

/-- The number of bindings. -/
def size (map : NameMap α) : Nat := map.entries.length

/-- The bindings of a list; of several for one name the last counts. -/
def ofList (bindings : List (String × α)) : NameMap α :=
  bindings.foldl (fun map binding => map.insert binding.1 binding.2) empty

/-- Replace every value by a function of its name and itself; names stay. -/
def map (f : String → α → β) (bindings : NameMap α) : NameMap β where
  entries := bindings.entries.map (fun entry => (entry.1, f entry.1 entry.2))
  ascending := List.pairwise_map.mpr bindings.ascending

/-- A new binding is found under its name. -/
theorem get?_insert_self (map : NameMap α) (name : String) (value : α) :
    (map.insert name value).get? name = some value := by
  obtain ⟨entries, ascending⟩ := map
  simp only [insert, get?]
  clear ascending
  induction entries with
  | nil => simp [place]
  | cons first rest ih =>
    simp only [place]
    split
    · simp
    · split
      · simp
      · rename_i distinct
        simpa [List.find?_cons, distinct] using ih

/-- Binding one name leaves every other name as it was. -/
theorem get?_insert_of_ne (map : NameMap α) {name other : String} (value : α)
    (distinct : other ≠ name) : (map.insert name value).get? other = map.get? other := by
  obtain ⟨entries, ascending⟩ := map
  simp only [insert, get?]
  clear ascending
  induction entries with
  | nil => simp [place, distinct.symm]
  | cons first rest ih =>
    simp only [place]
    split
    · simp [List.find?_cons, distinct.symm]
    · split
      · rename_i same
        simp [same, distinct.symm]
      · by_cases here : first.1 = other
        · simp [here]
        · simpa [List.find?_cons, here] using ih

end NameMap

end RegionGraph

import RegionGraph.NameMap
import Mathlib.Data.List.Induction
import Mathlib.Data.List.Nodup
import Mathlib.Data.List.Perm.Subperm

/-!
# Name maps as finite functions

A name map is determined by what it finds under each name. Listing its entries
and looking names up say the same, because no name is bound twice. The laws
below describe each way of making a map by its look-ups, so that later proofs
never go through the ascending list again.
-/

namespace RegionGraph.NameMap

variable {α β γ : Type}

/-- A name map has no two bindings of one name. -/
theorem names_nodup (map : NameMap α) : map.names.Nodup := by
  rw [names, List.Nodup, List.pairwise_map]
  refine map.ascending.imp ?_
  intro earlier later before same
  exact String.lt_irrefl later.1 (same ▸ before)

/-- The entries are exactly the bindings that look-ups find. -/
theorem mem_entries_iff (map : NameMap α) (name : String) (value : α) :
    (name, value) ∈ map.entries ↔ map.get? name = some value := by
  have distinct : (map.entries.map Prod.fst).Nodup := map.names_nodup
  unfold get?
  generalize map.entries = entries at distinct
  induction entries with
  | nil => simp
  | cons first rest inductionHypothesis =>
    obtain ⟨firstName, firstValue⟩ := first
    rw [List.map_cons, List.nodup_cons] at distinct
    by_cases here : firstName = name
    · subst here
      have absent : (firstName, value) ∉ rest := fun member =>
        distinct.1 (List.mem_map.mpr ⟨_, member, rfl⟩)
      simp [absent, eq_comm]
    · have elsewhere : (name, value) ≠ (firstName, firstValue) := fun same =>
        here (congrArg Prod.fst same).symm
      simpa [List.find?_cons, here, elsewhere] using inductionHypothesis distinct.2

/-- Every value in the list of entries is found under its name. -/
theorem get?_of_mem (map : NameMap α) (entry : String × α) (member : entry ∈ map.entries) :
    map.get? entry.1 = some entry.2 :=
  (map.mem_entries_iff entry.1 entry.2).mp member

/-- A name is listed exactly if something is found under it. -/
theorem mem_names_iff (map : NameMap α) (name : String) :
    name ∈ map.names ↔ ∃ value, map.get? name = some value := by
  simp only [names, List.mem_map, Prod.exists, exists_and_right, exists_eq_right, mem_entries_iff]

/-- Maps that find the same under every name are the same map. Ascending lists
with the same members have the same order. -/
theorem ext_get? (first second : NameMap α)
    (agree : ∀ name, first.get? name = second.get? name) : first = second := by
  have member (entry : String × α) : entry ∈ first.entries ↔ entry ∈ second.entries := by
    obtain ⟨name, value⟩ := entry
    rw [mem_entries_iff, mem_entries_iff, agree name]
  have same : first.entries = second.entries := by
    have permuted : first.entries.Perm second.entries :=
      (List.perm_ext_iff_of_nodup first.names_nodup.of_map second.names_nodup.of_map).mpr member
    refine permuted.eq_of_pairwise ?_ first.ascending second.ascending
    intro earlier later _ _ before after
    exact absurd (String.lt_trans before after) (String.lt_irrefl _)
  cases first
  cases second
  cases same
  rfl

/-- The empty map finds nothing. -/
@[simp] theorem get?_empty (name : String) : (∅ : NameMap α).get? name = none := rfl

/-- What is found after binding a name. -/
theorem get?_insert (map : NameMap α) (name other : String) (value : α) :
    (map.insert name value).get? other = if other = name then some value else map.get? other := by
  split
  · rename_i same
    rw [same, get?_insert_self]
  · rename_i distinct
    exact map.get?_insert_of_ne value distinct

/-- What is found after a name was erased. -/
theorem get?_erase (map : NameMap α) (name other : String) :
    (map.erase name).get? other = if other = name then none else map.get? other := by
  refine Option.ext fun value => ?_
  rw [← mem_entries_iff, erase, List.mem_filter, mem_entries_iff]
  by_cases same : other = name
  · simp [same]
  · simp [same]

/-- Replacing values by a function finds the replaced values. -/
@[simp] theorem get?_map (f : String → α → β) (bindings : NameMap α) (name : String) :
    (bindings.map f).get? name = (bindings.get? name).map (f name) := by
  obtain ⟨entries, ascending⟩ := bindings
  simp only [map, get?]
  clear ascending
  induction entries with
  | nil => rfl
  | cons first rest inductionHypothesis =>
    by_cases here : first.1 = name
    · simp [here]
    · simpa [List.find?_cons, here] using inductionHypothesis

/-- Replacing values keeps the names and their order. -/
@[simp] theorem names_map (f : String → α → β) (bindings : NameMap α) :
    (bindings.map f).names = bindings.names := by
  simp [names, map, Function.comp_def]

/-- Replacing values twice is replacing them once by both functions. -/
@[simp] theorem map_map (g : String → β → γ) (f : String → α → β) (bindings : NameMap α) :
    (bindings.map f).map g = bindings.map (fun name value => g name (f name value)) := by
  apply ext_get?
  intro name
  simp [Function.comp_def]

/-- Replacements that agree on all bindings give the same map. -/
theorem map_congr (f g : String → α → β) (bindings : NameMap α)
    (agree : ∀ name value, bindings.get? name = some value → f name value = g name value) :
    bindings.map f = bindings.map g := by
  apply ext_get?
  intro name
  rw [get?_map, get?_map]
  cases found : bindings.get? name with
  | none => rfl
  | some value => exact congrArg some (agree name value found)

/-- A replacement that changes no binding changes nothing. -/
theorem map_eq_self (f : String → α → α) (bindings : NameMap α)
    (unchanged : ∀ name value, bindings.get? name = some value → f name value = value) :
    bindings.map f = bindings := by
  apply ext_get?
  intro name
  rw [get?_map]
  cases found : bindings.get? name with
  | none => rfl
  | some value => exact congrArg some (unchanged name value found)

/-- Changing one bound value is replacing all values by themselves but that one. -/
theorem insert_eq_map (map : NameMap α) (name : String) (former : α) (change : α → α)
    (found : map.get? name = some former) :
    map.insert name (change former) =
      map.map (fun other value => if other = name then change value else value) := by
  apply ext_get?
  intro other
  rw [get?_insert, get?_map]
  split
  · rename_i same
    subst same
    simp [found]
  · simp

/-- A map in which the values of the names in a list are changed, each by what the list tells
of its name. -/
def revised (map : NameMap α) (entries : List (String × β)) (change : β → α → α) : NameMap α :=
  map.map (fun name value =>
    match (entries.find? (fun entry => entry.1 = name)).map Prod.snd with
    | some told => change told value
    | none => value)

/-- With an empty list nothing is changed. -/
theorem revised_nil (map : NameMap α) (change : β → α → α) : map.revised [] change = map :=
  map.map_eq_self _ (fun _ _ _ => rfl)

/-- The first value of a list may be changed before the others. -/
theorem revised_cons (map : NameMap α) (first : String × β) (rest : List (String × β))
    (change : β → α → α) (fresh : first.1 ∉ rest.map Prod.fst) :
    map.revised (first :: rest) change =
      (map.map (fun name value =>
        if name = first.1 then change first.2 value else value)).revised rest change := by
  rw [revised, revised, map_map]
  apply map_congr
  intro name value _
  by_cases here : name = first.1
  · subst here
    have absent : rest.find? (fun entry => entry.1 = first.1) = none := by
      rw [List.find?_eq_none]
      intro entry member same
      exact fresh (List.mem_map.mpr ⟨entry, member, of_decide_eq_true same⟩)
    simp [absent]
  · simp [here, Ne.symm here]

/-- The values that another map has entries for are changed by what is found there. -/
theorem revised_entries (map : NameMap α) (told : NameMap β) (change : β → α → α) :
    map.revised told.entries change = map.map (fun name value =>
      match told.get? name with
      | some other => change other value
      | none => value) :=
  rfl

/-- Binding a list of names on top of a map finds only what the list binds or
the map had. -/
theorem mem_of_get?_foldl (bindings : List (String × α)) (start : NameMap α) (name : String)
    (value : α)
    (found : (bindings.foldl (fun map binding => map.insert binding.1 binding.2) start).get? name
      = some value) : (name, value) ∈ bindings ∨ start.get? name = some value := by
  induction bindings generalizing start with
  | nil => exact Or.inr found
  | cons first rest inductionHypothesis =>
    rcases inductionHypothesis _ found with later | earlier
    · exact Or.inl (List.mem_cons_of_mem first later)
    · rw [get?_insert] at earlier
      split at earlier
      · rename_i same
        cases earlier
        exact Or.inl (same ▸ List.mem_cons_self)
      · exact Or.inr earlier

/-- A map made of a list finds only what the list binds. -/
theorem mem_of_get?_ofList (bindings : List (String × α)) (name : String) (value : α)
    (found : (ofList bindings).get? name = some value) : (name, value) ∈ bindings := by
  rcases mem_of_get?_foldl bindings empty name value found with member | impossible
  · exact member
  · cases impossible

/-- Keep the values that a function gives a result for. -/
def filterMap (f : String → α → Option β) (bindings : NameMap α) : NameMap β where
  entries := bindings.entries.filterMap (fun entry => (f entry.1 entry.2).map (entry.1, ·))
  ascending := by
    refine bindings.ascending.filterMap _ ?_
    intro earlier later before first made second other
    obtain ⟨_, _, rfl⟩ := Option.map_eq_some_iff.mp made
    obtain ⟨_, _, rfl⟩ := Option.map_eq_some_iff.mp other
    exact before

/-- What is found among the kept values. -/
theorem get?_filterMap (f : String → α → Option β) (bindings : NameMap α) (name : String) :
    (bindings.filterMap f).get? name = (bindings.get? name).bind (f name) := by
  apply Option.ext
  intro value
  rw [← mem_entries_iff]
  simp only [filterMap, List.mem_filterMap, Option.bind_eq_some_iff, Option.map_eq_some_iff,
    Prod.exists, mem_entries_iff, Prod.mk.injEq]
  constructor
  · rintro ⟨_, former, found, _, made, rfl, rfl⟩
    exact ⟨former, found, made⟩
  · rintro ⟨former, found, made⟩
    exact ⟨name, former, found, value, made, rfl, rfl⟩

/-- Bind a name if there is a value for it. -/
def note (map : NameMap α) (name : String) : Option α → NameMap α
  | some value => map.insert name value
  | none => map

/-- What is found after noting a value. -/
theorem get?_note (map : NameMap α) (name other : String) (value : Option α) :
    (map.note name value).get? other =
      if other = name then value.or (map.get? other) else map.get? other := by
  cases value with
  | none => simp [note]
  | some value => simp [note, get?_insert]

/-- Going through distinct names and noting a result for each finds that result, and
where there is none what the map had before. -/
theorem get?_foldl_entries (entries : List (String × α)) (distinct : (entries.map Prod.fst).Nodup)
    (f : String → α → Option β) (start : NameMap β) (name : String) :
    (entries.foldl (fun map entry => map.note entry.1 (f entry.1 entry.2)) start).get? name =
      (((entries.find? (fun entry => entry.1 = name)).map Prod.snd).bind (f name)).or
        (start.get? name) := by
  induction entries generalizing start with
  | nil => rfl
  | cons first rest inductionHypothesis =>
    rw [List.map_cons, List.nodup_cons] at distinct
    rw [List.foldl_cons, inductionHypothesis distinct.2, get?_note]
    by_cases here : first.1 = name
    · have absent : rest.find? (fun entry => entry.1 = name) = none := by
        rw [List.find?_eq_none]
        intro entry member same
        exact distinct.1 (List.mem_map.mpr ⟨entry, member, (of_decide_eq_true same).trans here.symm⟩)
      simp [here, absent]
    · simp [here, Ne.symm here]

/-- Going through a map and noting a result for each value. -/
theorem get?_foldl_note (map : NameMap α) (f : String → α → Option β) (start : NameMap β)
    (name : String) :
    (map.entries.foldl (fun made entry => made.note entry.1 (f entry.1 entry.2)) start).get? name =
      ((map.get? name).bind (f name)).or (start.get? name) :=
  get?_foldl_entries map.entries map.names_nodup f start name

/-- Going through a map and binding a result for every value. -/
theorem get?_foldl_insert (map : NameMap α) (f : String → α → β) (start : NameMap β)
    (name : String) :
    (map.entries.foldl (fun made entry => made.insert entry.1 (f entry.1 entry.2)) start).get?
      name = ((map.get? name).map (f name)).or (start.get? name) := by
  rw [Option.map_eq_bind]
  exact map.get?_foldl_note (fun name value => some (f name value)) start name

/-- A map made of bindings of distinct names finds each of them. -/
theorem get?_ofList_iff (bindings : List (String × α)) (distinct : (bindings.map Prod.fst).Nodup)
    (name : String) (value : α) :
    (ofList bindings).get? name = some value ↔ (name, value) ∈ bindings := by
  refine ⟨mem_of_get?_ofList bindings name value, fun member => ?_⟩
  have bound : (bindings.find? (fun entry => entry.1 = name)).isSome := by
    rw [List.find?_isSome]
    exact ⟨(name, value), member, decide_eq_true rfl⟩
  obtain ⟨entry, found⟩ := Option.isSome_iff_exists.mp bound
  have shown : (ofList bindings).get? name = some entry.2 := by
    have folded := get?_foldl_entries bindings distinct (fun _ value => some value) empty name
    rw [found] at folded
    exact folded
  have other := mem_of_get?_ofList bindings name entry.2 shown
  have same := List.inj_on_of_nodup_map distinct other member rfl
  rw [shown, (Prod.mk.inj same).2]

/-- A map that is made from a table of distinct names, row by row, finds what is made of the
row that the table has for a name. -/
theorem get?_ofList_table (table : List (String × α)) (distinct : (table.map Prod.fst).Nodup)
    (f : String → α → β) (name : String) :
    (ofList (table.map (fun (name, row) => (name, f name row)))).get? name =
      (table.lookup name).map (f name) := by
  have distinctMade : ((table.map (fun (name, row) => (name, f name row))).map Prod.fst).Nodup := by
    rw [List.map_map]
    exact distinct
  refine Option.ext fun value => ?_
  rw [get?_ofList_iff _ distinctMade, List.mem_map, Option.map_eq_some_iff]
  constructor
  · rintro ⟨⟨_, row⟩, member, made⟩
    cases made
    obtain ⟨found, listed⟩ := Option.isSome_iff_exists.mp
      (List.lookup_isSome_iff.mpr ⟨(name, row), member, beq_self_eq_true name⟩)
    obtain ⟨earlier, later, split, _⟩ := List.lookup_eq_some_iff.mp listed
    have here : (name, found) ∈ table := split ▸ List.mem_append_right _ List.mem_cons_self
    cases List.inj_on_of_nodup_map distinct here member rfl
    exact ⟨row, listed, rfl⟩
  · rintro ⟨row, listed, rfl⟩
    obtain ⟨earlier, later, split, _⟩ := List.lookup_eq_some_iff.mp listed
    exact ⟨(name, row), split ▸ List.mem_append_right _ List.mem_cons_self, rfl⟩

/-- The entries of a map in any order make the map again. -/
theorem ofList_of_perm (map : NameMap α) (bindings : List (String × α))
    (order : bindings.Perm map.entries) : ofList bindings = map := by
  have distinct : (bindings.map Prod.fst).Nodup := (order.map Prod.fst).nodup_iff.mpr
    map.names_nodup
  refine ext_get? _ _ fun name => Option.ext fun value => ?_
  rw [get?_ofList_iff bindings distinct, order.mem_iff, mem_entries_iff]

/-! ### Growing maps -/

/-- A map that finds whatever another finds. -/
def Extends (former later : NameMap α) : Prop :=
  ∀ name value, former.get? name = some value → later.get? name = some value

/-- Maps that extend each other are the same. -/
theorem Extends.antisymm {former later : NameMap α} (extend : former.Extends later)
    (back : later.Extends former) : former = later :=
  ext_get? former later fun name => Option.ext fun value => ⟨extend name value, back name value⟩

/-- The bindings of a map are bindings of every map that extends it. -/
theorem Extends.subperm {former later : NameMap α} (extend : former.Extends later) :
    former.entries.Subperm later.entries := by
  refine List.subperm_of_subset (List.Nodup.of_map Prod.fst former.names_nodup) ?_
  rintro ⟨name, value⟩ member
  rw [mem_entries_iff] at member ⊢
  exact extend name value member

/-- Extending a map takes nothing away. -/
theorem Extends.size_le {former later : NameMap α} (extend : former.Extends later) :
    former.size ≤ later.size := extend.subperm.length_le

/-- A map that is extended without becoming larger is the same map. -/
theorem Extends.eq_of_size {former later : NameMap α} (extend : former.Extends later)
    (small : later.size ≤ former.size) : later = former := by
  have same := extend.subperm.perm_of_length_le small
  refine ext_get? _ _ fun name => Option.ext fun value => ?_
  rw [← mem_entries_iff, ← mem_entries_iff]
  exact same.symm.mem_iff

/-- A map whose names another has is not larger. -/
theorem size_le_of_names (first : NameMap α) (second : NameMap β)
    (named : ∀ name value, first.get? name = some value → ∃ other, second.get? name = some other) :
    first.size ≤ second.size := by
  have subset : first.names ⊆ second.names := by
    intro name member
    obtain ⟨value, found⟩ := (first.mem_names_iff name).mp member
    exact (second.mem_names_iff name).mpr (named name value found)
  have shorter := (List.subperm_of_subset first.names_nodup subset).length_le
  rwa [names, names, List.length_map, List.length_map] at shorter

/-- Noting one value for each of a list of names. -/
theorem get?_foldl_names (names : List String) (f : String → Option α) (start : NameMap α)
    (other : String) :
    (names.foldl (fun map name => map.note name (f name)) start).get? other =
      if other ∈ names then (f other).or (start.get? other) else start.get? other := by
  induction names generalizing start with
  | nil => rfl
  | cons first rest inductionHypothesis =>
    rw [List.foldl_cons, inductionHypothesis, get?_note]
    by_cases here : other = first
    · subst here
      rw [if_pos rfl, if_pos List.mem_cons_self, ← Option.or_assoc, Option.or_self, ite_self]
    · rw [if_neg here]
      simp only [List.mem_cons, here, false_or]

/-! ### Indexes -/

/-- A map is the index of a list of names: it leads from every name to its position, and
from no other name anywhere. -/
def Indexes (index : NameMap Nat) (names : List String) : Prop :=
  ∀ name position, index.get? name = some position ↔ names[position]? = some name

/-- Names that have an index are distinct. -/
theorem Indexes.nodup {index : NameMap Nat} {names : List String} (indexes : index.Indexes names) :
    names.Nodup := by
  rw [List.nodup_iff_getElem?_ne_getElem?]
  intro first second before inside same
  have found := List.getElem?_eq_getElem inside
  have here := (indexes names[second] first).mpr (same.trans found)
  have there := (indexes names[second] second).mpr found
  rw [here, Option.some.injEq] at there
  exact Nat.ne_of_lt before there

/-- A name that is not in the index is not in the list. -/
theorem Indexes.get?_eq_none_iff {index : NameMap Nat} {names : List String}
    (indexes : index.Indexes names) (name : String) : index.get? name = none ↔ name ∉ names := by
  rw [List.mem_iff_getElem?, Option.eq_none_iff_forall_ne_some, not_exists]
  exact forall_congr' (fun position => not_congr (indexes name position))

/-- A list has one index. -/
theorem Indexes.unique {first second : NameMap Nat} {names : List String}
    (indexesFirst : first.Indexes names) (indexesSecond : second.Indexes names) :
    first = second := by
  apply ext_get?
  intro name
  apply Option.ext
  intro position
  rw [indexesFirst name position, indexesSecond name position]

/-- The index of no names. -/
theorem indexes_nil : (∅ : NameMap Nat).Indexes [] := by
  intro name position
  simp

/-- A new name at the end is indexed by its position. -/
theorem Indexes.concat {index : NameMap Nat} {names : List String} (indexes : index.Indexes names)
    (name : String) (fresh : name ∉ names) :
    (index.insert name names.length).Indexes (names ++ [name]) := by
  intro other position
  rw [get?_insert, List.getElem?_append]
  by_cases inside : position < names.length
  · rw [if_pos inside, ← indexes other position]
    by_cases same : other = name
    · have absent := (indexes.get?_eq_none_iff other).mpr (same ▸ fresh)
      rw [if_pos same, absent]
      simp only [Option.some.injEq, reduceCtorEq, iff_false]
      exact (Nat.ne_of_lt inside).symm
    · rw [if_neg same]
  · rw [if_neg inside, List.getElem?_singleton]
    by_cases same : other = name
    · rw [if_pos same, same]
      by_cases last : position - names.length = 0
      · simp only [last, if_true, Option.some.injEq, iff_true]
        omega
      · simp only [last, if_false, Option.some.injEq, reduceCtorEq, iff_false]
        omega
    · have outside : index.get? other ≠ some position := by
        rw [Ne, indexes other position]
        simp [List.getElem?_eq_none (Nat.le_of_not_lt inside)]
      rw [if_neg same]
      simp only [outside, false_iff]
      split
      · simpa using Ne.symm same
      · simp

/-- Distinct names are indexed by listing them with their positions. -/
theorem indexes_zipIdx (names : List String) (distinct : names.Nodup) :
    (ofList names.zipIdx).Indexes names := by
  induction names using List.reverseRecOn with
  | nil => exact indexes_nil
  | append_singleton former name inductionHypothesis =>
    obtain ⟨distinctFormer, _, apart⟩ := List.nodup_append.mp distinct
    have fresh : name ∉ former := fun member => apart name member name (by simp) rfl
    have made : ofList (former ++ [name]).zipIdx =
        (ofList former.zipIdx).insert name former.length := by
      rw [List.zipIdx_append, ofList, List.foldl_append, List.zipIdx_singleton, Nat.zero_add]
      rfl
    rw [made]
    exact (inductionHypothesis distinctFormer).concat name fresh

end RegionGraph.NameMap

import RegionGraph.Builtin.CounterSource
import RegionGraph.Proofs.NameMaps
import RegionGraph.Proofs.Traversal
import RegionGraph.Spec

/-!
# Completed parameters

The parameters of a new region are completed name by name: a supplied value is converted to the
declared type, and a parameter that was left out takes its default. So exactly the declared
parameters that may be given a value have one, and every supplied value ends in the declared
form, which is the form in which checking gives a value back as it is.

A default is taken over as it was declared. A valid specification has defaults that convert,
not defaults of the declared form, so completed parameters have the declared form exactly if
the defaults that were taken had it already. Completing them once more converts the others.
-/

namespace RegionGraph

/-! ### Values of the declared form -/

/-- Scalars that all convert to a type have become as many scalars of that type. -/
theorem Scalar.types_of_mapM (type : ElementType) (items results : List Scalar)
    (converted : items.mapM (fun item : Scalar => item.convert? type) = some results) :
    results.length = items.length ∧ ∀ result ∈ results, result.type = type := by
  induction items generalizing results with
  | nil =>
    cases converted
    exact ⟨rfl, fun _ impossible => nomatch impossible⟩
  | cons item rest inductionHypothesis =>
    simp only [List.mapM_cons, Option.pure_def, Option.bind_eq_bind, Option.bind_eq_some_iff,
      Option.some.injEq] at converted
    obtain ⟨result, first, others, more, rfl⟩ := converted
    obtain ⟨length, types⟩ := inductionHypothesis others more
    refine ⟨congrArg (· + 1) length, ?_⟩
    intro other member
    rcases List.mem_cons.mp member with rfl | later
    · exact Scalar.type_of_convert? first
    · exact types other later

/-- Converting scalars of one type to that type changes nothing. -/
theorem Scalar.mapM_of_types (type : ElementType) (items : List Scalar)
    (types : ∀ item ∈ items, item.type = type) :
    items.mapM (fun item : Scalar => item.convert? type) = some items := by
  induction items with
  | nil => rfl
  | cons item rest inductionHypothesis =>
    have first : item.convert? type = some item :=
      types item List.mem_cons_self ▸ item.convert?_self
    rw [List.mapM_cons, first,
      inductionHypothesis (fun other member => types other (List.mem_cons_of_mem item member))]
    rfl

namespace ParameterSpec

/-- The values of the form that a parameter declares. -/
inductive Holds (parameter : ParameterSpec) : Value → Prop where
  | text (content : String) (wanted : parameter.isText = true) : Holds parameter (.text content)
  | scalar (s : Scalar) (plain : parameter.isText = false) (few : parameter.count ≤ 1)
      (typed : s.type = parameter.type) : Holds parameter (.scalar s)
  | sequence (items : List Scalar) (plain : parameter.isText = false)
      (length : parameter.count = 0 ∨ 1 < parameter.count ∧ items.length = parameter.count)
      (typed : ∀ item ∈ items, item.type = parameter.type) : Holds parameter (.sequence items)

/-- What a value converts to has the declared form. -/
theorem holds_of_convert? (parameter : ParameterSpec) (value result : Value)
    (converted : parameter.convert? value = some result) : parameter.Holds result := by
  unfold convert? at converted
  split at converted
  case isTrue wanted =>
    cases value with
    | text content =>
      cases converted
      exact .text content wanted
    | scalar s => cases converted
    | sequence items => cases converted
  case isFalse plain =>
    rw [Bool.not_eq_true] at plain
    split at converted
    case isFalse _ => cases converted
    case isTrue admitted =>
      cases value with
      | text content => cases admitted
      | scalar s =>
        obtain ⟨result, typed, rfl⟩ := Option.map_eq_some_iff.mp converted
        exact .scalar result plain (of_decide_eq_true admitted) (Scalar.type_of_convert? typed)
      | sequence items =>
        obtain ⟨results, all, rfl⟩ := Option.map_eq_some_iff.mp converted
        obtain ⟨length, types⟩ := Scalar.types_of_mapM parameter.type items results all
        refine .sequence results plain ?_ types
        simp only [admits, Bool.or_eq_true, Bool.and_eq_true, beq_iff_eq,
          decide_eq_true_eq] at admitted
        rw [length]
        exact admitted.imp_right And.symm

/-- A value of the declared form converts to itself. -/
theorem convert?_of_holds (parameter : ParameterSpec) (value : Value)
    (holds : parameter.Holds value) : parameter.convert? value = some value := by
  cases holds with
  | text content wanted => rw [convert?, if_pos wanted]; rfl
  | scalar s plain few typed =>
    have admitted : parameter.admits (.scalar s) = true := decide_eq_true few
    rw [convert?, if_neg (Bool.not_eq_true _ ▸ plain), if_pos admitted, Value.convert?, ← typed,
      s.convert?_self]
    rfl
  | sequence items plain length typed =>
    have admitted : parameter.admits (.sequence items) = true := by
      simp only [admits, Bool.or_eq_true, Bool.and_eq_true, beq_iff_eq, decide_eq_true_eq]
      exact length.imp_right And.symm
    rw [convert?, if_neg (Bool.not_eq_true _ ▸ plain), if_pos admitted, Value.convert?,
      Scalar.mapM_of_types _ items typed]
    rfl

/-- A check passes exactly for what converts. -/
theorem check_ok_iff (parameter : ParameterSpec) (name : String) (value result : Value) :
    parameter.check name value = .ok result ↔ parameter.convert? value = some result := by
  unfold check
  cases parameter.convert? value <;> simp

/-- What passed a check has the declared form. -/
theorem holds_of_check (parameter : ParameterSpec) (name : String) (value result : Value)
    (checked : parameter.check name value = .ok result) : parameter.Holds result :=
  parameter.holds_of_convert? value result ((parameter.check_ok_iff name value result).mp checked)

/-- A value has the declared form exactly if its check gives it back as it is. -/
theorem check_self_iff (parameter : ParameterSpec) (name : String) (value : Value) :
    parameter.check name value = .ok value ↔ parameter.Holds value :=
  ⟨parameter.holds_of_check name value value, fun holds =>
    (parameter.check_ok_iff name value value).mpr (parameter.convert?_of_holds value holds)⟩

end ParameterSpec

namespace Spec

/-! ### Valid specifications -/

/-- No name is repeated exactly if names are distinct, also from those seen before. -/
theorem firstRepeated_eq_none_iff (seen names : List String) :
    firstRepeated seen names = none ↔ names.Nodup ∧ ∀ name ∈ names, name ∉ seen := by
  induction names generalizing seen with
  | nil => simp [firstRepeated]
  | cons name rest inductionHypothesis =>
    rw [firstRepeated]
    split
    case isTrue repeated => simp [repeated]
    case isFalse fresh =>
      rw [inductionHypothesis, List.nodup_cons]
      constructor
      · rintro ⟨distinct, apart⟩
        refine ⟨⟨fun again => apart name again List.mem_cons_self, distinct⟩, ?_⟩
        intro other member
        rcases List.mem_cons.mp member with rfl | later
        · exact fresh
        · exact fun before => apart other later (List.mem_cons_of_mem name before)
      · rintro ⟨⟨once, distinct⟩, apart⟩
        refine ⟨distinct, fun other member before => ?_⟩
        rcases List.mem_cons.mp before with rfl | earlier
        · exact once member
        · exact apart other (List.mem_cons_of_mem name member) earlier

/-- A specification is valid exactly if it has no flaw. -/
theorem validate_ok_iff (spec : Spec) (type : String) :
    spec.validate type = .ok () ↔ spec.flaw? = none := by
  rw [validate]
  cases spec.flaw? <;> simp

/-- The endpoints of a valid specification have distinct names. -/
theorem endpoints_of_valid (spec : Spec) (type : String) (valid : spec.validate type = .ok ()) :
    (spec.outputs.map Prod.fst).Nodup ∧ (spec.inputs.map Prod.fst).Nodup := by
  have flawless := (spec.validate_ok_iff type).mp valid
  simp only [flaw?, Option.orElse_eq_orElse, Option.orElse_eq_or, Option.or_eq_none_iff,
    Option.map_eq_none_iff] at flawless
  obtain ⟨_, inputs, outputs, _⟩ := flawless
  exact ⟨((firstRepeated_eq_none_iff [] _).mp outputs).1,
    ((firstRepeated_eq_none_iff [] _).mp inputs).1⟩

/-- The parameters of a valid specification have distinct names, and defaults that convert. -/
theorem parameters_of_valid (spec : Spec) (type : String) (valid : spec.validate type = .ok ()) :
    (spec.parameters.map Prod.fst).Nodup ∧
      ∀ name parameter value, spec.parameter? name = some parameter →
        parameter.default = some value → ∃ result, parameter.check name value = .ok result := by
  have flawless := (spec.validate_ok_iff type).mp valid
  simp only [flaw?, Option.orElse_eq_orElse, Option.orElse_eq_or, Option.or_eq_none_iff,
    Option.map_eq_none_iff, List.findSome?_eq_none_iff] at flawless
  obtain ⟨repeated, _, _, _, _, defaults⟩ := flawless
  refine ⟨((firstRepeated_eq_none_iff [] _).mp repeated).1, ?_⟩
  intro name parameter value declared default
  obtain ⟨_, _, split, _⟩ := List.lookup_eq_some_iff.mp declared
  have passed := defaults (name, parameter) (by rw [split]; simp)
  simp only [default, ite_eq_left_iff, reduceCtorEq, imp_false, not_not] at passed
  obtain ⟨result, converted⟩ := Option.isSome_iff_exists.mp passed
  exact ⟨result, (parameter.check_ok_iff name value result).mpr converted⟩

/-! ### Completion, name by name -/

/-- What a supplied value becomes. A name for which none was supplied has none; where a value is
refused there is no answer. -/
def accepted? (spec : Spec) (name : String) : Option Value → Option (Option Value)
  | none => some none
  | some value => (spec.checkSupplied name value).toOption.map some

/-- What a name is left with: the value that it has, else the default of its declaration, unless
it is only read. Where a default is missing there is no answer. -/
def filled? (declared : Option ParameterSpec) : Option Value → Option (Option Value)
  | some value => some (some value)
  | none =>
    match declared with
    | none => some none
    | some parameter =>
      if parameter.access = .readOnly then some none else parameter.default.map some

/-- A supplied value is accepted if its parameter is declared, may be given a value, and admits
this one. -/
theorem checkSupplied_ok_iff (spec : Spec) (name : String) (value result : Value) :
    spec.checkSupplied name value = .ok result ↔ ∃ parameter,
      spec.parameter? name = some parameter ∧ parameter.access ≠ .readOnly ∧
        parameter.check name value = .ok result := by
  unfold checkSupplied
  cases spec.parameter? name with
  | none => simp
  | some parameter => by_cases closed : parameter.access = .readOnly <;> simp [closed]

/-- A supplied value becomes what its check gives. -/
theorem accepted?_some_iff (spec : Spec) (name : String) (value : Value) (result : Option Value) :
    spec.accepted? name (some value) = some result ↔
      ∃ converted, spec.checkSupplied name value = .ok converted ∧ result = some converted := by
  rw [accepted?]
  cases checked : spec.checkSupplied name value with
  | error fault => simp [Except.toOption]
  | ok converted => simp [Except.toOption, eq_comm]

/-- Supplied values are accepted together if each is, and each becomes what it is to become. -/
theorem convertSupplied_ok_iff (spec : Spec) (entries : List (String × Value))
    (distinct : (entries.map Prod.fst).Nodup) (converted : Params) :
    spec.convertSupplied entries = .ok converted ↔ ∀ name,
      spec.accepted? name ((entries.find? (fun entry => entry.1 = name)).map Prod.snd) =
        some (converted.get? name) := by
  induction entries generalizing converted with
  | nil =>
    rw [convertSupplied, Except.ok.injEq]
    constructor
    · rintro rfl name
      rfl
    · intro absent
      exact NameMap.ext_get? _ _ fun name => Option.some.inj (absent name)
  | cons entry rest inductionHypothesis =>
    obtain ⟨key, value⟩ := entry
    rw [List.map_cons, List.nodup_cons] at distinct
    have once : rest.find? (fun entry => entry.1 = key) = none := by
      rw [List.find?_eq_none]
      intro other member same
      exact distinct.1 (List.mem_map.mpr ⟨other, member, of_decide_eq_true same⟩)
    have here : ((key, value) :: rest).find? (fun entry => entry.1 = key) = some (key, value) :=
      List.find?_cons_of_pos (by simp)
    have elsewhere (name : String) (other : name ≠ key) :
        ((key, value) :: rest).find? (fun entry => entry.1 = name) =
          rest.find? (fun entry => entry.1 = name) :=
      List.find?_cons_of_neg (by simpa using Ne.symm other)
    rw [convertSupplied, Traversal.bind_ok_iff]
    constructor
    · rintro ⟨result, accepted, made⟩ name
      obtain ⟨others, more, made⟩ := (Traversal.bind_ok_iff _ _ _).mp made
      cases made
      rw [NameMap.get?_insert]
      by_cases same : name = key
      · rw [if_pos same, same, here]
        exact (spec.accepted?_some_iff key value _).mpr ⟨result, accepted, rfl⟩
      · rw [if_neg same, elsewhere name same]
        exact (inductionHypothesis distinct.2 others).mp more name
    · intro each
      have first := each key
      rw [here] at first
      obtain ⟨result, accepted, found⟩ := (spec.accepted?_some_iff key value _).mp first
      have others := (inductionHypothesis distinct.2 (converted.erase key)).mpr (by
        intro name
        rw [NameMap.get?_erase]
        by_cases same : name = key
        · rw [if_pos same, same, once]
          rfl
        · rw [if_neg same, ← elsewhere name same]
          exact each name)
      refine ⟨result, accepted, ?_⟩
      rw [others, Traversal.ok_bind]
      refine congrArg Except.ok (NameMap.ext_get? _ _ fun name => ?_)
      rw [NameMap.get?_insert, NameMap.get?_erase]
      by_cases same : name = key
      · rw [if_pos same, same, found]
      · rw [if_neg same, if_neg same]

/-- Filling in succeeds if each name can be filled in, and leaves each with what it is to have. -/
theorem fillDefaults_ok_iff (declared : List (String × ParameterSpec))
    (distinct : (declared.map Prod.fst).Nodup) (params completed : Params) :
    fillDefaults declared params = .ok completed ↔ ∀ name,
      filled? (declared.lookup name) (params.get? name) = some (completed.get? name) := by
  induction declared generalizing params with
  | nil =>
    have kept (name : String) : filled? (([] : List (String × ParameterSpec)).lookup name)
        (params.get? name) = some (params.get? name) := by cases params.get? name <;> rfl
    simp only [fillDefaults, Except.ok.injEq, kept, Option.some.injEq]
    exact ⟨fun same name => same ▸ rfl, NameMap.ext_get? _ _⟩
  | cons entry rest inductionHypothesis =>
    obtain ⟨key, parameter⟩ := entry
    rw [List.map_cons, List.nodup_cons] at distinct
    have once : rest.lookup key = none := by
      rw [List.lookup_eq_none_iff]
      intro other member
      rw [bne_iff_ne]
      exact fun same => distinct.1 (List.mem_map.mpr ⟨other, member, same.symm⟩)
    -- The first declaration matters to its own name only, and only while that has no value.
    have split (former : Params) (others : ∀ name, name ≠ key → former.get? name = params.get? name)
        (first : filled? none (former.get? key) = filled? (some parameter) (params.get? key)) :
        (∀ name, filled? (rest.lookup name) (former.get? name) = some (completed.get? name)) ↔
          ∀ name, filled? (((key, parameter) :: rest).lookup name) (params.get? name) =
            some (completed.get? name) := by
      refine forall_congr' fun name => ?_
      by_cases same : name = key
      · rw [same, once, List.lookup_cons_self, first]
      · rw [List.lookup_cons, beq_false_of_ne same, others name same]
    rw [fillDefaults]
    split
    case isTrue skipped =>
      rw [inductionHypothesis distinct.2]
      refine split params (fun _ _ => rfl) ?_
      cases found : params.get? key with
      | some value => rfl
      | none =>
        rw [NameMap.contains, found] at skipped
        have closed : parameter.access = .readOnly := by simpa using skipped
        simp only [filled?, closed, if_true]
    case isFalse needed =>
      rw [not_or, NameMap.contains, Option.not_isSome_iff_eq_none] at needed
      obtain ⟨absent, open_⟩ := needed
      cases given : parameter.default with
      | none =>
        constructor
        · intro impossible
          cases impossible
        · intro filled
          have first := filled key
          simp [filled?, absent, open_, given] at first
      | some value =>
        dsimp only
        rw [inductionHypothesis distinct.2]
        refine split (params.insert key value)
          (fun name other => params.get?_insert_of_ne value other) ?_
        simp [filled?, params.get?_insert_self, absent, open_, given]

/-- What a name is given: what a supplied value becomes, or else what is filled in. -/
def given? (spec : Spec) (name : String) (supplied : Option Value) : Option (Option Value) :=
  (spec.accepted? name supplied).bind (filled? (spec.parameter? name))

/-- Parameters are completed exactly if every name can be given what it is to be given. -/
theorem normalize_ok_iff (spec : Spec) (distinct : (spec.parameters.map Prod.fst).Nodup)
    (supplied completed : Params) : spec.normalize supplied = .ok completed ↔
      ∀ name, spec.given? name (supplied.get? name) = some (completed.get? name) := by
  rw [normalize, Traversal.bind_ok_iff]
  constructor
  · rintro ⟨converted, accepted, filled⟩ name
    have first := (spec.convertSupplied_ok_iff _ supplied.names_nodup converted).mp accepted name
    have second := (fillDefaults_ok_iff _ distinct converted completed).mp filled name
    exact Option.bind_eq_some_iff.mpr ⟨_, first, second⟩
  · intro each
    let converted : Params :=
      supplied.filterMap (fun name value => (spec.checkSupplied name value).toOption)
    have passes (name : String) :
        spec.accepted? name (supplied.get? name) = some (converted.get? name) ∧
          filled? (spec.parameter? name) (converted.get? name) = some (completed.get? name) := by
      obtain ⟨middle, first, second⟩ := Option.bind_eq_some_iff.mp (each name)
      have same : converted.get? name = middle := by
        rw [NameMap.get?_filterMap]
        cases given : supplied.get? name with
        | none =>
          rw [given] at first
          exact Option.some.inj first
        | some value =>
          rw [given] at first
          obtain ⟨result, checked, rfl⟩ := (spec.accepted?_some_iff name value middle).mp first
          rw [Option.bind_some, checked]
          rfl
      rw [same]
      exact ⟨first, second⟩
    refine ⟨converted, ?_, ?_⟩
    · exact (spec.convertSupplied_ok_iff _ supplied.names_nodup converted).mpr
        fun name => (passes name).1
    · exact (fillDefaults_ok_iff _ distinct converted completed).mpr fun name => (passes name).2

/-! ### Completed parameters -/

/-- A parameter of this name is declared, and may be given a value. -/
def Settable (spec : Spec) (name : String) : Prop :=
  ∃ parameter, spec.parameter? name = some parameter ∧ parameter.access ≠ .readOnly

/-- Every parameter that has to take its default has one of the declared form. -/
def DefaultsHold (spec : Spec) (supplied : Params) : Prop :=
  ∀ name parameter value, spec.parameter? name = some parameter → parameter.access ≠ .readOnly →
    supplied.get? name = none → parameter.default = some value → parameter.Holds value

/-- All values are of the form that their parameters declare. -/
def AllHold (spec : Spec) (params : Params) : Prop :=
  ∀ name value parameter, params.get? name = some value → spec.parameter? name = some parameter →
    parameter.Holds value

/-- A name is given no value exactly if none was supplied and it may not be given one. -/
theorem given?_none_iff (spec : Spec) (name : String) (supplied : Option Value) :
    spec.given? name supplied = some none ↔ supplied = none ∧ ¬spec.Settable name := by
  cases supplied with
  | some value =>
    simp only [reduceCtorEq, false_and, iff_false, given?, Option.bind_eq_some_iff, not_exists,
      not_and]
    intro middle accepted filled
    obtain ⟨converted, _, rfl⟩ := (spec.accepted?_some_iff name value middle).mp accepted
    cases filled
  | none =>
    simp only [given?, accepted?, Option.bind_some, filled?, true_and]
    cases declared : spec.parameter? name with
    | none => simp [Settable, declared]
    | some parameter =>
      by_cases closed : parameter.access = .readOnly <;> simp [Settable, declared, closed]

/-- A name is given a value exactly if it may be given one, and the value is what the supplied
one converts to, or the default where none was supplied. -/
theorem given?_some_iff (spec : Spec) (name : String) (supplied : Option Value) (result : Value) :
    spec.given? name supplied = some (some result) ↔
      ∃ parameter, spec.parameter? name = some parameter ∧ parameter.access ≠ .readOnly ∧
        ((∃ value, supplied = some value ∧ parameter.check name value = .ok result) ∨
          supplied = none ∧ parameter.default = some result) := by
  cases supplied with
  | some value =>
    rw [given?, Option.bind_eq_some_iff]
    constructor
    · rintro ⟨middle, accepted, filled⟩
      obtain ⟨converted, checked, rfl⟩ := (spec.accepted?_some_iff name value middle).mp accepted
      obtain ⟨parameter, declared, open_, converts⟩ :=
        (spec.checkSupplied_ok_iff name value converted).mp checked
      cases filled
      exact ⟨parameter, declared, open_, Or.inl ⟨value, rfl, converts⟩⟩
    · rintro ⟨parameter, declared, open_, ⟨_, ⟨⟩, converts⟩ | ⟨⟨⟩, _⟩⟩
      refine ⟨some result, (spec.accepted?_some_iff name value _).mpr ⟨result, ?_, rfl⟩, rfl⟩
      exact (spec.checkSupplied_ok_iff name value result).mpr ⟨parameter, declared, open_, converts⟩
  | none =>
    simp only [given?, accepted?, Option.bind_some, filled?, reduceCtorEq, false_and, exists_false,
      true_and, false_or]
    cases spec.parameter? name with
    | none => simp
    | some parameter => by_cases closed : parameter.access = .readOnly <;> simp [closed]

/-- Where exactly the names that may be given a value have one, the others are given none. -/
theorem given?_none_of_named (spec : Spec) (params : Params)
    (named : ∀ name, (∃ value, params.get? name = some value) ↔ spec.Settable name) (name : String)
    (absent : params.get? name = none) : spec.given? name none = some none := by
  refine (spec.given?_none_iff name none).mpr ⟨rfl, fun settable => ?_⟩
  obtain ⟨value, present⟩ := (named name).mpr settable
  cases absent.symm.trans present

section Completed

variable (spec : Spec) (type : String) (valid : spec.validate type = .ok ())
  (supplied completed : Params)

/-- Parameters that have values under the right names are completed to themselves exactly if all
values have the declared form. -/
theorem normalize_self_iff (distinct : (spec.parameters.map Prod.fst).Nodup) (params : Params)
    (named : ∀ name, (∃ value, params.get? name = some value) ↔ spec.Settable name) :
    spec.normalize params = .ok params ↔ spec.AllHold params := by
  rw [spec.normalize_ok_iff distinct]
  constructor
  · intro each name value parameter found declared
    have given := each name
    rw [found, given?_some_iff] at given
    obtain ⟨same, declaredAlso, _, ⟨_, ⟨⟩, checked⟩ | ⟨⟨⟩, _⟩⟩ := given
    cases declared.symm.trans declaredAlso
    exact parameter.holds_of_check name value value checked
  · intro holds name
    cases found : params.get? name with
    | none => exact spec.given?_none_of_named params named name found
    | some value =>
      obtain ⟨parameter, declared, open_⟩ := (named name).mp ⟨value, found⟩
      exact (spec.given?_some_iff name _ value).mpr ⟨parameter, declared, open_,
        Or.inl ⟨value, rfl, (parameter.check_self_iff name value).mpr
          (holds name value parameter found declared)⟩⟩

variable (normalized : spec.normalize supplied = .ok completed)

include valid normalized

/-- Exactly the parameters that may be given a value have one. -/
theorem settable_of_normalize (name : String) :
    (∃ value, completed.get? name = some value) ↔ spec.Settable name := by
  have given := (spec.normalize_ok_iff (spec.parameters_of_valid type valid).1 supplied
    completed).mp normalized name
  cases found : completed.get? name with
  | none =>
    rw [found, given?_none_iff] at given
    simp [given.2]
  | some value =>
    rw [found, given?_some_iff] at given
    obtain ⟨parameter, declared, open_, _⟩ := given
    exact ⟨fun _ => ⟨parameter, declared, open_⟩, fun _ => ⟨value, rfl⟩⟩

/-- A value is what the supplied one converts to, or the declared default. -/
theorem origin_of_normalize (name : String) (value : Value) (parameter : ParameterSpec)
    (found : completed.get? name = some value) (declared : spec.parameter? name = some parameter) :
    (∃ former, supplied.get? name = some former ∧ parameter.check name former = .ok value) ∨
      supplied.get? name = none ∧ parameter.default = some value := by
  have given := (spec.normalize_ok_iff (spec.parameters_of_valid type valid).1 supplied
    completed).mp normalized name
  rw [found, given?_some_iff] at given
  obtain ⟨same, declaredAlso, _, origin⟩ := given
  cases declared.symm.trans declaredAlso
  exact origin

/-- All values have the declared form exactly if the defaults that were taken have it. -/
theorem allHold_iff_defaultsHold : spec.AllHold completed ↔ spec.DefaultsHold supplied := by
  constructor
  · intro holds name parameter value declared open_ absent given
    obtain ⟨other, found⟩ := (spec.settable_of_normalize type valid supplied completed normalized
      name).mpr ⟨parameter, declared, open_⟩
    rcases spec.origin_of_normalize type valid supplied completed normalized name other parameter
      found declared with ⟨former, present, _⟩ | ⟨_, same⟩
    · cases absent.symm.trans present
    · cases given.symm.trans same
      exact holds name value parameter found declared
  · intro defaults name value parameter found declared
    rcases spec.origin_of_normalize type valid supplied completed normalized name value parameter
      found declared with ⟨former, _, checked⟩ | ⟨absent, given⟩
    · exact parameter.holds_of_check name former value checked
    · obtain ⟨same, declaredAlso, open_⟩ := (spec.settable_of_normalize type valid supplied
        completed normalized name).mp ⟨value, found⟩
      cases declared.symm.trans declaredAlso
      exact defaults name parameter value declared open_ absent given

/-- Completing completed parameters succeeds, and what it gives has the declared form and is
completed to itself. -/
theorem settled_of_normalize : ∃ settled, spec.normalize completed = .ok settled ∧
    spec.AllHold settled ∧ spec.normalize settled = .ok settled := by
  obtain ⟨distinct, convertible⟩ := spec.parameters_of_valid type valid
  have named := spec.settable_of_normalize type valid supplied completed normalized
  have convertsAll (name : String) (value : Value) (found : completed.get? name = some value) :
      ∃ result, spec.checkSupplied name value = .ok result := by
    obtain ⟨parameter, declared, open_⟩ := (named name).mp ⟨value, found⟩
    have converts : ∃ result, parameter.check name value = .ok result := by
      rcases spec.origin_of_normalize type valid supplied completed normalized name value parameter
        found declared with ⟨former, _, checked⟩ | ⟨_, given⟩
      · exact ⟨value, (parameter.check_self_iff name value).mpr
          (parameter.holds_of_check name former value checked)⟩
      · exact convertible name parameter value declared given
    obtain ⟨result, checked⟩ := converts
    exact ⟨result, (spec.checkSupplied_ok_iff name value result).mpr
      ⟨parameter, declared, open_, checked⟩⟩
  let settled : Params :=
    completed.filterMap (fun name value => (spec.checkSupplied name value).toOption)
  have again : spec.normalize completed = .ok settled := by
    refine (spec.normalize_ok_iff distinct completed settled).mpr fun name => ?_
    rw [NameMap.get?_filterMap]
    cases found : completed.get? name with
    | none => exact spec.given?_none_of_named completed named name found
    | some value =>
      obtain ⟨result, checked⟩ := convertsAll name value found
      obtain ⟨parameter, declared, open_, converts⟩ :=
        (spec.checkSupplied_ok_iff name value result).mp checked
      rw [Option.bind_some, checked]
      exact (spec.given?_some_iff name _ result).mpr
        ⟨parameter, declared, open_, Or.inl ⟨value, rfl, converts⟩⟩
  have holds : spec.AllHold settled := by
    refine (spec.allHold_iff_defaultsHold type valid completed settled again).mpr ?_
    intro name parameter _ declared open_ absent
    obtain ⟨value, found⟩ := (named name).mpr ⟨parameter, declared, open_⟩
    cases absent.symm.trans found
  refine ⟨settled, again, holds, ?_⟩
  exact (spec.normalize_self_iff distinct settled
    (spec.settable_of_normalize type valid completed settled again)).mpr holds

end Completed

/-- Completed parameters of a valid specification have values for exactly the declared parameters
that may be given one. A supplied value ends in the declared form; a parameter that was left out
has its default as it was declared. So all values have the declared form, and completing them
again changes nothing, each exactly if the defaults that were taken have the declared form;
completing them once more gives them that form in any case.

Completing is a recursion over the supplied values and then one over the declared parameters. An
induction over each of them tells, name by name, what it gives: so every completed value is traced
back to where it came from, a supplied value or a default. -/
theorem completed_of_valid (spec : Spec) (type : String) (valid : spec.validate type = .ok ())
    (supplied completed : Params) (normalized : spec.normalize supplied = .ok completed) :
    (∀ name, (∃ value, completed.get? name = some value) ↔
      ∃ parameter, spec.parameter? name = some parameter ∧ parameter.access ≠ .readOnly) ∧
    (∀ name value parameter, completed.get? name = some value →
      spec.parameter? name = some parameter →
        (∃ former, supplied.get? name = some former ∧ parameter.check name former = .ok value ∧
          parameter.Holds value ∧ parameter.check name value = .ok value) ∨
        supplied.get? name = none ∧ parameter.default = some value) ∧
    ((∀ name value parameter, completed.get? name = some value →
      spec.parameter? name = some parameter → parameter.check name value = .ok value) ↔
        spec.DefaultsHold supplied) ∧
    (spec.normalize completed = .ok completed ↔ spec.DefaultsHold supplied) ∧
    ∃ settled, spec.normalize completed = .ok settled ∧ spec.AllHold settled ∧
      spec.normalize settled = .ok settled := by
  have named := spec.settable_of_normalize type valid supplied completed normalized
  have forms := spec.allHold_iff_defaultsHold type valid supplied completed normalized
  refine ⟨named, ?_, ?_, ?_, spec.settled_of_normalize type valid supplied completed normalized⟩
  · intro name value parameter found declared
    refine (spec.origin_of_normalize type valid supplied completed normalized name value parameter
      found declared).imp_left ?_
    rintro ⟨former, present, checked⟩
    have holds := parameter.holds_of_check name former value checked
    exact ⟨former, present, checked, holds, (parameter.check_self_iff name value).mpr holds⟩
  · rw [← forms]
    simp only [ParameterSpec.check_self_iff, AllHold]
  · rw [← forms]
    exact spec.normalize_self_iff (spec.parameters_of_valid type valid).1 completed named

/-- A counting source of three elements, with a width of another type, is described completely:
the width was converted, and the defaults that were taken have the declared form. -/
theorem completed_counter :
    let supplied : Params := .ofList [("width", .scalar ⟨.int64, 3⟩)]
    let completed : Params := .ofList [("width", .scalar ⟨.uint32, 3⟩), ("start",
      .scalar ⟨.int32, 0⟩), ("step", .scalar ⟨.int32, 1⟩)]
    CounterSource.spec.validate "CounterSource" = .ok () ∧
      CounterSource.spec.normalize supplied = .ok completed ∧
      CounterSource.spec.normalize completed = .ok completed := by
  intro supplied completed
  have valid : CounterSource.spec.validate "CounterSource" = .ok () := by decide
  have normalized : CounterSource.spec.normalize supplied = .ok completed := by decide +kernel
  refine ⟨valid, normalized, ?_⟩
  refine (completed_of_valid _ _ valid supplied completed normalized).2.2.2.1.mpr ?_
  intro name parameter value declared _ _ given
  obtain ⟨_, _, split, _⟩ := List.lookup_eq_some_iff.mp declared
  have listed : (name, parameter) ∈ CounterSource.spec.parameters := by rw [split]; simp
  have all : ∀ entry ∈ CounterSource.spec.parameters, ∀ value ∈ entry.2.default,
      entry.2.check entry.1 value = .ok value := by decide
  exact (parameter.check_self_iff name value).mp (all (name, parameter) listed value given)

/-- A level whose default is told in another type than the level. -/
def levelled : Spec where
  description := ""
  parameters := [("level", { ParameterSpec.new .int32 .readWrite with
    default := some (.scalar ⟨.int64, 5⟩) })]
  inputs := []
  outputs := []

/-- So completed parameters do not always have the declared form, nor are they always complete:
the default of a level is taken over in its own type, and converted when they are completed
again. -/
theorem unconverted_levelled :
    ¬∀ (spec : Spec) (type : String) (supplied completed : Params),
      spec.validate type = .ok () → spec.normalize supplied = .ok completed →
        (∀ name value parameter, completed.get? name = some value →
          spec.parameter? name = some parameter → parameter.check name value = .ok value) ∧
        spec.normalize completed = .ok completed := by
  intro always
  obtain ⟨_, again⟩ := always levelled "Level" ∅ (.ofList [("level", .scalar ⟨.int64, 5⟩)])
    (by decide) (by decide)
  have converted : levelled.normalize (.ofList [("level", .scalar ⟨.int64, 5⟩)]) =
      .ok (.ofList [("level", .scalar ⟨.int32, 5⟩)]) := by decide
  rw [converted] at again
  exact absurd again (by decide)

end Spec

end RegionGraph

import RegionGraph.Builtin.Basic
import RegionGraph.Proofs.Completion
import RegionGraph.Proofs.Conversions
import RegionGraph.Proofs.Registries
import RegionGraph.Proofs.Texts

/-!
# Supplied parameters

Parameters for a new region are checked in two passes: over the supplied names in the order of
their bytes, then over the declared ones in the order of their declaration. Each pass stops at
the first name that has a fault, so what it answers is told by that name alone
(`convertSupplied_error_iff`, `fillDefaults_error_iff`), and parameters are admitted exactly if
neither pass meets one.

Which values fit a parameter is said by what their scalars stand for. Under its name a type is
then given the completed parameters, checked against the specification in force for that name.
-/

namespace RegionGraph

/-- The first binding of a map with a property is that of the least name in byte order. -/
theorem NameMap.first_iff {α : Type} (map : NameMap α) (flawed : String × α → Prop)
    (name : String) (value : α) : Traversal.First flawed map.entries (name, value) ↔
      map.get? name = some value ∧ flawed (name, value) ∧
        ∀ earlier other, Utf8.encode earlier < Utf8.encode name → map.get? earlier = some other →
          ¬flawed (earlier, other) := by
  constructor
  · rintro ⟨before, after, split, here, sound⟩
    have ascending := map.ascending
    rw [split] at ascending
    have found : map.get? name = some value :=
      map.get?_of_mem (name, value) (split ▸ List.mem_append_right before List.mem_cons_self)
    refine ⟨found, here, fun earlier other less bound => ?_⟩
    have member := split ▸ (map.mem_entries_iff earlier other).mpr bound
    rw [Utf8.encode_lt_iff] at less
    rcases List.mem_append.mp member with front | back
    · exact sound _ front
    · rcases List.mem_cons.mp back with same | later
      · cases same
        exact absurd less (String.lt_irrefl _)
      · obtain ⟨_, tail, _⟩ := List.pairwise_append.mp ascending
        exact absurd ((List.pairwise_cons.mp tail).1 _ later) (String.lt_asymm less)
  · rintro ⟨found, here, sound⟩
    obtain ⟨before, after, split⟩ := List.append_of_mem ((map.mem_entries_iff name value).mpr found)
    refine ⟨before, after, split, here, fun earlier front => ?_⟩
    have ascending := map.ascending
    rw [split] at ascending
    obtain ⟨_, _, across⟩ := List.pairwise_append.mp ascending
    refine sound earlier.1 earlier.2 ?_ (map.get?_of_mem earlier ?_)
    · exact (Utf8.encode_lt_iff _ _).mpr (across earlier front _ List.mem_cons_self)
    · exact split ▸ List.mem_append_left _ front

/-! ### Values that fit -/

/-- A scalar is an element of a type, or stands for something that an element of the type stands
for. -/
def Scalar.HeldIn (scalar : Scalar) (type : ElementType) : Prop :=
  scalar.type = type ∨ ∃ meaning value,
    scalar.meaning? = some meaning ∧ type.meaning? value = some meaning

/-- Exactly the scalars convert to a type that are held in it. -/
theorem Scalar.heldIn_iff (scalar : Scalar) (type : ElementType) :
    scalar.HeldIn type ↔ ∃ result, scalar.convert? type = some result := by
  by_cases own : scalar.type = type
  · exact ⟨fun _ => ⟨scalar, own ▸ scalar.convert?_self⟩, fun _ => Or.inl own⟩
  · rw [scalar.converts_iff type own, HeldIn, or_iff_right own]

namespace ParameterSpec

/-- The values that fit a declared parameter: texts for bytes without a count; else scalars and
sequences of the declared length, of scalars that are held in the declared type. -/
inductive Fits (parameter : ParameterSpec) : Value → Prop
  | text (content : String) (wanted : parameter.type = .byte ∧ parameter.count = 0) :
    Fits parameter (.text content)
  | scalar (s : Scalar) (plain : ¬(parameter.type = .byte ∧ parameter.count = 0))
    (few : parameter.count = 0 ∨ parameter.count = 1) (held : s.HeldIn parameter.type) :
    Fits parameter (.scalar s)
  | sequence (items : List Scalar) (plain : ¬(parameter.type = .byte ∧ parameter.count = 0))
    (length : parameter.count = 0 ∨ 1 < parameter.count ∧ items.length = parameter.count)
    (held : ∀ item ∈ items, item.HeldIn parameter.type) : Fits parameter (.sequence items)

/-- Text is wanted for bytes without a count. -/
theorem isText_iff (parameter : ParameterSpec) :
    parameter.isText = true ↔ parameter.type = .byte ∧ parameter.count = 0 := by
  rw [isText, Bool.and_eq_true, beq_iff_eq, beq_iff_eq]

/-- A value that was converted to the declared form was converted to the declared type. -/
theorem convert?_type (parameter : ParameterSpec) (value result : Value)
    (converted : parameter.convert? value = some result) :
    value.convert? parameter.type = some result := by
  unfold convert? at converted
  split at converted
  case isTrue wanted =>
    cases value with
    | text content =>
      cases converted
      rw [Value.convert?, if_pos ((parameter.isText_iff).mp wanted).1]
    | scalar s => cases converted
    | sequence items => cases converted
  case isFalse plain =>
    split at converted
    · exact converted
    · cases converted

/-- Exactly the values that fit are converted to the declared form. -/
theorem fits_iff (parameter : ParameterSpec) (value : Value) :
    parameter.Fits value ↔ ∃ result, parameter.convert? value = some result := by
  constructor
  · rintro (⟨content, wanted⟩ | ⟨s, plain, few, held⟩ | ⟨items, plain, length, held⟩)
    · exact ⟨.text content, by rw [convert?, if_pos ((parameter.isText_iff).mpr wanted)]; rfl⟩
    · obtain ⟨result, converted⟩ := (s.heldIn_iff parameter.type).mp held
      have admitted : parameter.admits (.scalar s) = true := decide_eq_true (by omega)
      refine ⟨.scalar result, ?_⟩
      rw [convert?, if_neg (mt (parameter.isText_iff).mp plain), if_pos admitted, Value.convert?,
        converted]
      rfl
    · have admitted : parameter.admits (.sequence items) = true := by
        simp only [admits, Bool.or_eq_true, Bool.and_eq_true, beq_iff_eq, decide_eq_true_eq]
        exact length.imp_right And.symm
      obtain ⟨results, each⟩ : ∃ results, List.Forall₂
          (fun item result => item.convert? parameter.type = some result) items results :=
        (Traversal.exists_forall₂_iff _ items).mpr fun item member =>
          (item.heldIn_iff parameter.type).mp (held item member)
      refine ⟨.sequence results, ?_⟩
      rw [convert?, if_neg (mt (parameter.isText_iff).mp plain), if_pos admitted, Value.convert?,
        (Scalar.mapM_convert_iff parameter.type items results).mpr each]
      rfl
  · rintro ⟨result, converted⟩
    unfold convert? at converted
    split at converted
    case isTrue wanted =>
      cases value with
      | text content => exact .text content ((parameter.isText_iff).mp wanted)
      | scalar s => cases converted
      | sequence items => cases converted
    case isFalse plain =>
      rw [parameter.isText_iff] at plain
      split at converted
      case isFalse _ => cases converted
      case isTrue admitted =>
        cases value with
        | text content => cases admitted
        | scalar s =>
          have few : parameter.count ≤ 1 := of_decide_eq_true admitted
          obtain ⟨result, typed, rfl⟩ := Option.map_eq_some_iff.mp converted
          exact .scalar s plain (by omega) ((s.heldIn_iff parameter.type).mpr ⟨result, typed⟩)
        | sequence items =>
          obtain ⟨results, all, rfl⟩ := Option.map_eq_some_iff.mp converted
          have each := (Scalar.mapM_convert_iff parameter.type items results).mp all
          simp only [admits, Bool.or_eq_true, Bool.and_eq_true, beq_iff_eq,
            decide_eq_true_eq] at admitted
          refine .sequence items plain (admitted.imp_right And.symm) fun item member => ?_
          exact (item.heldIn_iff parameter.type).mpr
            ((Traversal.exists_forall₂_iff _ items).mp ⟨results, each⟩ item member)

end ParameterSpec

namespace Spec

/-! ### Names that are refused -/

/-- A supplied value is accepted if its parameter is declared, may be given a value, and fits. -/
def Accepts (spec : Spec) (name : String) (value : Value) : Prop :=
  ∃ parameter, spec.parameter? name = some parameter ∧ parameter.access ≠ .readOnly ∧
    parameter.Fits value

/-- The faults for which a supplied value is refused. -/
inductive Refuses (spec : Spec) (name : String) (value : Value) : GraphError → Prop
  | undeclared (unknown : spec.parameter? name = none) :
    Refuses spec name value (.invalidParameter name .undeclared)
  | readOnly (parameter : ParameterSpec) (declared : spec.parameter? name = some parameter)
    (closed : parameter.access = .readOnly) :
    Refuses spec name value (.invalidParameter name .readOnly)
  | mismatch (parameter : ParameterSpec) (declared : spec.parameter? name = some parameter)
    (open_ : parameter.access ≠ .readOnly) (unfit : ¬parameter.Fits value) :
    Refuses spec name value
      (.parameterMismatch name parameter.expected (ParameterSpec.describe value))

/-- A declared parameter is missing if it has to be supplied and is not. -/
def Missing (supplied : Params) (entry : String × ParameterSpec) : Prop :=
  supplied.get? entry.1 = none ∧ entry.2.access ≠ .readOnly ∧ entry.2.default = none

/-- Exactly the accepted values pass their check. -/
theorem accepts_iff (spec : Spec) (name : String) (value : Value) :
    spec.Accepts name value ↔ ∃ result, spec.checkSupplied name value = .ok result := by
  simp only [checkSupplied_ok_iff, ParameterSpec.check_ok_iff]
  constructor
  · rintro ⟨parameter, declared, open_, fits⟩
    obtain ⟨result, converted⟩ := (parameter.fits_iff value).mp fits
    exact ⟨result, parameter, declared, open_, converted⟩
  · rintro ⟨result, parameter, declared, open_, converted⟩
    exact ⟨parameter, declared, open_, (parameter.fits_iff value).mpr ⟨result, converted⟩⟩

/-- A check fails exactly with the fault for which the value is refused. -/
theorem refuses_iff (spec : Spec) (name : String) (value : Value) (fault : GraphError) :
    spec.checkSupplied name value = .error fault ↔ spec.Refuses name value fault := by
  rw [checkSupplied]
  cases declared : spec.parameter? name with
  | none =>
    constructor
    · intro failed
      cases failed
      exact .undeclared declared
    · rintro (_ | ⟨parameter, other, _⟩ | ⟨parameter, other, _, _⟩)
      · rfl
      · cases declared.symm.trans other
      · cases declared.symm.trans other
  | some parameter =>
    dsimp only
    by_cases closed : parameter.access = .readOnly
    · rw [if_pos closed]
      constructor
      · intro failed
        cases failed
        exact .readOnly parameter declared closed
      · rintro (unknown | ⟨other, same, _⟩ | ⟨other, same, open_, _⟩)
        · cases declared.symm.trans unknown
        · rfl
        · cases declared.symm.trans same
          exact absurd closed open_
    · rw [if_neg closed, ParameterSpec.check]
      cases converted : parameter.convert? value with
      | some result =>
        constructor
        · intro failed
          cases failed
        · rintro (unknown | ⟨other, same, shut⟩ | ⟨other, same, _, unfit⟩)
          · cases declared.symm.trans unknown
          · cases declared.symm.trans same
            exact absurd shut closed
          · cases declared.symm.trans same
            exact absurd ((parameter.fits_iff value).mpr ⟨result, converted⟩) unfit
      | none =>
        have unfit : ¬parameter.Fits value := by
          rw [parameter.fits_iff, converted]
          rintro ⟨result, impossible⟩
          cases impossible
        constructor
        · intro failed
          cases failed
          exact .mismatch parameter declared closed unfit
        · rintro (unknown | ⟨other, same, shut⟩ | ⟨other, same, _, _⟩)
          · cases declared.symm.trans unknown
          · cases declared.symm.trans same
            exact absurd shut closed
          · cases declared.symm.trans same
            rfl

/-- Supplied values are refused for the first of them that is not accepted. -/
theorem convertSupplied_error_iff (spec : Spec) (entries : List (String × Value))
    (fault : GraphError) : spec.convertSupplied entries = .error fault ↔
      ∃ name value, Traversal.First (fun entry => ¬spec.Accepts entry.1 entry.2) entries
        (name, value) ∧ spec.Refuses name value fault := by
  induction entries with
  | nil =>
    constructor
    · intro failed
      cases failed
    · rintro ⟨name, value, impossible, _⟩
      exact (Traversal.not_first_nil _ _ impossible).elim
  | cons entry rest inductionHypothesis =>
    obtain ⟨key, supplied⟩ := entry
    simp only [Traversal.first_cons_iff]
    cases checked : spec.checkSupplied key supplied with
    | error cause =>
      have refused : ¬spec.Accepts key supplied := by
        rw [accepts_iff, checked]
        rintro ⟨result, impossible⟩
        cases impossible
      have stops : spec.convertSupplied ((key, supplied) :: rest) = .error cause := by
        rw [convertSupplied, checked]
        rfl
      have told : cause = fault ↔ spec.Refuses key supplied fault := by
        rw [← refuses_iff, checked, Except.error.injEq]
      rw [stops, Except.error.injEq, told]
      constructor
      · intro offence
        exact ⟨key, supplied, Or.inl ⟨refused, rfl⟩, offence⟩
      · rintro ⟨name, value, ⟨_, same⟩ | ⟨sound, _⟩, offence⟩
        · cases same
          exact offence
        · exact absurd refused sound
    | ok converted =>
      have accepted := (spec.accepts_iff key supplied).mpr ⟨converted, checked⟩
      have goesOn : spec.convertSupplied ((key, supplied) :: rest) = .error fault ↔
          spec.convertSupplied rest = .error fault := by
        rw [convertSupplied, checked, Traversal.ok_bind, Traversal.bind_error_iff]
        refine or_iff_left ?_
        rintro ⟨others, _, impossible⟩
        cases impossible
      rw [goesOn, inductionHypothesis]
      constructor
      · rintro ⟨name, value, first, offence⟩
        exact ⟨name, value, Or.inr ⟨not_not_intro accepted, first⟩, offence⟩
      · rintro ⟨name, value, ⟨refused, _⟩ | ⟨_, first⟩, offence⟩
        · exact absurd accepted refused
        · exact ⟨name, value, first, offence⟩

/-- Defaults are filled in unless a declared parameter is missing; the fault is told of the first
one that is declared. -/
theorem fillDefaults_error_iff (declared : List (String × ParameterSpec))
    (distinct : (declared.map Prod.fst).Nodup) (params : Params) (fault : GraphError) :
    fillDefaults declared params = .error fault ↔
      ∃ name parameter, Traversal.First (Missing params) declared (name, parameter) ∧
        fault = .missingParameter name := by
  induction declared generalizing params with
  | nil =>
    constructor
    · intro failed
      cases failed
    · rintro ⟨name, parameter, impossible, _⟩
      exact (Traversal.not_first_nil _ _ impossible).elim
  | cons entry rest inductionHypothesis =>
    obtain ⟨key, parameter⟩ := entry
    rw [List.map_cons, List.nodup_cons] at distinct
    simp only [Traversal.first_cons_iff]
    -- A head that is not missing is passed by; what it takes matters to no later name.
    have passes (former : Params) (present : ¬Missing params (key, parameter))
        (others : ∀ name, name ≠ key → former.get? name = params.get? name) :
        (fillDefaults rest former = .error fault ↔
          ∃ name other, (Missing params (key, parameter) ∧ (name, other) = (key, parameter) ∨
            ¬Missing params (key, parameter) ∧
              Traversal.First (Missing params) rest (name, other)) ∧
            fault = .missingParameter name) := by
      have agree (entry : String × ParameterSpec) (member : entry ∈ rest) :
          Missing former entry ↔ Missing params entry := by
        have apart : entry.1 ≠ key := fun same =>
          distinct.1 (List.mem_map.mpr ⟨entry, member, same⟩)
        rw [Missing, Missing, others entry.1 apart]
      rw [inductionHypothesis distinct.2]
      constructor
      · rintro ⟨name, other, first, same⟩
        exact ⟨name, other, Or.inr ⟨present, first.imp agree⟩, same⟩
      · rintro ⟨name, other, ⟨missing, _⟩ | ⟨_, first⟩, same⟩
        · exact absurd missing present
        · exact ⟨name, other, first.imp fun entry member => (agree entry member).symm, same⟩
    rw [fillDefaults]
    split
    case isTrue skipped =>
      refine passes params ?_ fun _ _ => rfl
      rintro ⟨absent, open_, _⟩
      rw [NameMap.contains, absent] at skipped
      exact skipped.elim Bool.false_ne_true open_
    case isFalse needed =>
      rw [not_or, NameMap.contains, Option.not_isSome_iff_eq_none] at needed
      obtain ⟨absent, open_⟩ := needed
      cases given : parameter.default with
      | some value =>
        refine passes (params.insert key value) ?_
          fun name other => params.get?_insert_of_ne value other
        rintro ⟨_, _, none⟩
        cases none.symm.trans given
      | none =>
        have missing : Missing params (key, parameter) := ⟨absent, open_, given⟩
        dsimp only
        constructor
        · intro failed
          cases failed
          exact ⟨key, parameter, Or.inl ⟨missing, rfl⟩, rfl⟩
        · rintro ⟨name, other, ⟨_, same⟩ | ⟨present, _⟩, rfl⟩
          · cases same
            rfl
          · exact absurd missing present

/-! ### Maps that are admitted -/

section

variable (spec : Spec) (supplied : Params)

/-- All supplied values are accepted. -/
def AcceptsAll : Prop := ∀ name value, supplied.get? name = some value → spec.Accepts name value

/-- Completed parameters have what the supplied values convert to under their names, the defaults
under the other names that may be given a value, and nothing else. -/
structure Completes (completed : Params) : Prop where
  converted : ∀ name value, supplied.get? name = some value → ∃ parameter result,
    spec.parameter? name = some parameter ∧ value.convert? parameter.type = some result ∧
      completed.get? name = some result
  defaulted : ∀ name parameter, supplied.get? name = none → spec.parameter? name = some parameter →
    parameter.access ≠ .readOnly → ∃ value, parameter.default = some value ∧
      completed.get? name = some value
  absent : ∀ name, supplied.get? name = none → ¬spec.Settable name → completed.get? name = none

/-- Parameters are admitted exactly if all supplied values are accepted and no declared parameter is
missing; then they are completed. Else the fault is that of the first name in byte order that is
refused, or if none is, that of the first in declaration order that is missing. -/
structure AdmitsExactly : Prop where
  accepts : (∃ completed, spec.normalize supplied = .ok completed) ↔
    spec.AcceptsAll supplied ∧
      ∀ name parameter, spec.parameter? name = some parameter → parameter.access ≠ .readOnly →
        parameter.default = none → ∃ value, supplied.get? name = some value
  completes : ∀ completed, spec.normalize supplied = .ok completed →
    spec.Completes supplied completed
  refuses : ∀ fault, spec.normalize supplied = .error fault ↔
    (∃ name value, supplied.get? name = some value ∧ spec.Refuses name value fault ∧
      ∀ earlier other, Utf8.encode earlier < Utf8.encode name →
        supplied.get? earlier = some other → spec.Accepts earlier other) ∨
    spec.AcceptsAll supplied ∧ ∃ name parameter,
      Traversal.First (Missing supplied) spec.parameters (name, parameter) ∧
        fault = .missingParameter name

/-- A refused value is not accepted. -/
theorem not_accepts_of_refuses (name : String) (value : Value) (fault : GraphError)
    (refused : spec.Refuses name value fault) : ¬spec.Accepts name value := by
  rw [← refuses_iff] at refused
  rw [accepts_iff, refused]
  rintro ⟨result, impossible⟩
  cases impossible

/-- Supplied values are converted together exactly if all are accepted. -/
theorem acceptsAll_iff : spec.AcceptsAll supplied ↔
    ∃ converted, spec.convertSupplied supplied.entries = .ok converted := by
  constructor
  · intro all
    cases converted : spec.convertSupplied supplied.entries with
    | ok params => exact ⟨params, rfl⟩
    | error fault =>
      obtain ⟨name, value, first, _⟩ := (spec.convertSupplied_error_iff _ fault).mp converted
      obtain ⟨found, refused, _⟩ := (supplied.first_iff _ name value).mp first
      exact absurd (all name value found) refused
  · rintro ⟨converted, passed⟩ name value found
    have accepted :=
      (spec.convertSupplied_ok_iff _ supplied.names_nodup converted).mp passed name
    change spec.accepted? name (supplied.get? name) = _ at accepted
    rw [found] at accepted
    obtain ⟨result, checked, _⟩ := (spec.accepted?_some_iff name value _).mp accepted
    exact (spec.accepts_iff name value).mpr ⟨result, checked⟩

/-- The values that were converted have the names of those supplied. -/
theorem missing_of_convertSupplied (converted : Params)
    (passed : spec.convertSupplied supplied.entries = .ok converted)
    (entry : String × ParameterSpec) : Missing converted entry ↔ Missing supplied entry := by
  have accepted :=
    (spec.convertSupplied_ok_iff _ supplied.names_nodup converted).mp passed entry.1
  change spec.accepted? entry.1 (supplied.get? entry.1) = _ at accepted
  have same : converted.get? entry.1 = none ↔ supplied.get? entry.1 = none := by
    cases found : supplied.get? entry.1 with
    | none =>
      rw [found] at accepted
      rw [← Option.some.inj accepted]
    | some value =>
      rw [found] at accepted
      obtain ⟨result, _, told⟩ := (spec.accepted?_some_iff entry.1 value _).mp accepted
      simp [told]
  rw [Missing, Missing, same]

/-- Parameters are refused for the first supplied name that is refused, or else for the first
declared one that is missing. -/
theorem normalize_error_iff (distinct : (spec.parameters.map Prod.fst).Nodup) (fault : GraphError) :
    spec.normalize supplied = .error fault ↔
      (∃ name value, supplied.get? name = some value ∧ spec.Refuses name value fault ∧
        ∀ earlier other, Utf8.encode earlier < Utf8.encode name →
          supplied.get? earlier = some other → spec.Accepts earlier other) ∨
      spec.AcceptsAll supplied ∧ ∃ name parameter,
        Traversal.First (Missing supplied) spec.parameters (name, parameter) ∧
          fault = .missingParameter name := by
  rw [normalize, Traversal.bind_error_iff, convertSupplied_error_iff]
  refine or_congr ?_ ?_
  · constructor
    · rintro ⟨name, value, first, refused⟩
      obtain ⟨found, _, earlier⟩ := (supplied.first_iff _ name value).mp first
      exact ⟨name, value, found, refused, fun former other less bound =>
        not_not.mp (earlier former other less bound)⟩
    · rintro ⟨name, value, found, refused, earlier⟩
      refine ⟨name, value, (supplied.first_iff _ name value).mpr ⟨found, ?_, ?_⟩, refused⟩
      · exact spec.not_accepts_of_refuses name value fault refused
      · exact fun former other less bound => not_not_intro (earlier former other less bound)
  · rw [acceptsAll_iff]
    constructor
    · rintro ⟨converted, passed, failed⟩
      obtain ⟨name, parameter, first, same⟩ :=
        (fillDefaults_error_iff _ distinct converted fault).mp failed
      exact ⟨⟨converted, passed⟩, name, parameter, first.imp fun entry _ =>
        spec.missing_of_convertSupplied supplied converted passed entry, same⟩
    · rintro ⟨⟨converted, passed⟩, name, parameter, first, same⟩
      refine ⟨converted, passed, (fillDefaults_error_iff _ distinct converted fault).mpr
        ⟨name, parameter, first.imp fun entry _ => ?_, same⟩⟩
      exact (spec.missing_of_convertSupplied supplied converted passed entry).symm

/-- Parameters are completed exactly if all supplied values are accepted and no declared parameter
is missing. -/
theorem normalize_isOk_iff (distinct : (spec.parameters.map Prod.fst).Nodup) :
    (∃ completed, spec.normalize supplied = .ok completed) ↔
      spec.AcceptsAll supplied ∧
        ∀ name parameter, spec.parameter? name = some parameter → parameter.access ≠ .readOnly →
          parameter.default = none → ∃ value, supplied.get? name = some value := by
  constructor
  · rintro ⟨completed, normalized⟩
    constructor
    · obtain ⟨converted, passed, _⟩ := (Traversal.bind_ok_iff _ _ _).mp normalized
      exact (spec.acceptsAll_iff supplied).mpr ⟨converted, passed⟩
    · intro name parameter declared open_ needed
      have given := (spec.normalize_ok_iff distinct supplied completed).mp normalized name
      cases found : supplied.get? name with
      | some value => exact ⟨value, rfl⟩
      | none =>
        rw [found, given?, accepted?, Option.bind_some, declared, filled?, if_neg open_,
          needed] at given
        cases given
  · rintro ⟨all, complete⟩
    cases normalized : spec.normalize supplied with
    | ok completed => exact ⟨completed, rfl⟩
    | error fault =>
      rcases (spec.normalize_error_iff supplied distinct fault).mp normalized with
        ⟨name, value, found, refused, _⟩ |
        ⟨_, name, parameter, ⟨before, after, split, missing, _⟩, _⟩
      · exact absurd (all name value found) (spec.not_accepts_of_refuses name value fault refused)
      · have declared : spec.parameter? name = some parameter := by
          rw [split, List.map_append, List.nodup_append] at distinct
          refine List.lookup_eq_some_iff.mpr ⟨before, after, split, fun entry front => ?_⟩
          rw [bne_iff_ne]
          exact (distinct.2.2 _ (List.mem_map_of_mem front) _ List.mem_cons_self).symm
        obtain ⟨absent, open_, needed⟩ := missing
        obtain ⟨value, found⟩ := complete name parameter declared open_ needed
        cases absent.symm.trans found

/-- What completed parameters have under each name. -/
theorem completes_of_normalize (distinct : (spec.parameters.map Prod.fst).Nodup)
    (completed : Params) (normalized : spec.normalize supplied = .ok completed) :
    spec.Completes supplied completed := by
  have given := (spec.normalize_ok_iff distinct supplied completed).mp normalized
  constructor
  · intro name value found
    have here := given name
    rw [found] at here
    cases bound : completed.get? name with
    | none =>
      rw [bound, given?_none_iff] at here
      cases here.1
    | some result =>
      rw [bound, given?_some_iff] at here
      obtain ⟨parameter, declared, _, ⟨_, ⟨⟩, checked⟩ | ⟨⟨⟩, _⟩⟩ := here
      rw [parameter.check_ok_iff] at checked
      exact ⟨parameter, result, declared, parameter.convert?_type value result checked, rfl⟩
  · intro name parameter absent declared open_
    have here := given name
    rw [absent] at here
    cases bound : completed.get? name with
    | none =>
      rw [bound, given?_none_iff] at here
      exact absurd ⟨parameter, declared, open_⟩ here.2
    | some result =>
      rw [bound, given?_some_iff] at here
      obtain ⟨same, declaredAlso, _, ⟨_, ⟨⟩, _⟩ | ⟨_, default⟩⟩ := here
      cases declared.symm.trans declaredAlso
      exact ⟨result, default, rfl⟩
  · intro name absent closed
    have here := given name
    rw [absent, (spec.given?_none_iff name none).mpr ⟨rfl, closed⟩] at here
    exact (Option.some.inj here).symm

/-- A valid specification admits exactly the parameters that fit it. -/
theorem admitsExactly_of_valid (type : String) (valid : spec.validate type = .ok ()) :
    spec.AdmitsExactly supplied := by
  have distinct := (spec.parameters_of_valid type valid).1
  exact ⟨spec.normalize_isOk_iff supplied distinct, spec.completes_of_normalize supplied distinct,
    spec.normalize_error_iff supplied distinct⟩

end

end Spec

namespace Registry

variable {κ : Type}

/-- An implementation is made of completed parameters by the type found under its name. -/
theorem run_create (registry : Registry κ) (name : String) (type : RegionType κ) (spec : Spec)
    (resolved : ((resolve name).run registry).1 = .ok type)
    (described : ((Registry.spec name).run registry).1 = .ok spec) (supplied : Params)
    (region : String) : ((create name supplied region).run registry).1 =
      (spec.normalize supplied).bind fun completed =>
        (type.create completed region name).map fun state => (state, completed) := by
  have inForce := (registry.described_iff name spec).mp described
  rcases ran : (resolve name).run registry with ⟨outcome, middle⟩
  rw [ran] at resolved
  cases resolved
  have kept : middle.described? name = some spec := by
    have same := registry.described_resolve name
    rw [ran] at same
    rw [← inForce, ← same]
  obtain ⟨last, _, _, told⟩ := middle.run_spec_described name
  rw [kept] at told
  rw [create, Edit.run_bind, ran]
  dsimp only
  rw [Edit.run_bind, told]
  dsimp only
  rw [Edit.run_bind, Edit.run_lift]
  cases spec.normalize supplied with
  | error fault => rfl
  | ok completed =>
    change ((liftM (type.create completed region name) >>= fun state =>
      pure (state, completed) : Consult κ (κ × Params)).run last).1 =
        (type.create completed region name).map fun state => (state, completed)
    rw [Edit.run_bind, Edit.run_lift]
    cases type.create completed region name <;> rfl

/-- Where a name has a type and a valid specification, exactly the parameters that fit the
specification are admitted. The type is given them completed; those that are not admitted end in
their fault.

The supplied names are looked at in their order and then the declarations in theirs; in both
passes the fault is that of the first that does not fit, by induction over the list. -/
theorem admits_of_described (registry : Registry κ) (name : String) (type : RegionType κ)
    (spec : Spec) (resolved : ((resolve name).run registry).1 = .ok type)
    (described : ((Registry.spec name).run registry).1 = .ok spec)
    (valid : spec.validate name = .ok ()) (supplied : Params) :
    spec.AdmitsExactly supplied ∧
      (∀ completed region, spec.normalize supplied = .ok completed →
        ((create name supplied region).run registry).1 =
          (type.create completed region name).map fun state => (state, completed)) ∧
      ∀ fault region, spec.normalize supplied = .error fault →
        ((create name supplied region).run registry).1 = .error fault := by
  refine ⟨spec.admitsExactly_of_valid supplied name valid, ?_, ?_⟩
  · intro completed region normalized
    rw [run_create registry name type spec resolved described supplied region, normalized]
    rfl
  · intro fault region refused
    rw [run_create registry name type spec resolved described supplied region, refused]
    rfl

/-- A counting source is made with a width of another type, but not with a depth. -/
theorem admits_counter :
    let registry := (∅ : Registry Builtin).registerAll Builtin.types
    let wide : Params := .ofList [("width", .scalar ⟨.int64, 3⟩)]
    let deep : Params := .ofList [("width", .scalar ⟨.int64, 3⟩), ("depth", .scalar ⟨.int64, 3⟩)]
    CounterSource.spec.AdmitsExactly wide ∧
      ((create "CounterSource" wide "source").run registry).1 =
        .ok (.counterSource ⟨3, 0, 1, 0⟩, .ofList [("width", .scalar ⟨.uint32, 3⟩),
          ("start", .scalar ⟨.int32, 0⟩), ("step", .scalar ⟨.int32, 1⟩)]) ∧
      ((create "CounterSource" deep "source").run registry).1 =
        .error (.invalidParameter "depth" .undeclared) := by
  intro registry wide deep
  have admits (supplied : Params) := admits_of_described registry "CounterSource"
    (CounterSource.type.map .counterSource) CounterSource.spec rfl rfl (by decide) supplied
  obtain ⟨exact, makes, _⟩ := admits wide
  obtain ⟨_, _, refuses⟩ := admits deep
  refine ⟨exact, ?_, ?_⟩
  · have normalized : CounterSource.spec.normalize wide = .ok (.ofList
        [("width", .scalar ⟨.uint32, 3⟩), ("start", .scalar ⟨.int32, 0⟩),
          ("step", .scalar ⟨.int32, 1⟩)]) := by decide +kernel
    rw [makes _ "source" normalized]
    rfl
  · exact refuses _ "source" (by decide)

end Registry

end RegionGraph

import RecordTypes.Proofs.Metadata.Field
import RecordTypes.Proofs.Reading.Readers

/-! How descriptors of fields lie in each other. A guard has to open each of them on the way down,
and if two guards do, a field is read in the same way under both. -/

namespace RecordTypes

/-- Whether the first type is opened here, the next one below it, and so on. -/
def Guard.opensAll (guard : Guard) : List FieldType → Bool
  | [] => true
  | type :: types => guard.opens type && guard.below.opensAll types

def temporalTypes : Json → List FieldType
  | .obj members =>
    match formOf TemporalType members with
    | .ok type => [.temporal type]
    | .error _ => []
  | _ => []

/-- The types of the descriptors, each the result of the one before, that are opened to read a
field. A descriptor without a known type is not opened. -/
def descriptorTypes : Json → List FieldType
  | .obj members =>
    match formOf FieldType members with
    | .error _ => []
    | .ok type =>
      match _h : rawResult members with
      | .value (some raw) =>
        match type with
        | .computed type => .computed type :: descriptorTypes raw
        | .timestamp type => .timestamp type :: temporalTypes raw
        | type => [type]
      | _ => [type]
  | _ => []
termination_by raw => sizeOf raw
decreasing_by
  have := sizeOf_rawResult_lt _h
  simp only [Json.obj.sizeOf_spec]
  omega

/-! ## Opening all of a list -/

namespace Guard

variable {guard : Guard}

theorem opensAll_cons {type : FieldType} {types : List FieldType} :
    guard.opensAll (type :: types) = true ↔
      guard.opens type = true ∧ guard.below.opensAll types = true := by
  rw [opensAll, Bool.and_eq_true]

theorem opensAll_of_below {types : List FieldType} (h : guard.below.opensAll types = true) :
    guard.opensAll types = true := by
  induction types generalizing guard with
  | nil => rfl
  | cons type types ih =>
    obtain ⟨htype, htypes⟩ := opensAll_cons.mp h
    exact opensAll_cons.mpr ⟨opens_of_below htype, ih htypes⟩

/-- What is opened after others is opened without them. -/
theorem opensAll_of_append {types more : List FieldType}
    (h : guard.opensAll (types ++ more) = true) : guard.opensAll more = true := by
  induction types generalizing guard with
  | nil => exact h
  | cons type types ih => exact opensAll_of_below (ih (opensAll_cons.mp h).2)

end Guard

/-! ## The raw result -/

theorem rawResult_of_obj {members inner : Members}
    (h : members.spelled? "options" = some (.obj inner)) {raw : Json}
    (hresult : inner.spelled? "result" = some raw) (hraw : raw ≠ .null) :
    rawResult members = .value (some raw) := by
  simp only [rawResult, withDefault, h, readModel, optional, hresult, readOrNull_of_ne hraw]
  rfl

/-- Only a raw result is read under the guard. -/
theorem readShape_timestamp (guard : Guard) (members : Members) (type : TimestampType) :
    readShape guard members (.timestamp type) =
      match rawResult members with
      | .value (some raw) => Shape.timestamp type <$>
          ((some <$> readTemporal guard.below raw).under (.key "result")).under (.key "options")
      | _ => readShape .standard members (.timestamp type) := by
  unfold rawResult readShape withDefault
  cases members.spelled? "options" with
  | none => rfl
  | some options =>
    cases options with
    | obj inner =>
      simp only [readTimestampResult, readModel, optional, withDefault]
      cases Members.spelled? inner "result" with
      | none => rfl
      | some raw =>
        by_cases hraw : raw = .null
        · subst hraw
          rfl
        · have hoptions : members.spelling "options" = "options" :=
            Members.spelling_of_same (by decide) members
          have hresult : Members.spelling inner "result" = "result" :=
            Members.spelling_of_same (by decide) inner
          simp only [readOrNull_of_ne hraw, hoptions, hresult]
          rfl
    | _ => rfl

theorem readTemporal_congr {guard other : Guard} {raw : Json}
    (h : guard.opensAll (temporalTypes raw) = true)
    (hother : other.opensAll (temporalTypes raw) = true) :
    readTemporal guard raw = readTemporal other raw := by
  cases raw with
  | obj members =>
    rw [temporalTypes] at h hother
    rw [readTemporal, readTemporal]
    cases hform : formOf TemporalType members with
    | error fault => rfl
    | ok type =>
      rw [hform] at h hother
      dsimp only
      rw [Guard.opening_of_opens (Guard.opensAll_cons.mp h).1,
        Guard.opening_of_opens (Guard.opensAll_cons.mp hother).1]
  | _ => rfl

theorem opensAll_of_readTemporal {guard : Guard} {raw : Json} {t : Temporal}
    (h : readTemporal guard raw = .value t) : guard.opensAll (temporalTypes raw) = true := by
  obtain ⟨members, rfl, hform, hopens, -⟩ := readTemporal_eq_value h
  rw [temporalTypes, hform]
  exact Guard.opensAll_cons.mpr ⟨hopens, rfl⟩

/-! ## The types of members -/

section
variable {members : Members}

theorem descriptorTypes_of_raw {type : FieldType} {raw : Json} :
    formOf FieldType members = .ok type → rawResult members = .value (some raw) →
      descriptorTypes (.obj members) =
        match type with
        | .computed type => .computed type :: descriptorTypes raw
        | .timestamp type => .timestamp type :: temporalTypes raw
        | type => [type] := by
  intro hform hraw
  rw [descriptorTypes, hform]
  dsimp only
  split
  · rename_i found hfound
    cases hraw.symm.trans hfound
    rfl
  · rename_i hnone
    exact absurd hraw (hnone raw)

theorem descriptorTypes_of_noRaw {type : FieldType} (hform : formOf FieldType members = .ok type)
    (hraw : ∀ raw, rawResult members ≠ .value (some raw)) :
    descriptorTypes (.obj members) = [type] := by
  rw [descriptorTypes, hform]
  dsimp only
  split
  · rename_i raw hfound
    exact absurd hfound (hraw raw)
  · rfl

theorem descriptorTypes_computed {type : ComputedType} {raw : Json}
    (hform : formOf FieldType members = .ok (.computed type))
    (hraw : rawResult members = .value (some raw)) :
    descriptorTypes (.obj members) = .computed type :: descriptorTypes raw :=
  descriptorTypes_of_raw hform hraw

theorem descriptorTypes_timestamp {type : TimestampType} {raw : Json}
    (hform : formOf FieldType members = .ok (.timestamp type))
    (hraw : rawResult members = .value (some raw)) :
    descriptorTypes (.obj members) = .timestamp type :: temporalTypes raw :=
  descriptorTypes_of_raw hform hraw

theorem descriptorTypes_of_other {type : FieldType} (hform : formOf FieldType members = .ok type)
    (hcomputed : ∀ t, type ≠ .computed t) (htimestamp : ∀ t, type ≠ .timestamp t) :
    descriptorTypes (.obj members) = [type] := by
  by_cases hraw : ∃ raw, rawResult members = .value (some raw)
  · obtain ⟨raw, hraw⟩ := hraw
    rw [descriptorTypes_of_raw hform hraw]
    cases type with
    | computed t => exact absurd rfl (hcomputed t)
    | timestamp t => exact absurd rfl (htimestamp t)
    | _ => rfl
  · exact descriptorTypes_of_noRaw hform fun raw hsome => hraw ⟨raw, hsome⟩

theorem descriptorTypes_of_form {type : FieldType} (hform : formOf FieldType members = .ok type) :
    ∃ types, descriptorTypes (.obj members) = type :: types := by
  by_cases hraw : ∃ raw, rawResult members = .value (some raw)
  · obtain ⟨raw, hraw⟩ := hraw
    rw [descriptorTypes_of_raw hform hraw]
    cases type <;> exact ⟨_, rfl⟩
  · exact ⟨[], descriptorTypes_of_noRaw hform fun raw hsome => hraw ⟨raw, hsome⟩⟩

end

/-! ## Fields under different guards -/

section
variable {members : Members} {guard other : Guard}
  (h : guard.opensAll (descriptorTypes (.obj members)) = true)
  (hother : other.opensAll (descriptorTypes (.obj members)) = true)
include h hother

theorem opens_of_form {type : FieldType} (hform : formOf FieldType members = .ok type) :
    guard.opens type = true ∧ other.opens type = true := by
  obtain ⟨types, htypes⟩ := descriptorTypes_of_form hform
  rw [htypes] at h hother
  exact ⟨(Guard.opensAll_cons.mp h).1, (Guard.opensAll_cons.mp hother).1⟩

theorem readShape_congr {type : FieldType} (hform : formOf FieldType members = .ok type) :
    readShape guard members type = readShape other members type := by
  cases type with
  | timestamp type =>
    rw [readShape_timestamp, readShape_timestamp other]
    cases hraw : rawResult members with
    | faulty issues => rfl
    | value result =>
      cases result with
      | none => rfl
      | some raw =>
        rw [descriptorTypes_timestamp hform hraw] at h hother
        have hresult : readTemporal guard.below raw = readTemporal other.below raw :=
          readTemporal_congr (Guard.opensAll_cons.mp h).2 (Guard.opensAll_cons.mp hother).2
        dsimp only
        rw [hresult]
  | _ => rfl

theorem readFieldWith_congr_of_plain {type : FieldType}
    (hform : formOf FieldType members = .ok type) (hplain : ∀ t, type ≠ .computed t) :
    readFieldWith guard (.obj members) = readFieldWith other (.obj members) := by
  obtain ⟨hopens, hopensOther⟩ := opens_of_form h hother hform
  rw [readFieldWith_plain guard hform hplain, readFieldWith_plain other hform hplain,
    Guard.opening_of_opens hopens, Guard.opening_of_opens hopensOther,
    readShape_congr h hother hform]

theorem readFieldWith_congr_of_computed {type : ComputedType}
    (hform : formOf FieldType members = .ok (.computed type))
    (hresult : ∀ raw, rawResult members = .value (some raw) →
      readFieldWith guard.below raw = readFieldWith other.below raw) :
    readFieldWith guard (.obj members) = readFieldWith other (.obj members) := by
  obtain ⟨hopens, hopensOther⟩ := opens_of_form h hother hform
  rw [readFieldWith_computed guard hform, readFieldWith_computed other hform,
    Guard.opening_of_opens hopens, Guard.opening_of_opens hopensOther]
  cases hraw : rawResult members with
  | faulty issues => rfl
  | value result =>
    cases result with
    | none => rfl
    | some raw =>
      dsimp only
      rw [hresult raw hraw]

end

/-- Two guards that open every descriptor of a field are the same to it. -/
theorem readFieldWith_congr {guard other : Guard} {raw : Json}
    (h : guard.opensAll (descriptorTypes raw) = true)
    (hother : other.opensAll (descriptorTypes raw) = true) :
    readFieldWith guard raw = readFieldWith other raw := by
  -- by the recursion that lists the types, so that both guards go down with every level
  induction raw using descriptorTypes.induct generalizing guard other with
  | case1 members fault hform => rw [readFieldWith, readFieldWith, hform]
  | case2 members result hraw type hform ih =>
    refine readFieldWith_congr_of_computed h hother hform fun found hfound => ?_
    cases hraw.symm.trans hfound
    rw [descriptorTypes_computed hform hraw] at h hother
    exact ih (Guard.opensAll_cons.mp h).2 (Guard.opensAll_cons.mp hother).2
  | case3 members result hraw type hform =>
    exact readFieldWith_congr_of_plain h hother hform fun _ => FieldType.noConfusion
  | case4 members result hraw type hplain _ hform =>
    exact readFieldWith_congr_of_plain h hother hform hplain
  | case5 members type hform hraw =>
    by_cases hplain : ∀ t, type ≠ .computed t
    · exact readFieldWith_congr_of_plain h hother hform hplain
    · obtain ⟨t, rfl⟩ : ∃ t, type = .computed t := by simpa using hplain
      exact readFieldWith_congr_of_computed h hother hform fun raw hfound => (hraw raw hfound).elim
  | case6 raw hraw => rw [readFieldWith_of_not_obj hraw, readFieldWith_of_not_obj hraw]

theorem opensAll_of_timestamp {guard : Guard} {members : Members} {type : TimestampType}
    {shape : Shape} (hform : formOf FieldType members = .ok (.timestamp type))
    (hopens : guard.opens (.timestamp type) = true)
    (hshape : readShape guard members (.timestamp type) = .value shape) :
    guard.opensAll (descriptorTypes (.obj members)) = true := by
  by_cases hraw : ∃ raw, rawResult members = .value (some raw)
  · obtain ⟨raw, hraw⟩ := hraw
    rw [readShape_timestamp, hraw] at hshape
    obtain ⟨result, hresult, -⟩ := Reading.map_eq_value hshape
    obtain ⟨temporal, htemporal, -⟩ := Reading.map_eq_value
      (Reading.under_eq_value (Reading.under_eq_value hresult))
    rw [descriptorTypes_timestamp hform hraw]
    exact Guard.opensAll_cons.mpr ⟨hopens, opensAll_of_readTemporal htemporal⟩
  · rw [descriptorTypes_of_noRaw hform fun raw hsome => hraw ⟨raw, hsome⟩]
    exact Guard.opensAll_cons.mpr ⟨hopens, rfl⟩

/-- What is read has been opened all the way down. -/
theorem opensAll_of_read {guard : Guard} {raw : Json} {field : Field}
    (h : readFieldWith guard raw = .value field) :
    guard.opensAll (descriptorTypes raw) = true := by
  induction field generalizing guard raw with
  | computed heading type result ih =>
    obtain ⟨members, rfl, hfrom⟩ := readFieldWith_eq_value_iff.mp h
    cases hfrom with
    | computed hform hopens hheading hraw hresult =>
      rw [descriptorTypes_computed hform hraw]
      exact Guard.opensAll_cons.mpr ⟨hopens, ih hresult⟩
  | plain heading shape =>
    obtain ⟨members, rfl, hfrom⟩ := readFieldWith_eq_value_iff.mp h
    cases hfrom with
    | unresolved hform hopens hheading hraw =>
      rw [descriptorTypes_of_noRaw hform fun raw hsome => by cases hraw.symm.trans hsome]
      exact Guard.opensAll_cons.mpr ⟨hopens, rfl⟩
    | @plain type _ _ hform hplain hopens hheading hshape =>
      by_cases htimestamp : ∀ t, type ≠ .timestamp t
      · rw [descriptorTypes_of_other hform hplain htimestamp]
        exact Guard.opensAll_cons.mpr ⟨hopens, rfl⟩
      · obtain ⟨t, rfl⟩ : ∃ t, type = .timestamp t := by simpa using htimestamp
        exact opensAll_of_timestamp hform hopens hshape

end RecordTypes

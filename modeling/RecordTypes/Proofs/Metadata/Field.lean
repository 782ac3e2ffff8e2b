import RecordTypes.Metadata.ToJson
import RecordTypes.Proofs.Metadata.Named
import RecordTypes.Proofs.Reading.Field
import RecordTypes.Proofs.Reading.Issues

/-! Fields that can be read within a guard: their numbers lie in range, and the guard opens them and
their results. Written out, they are read back as they are. -/

namespace RecordTypes

/-! ## Texts, names, numbers and lists -/

theorem readOrNull_textOrNull (s : Option String) :
    readOrNull readText (textOrNull s) = .value s := by
  cases s <;> rfl

theorem readName_nameJson {α : Type} [Named α] [LawfulNamed α] (a : α) :
    readName α (nameJson a) = .value a := by
  simp only [nameJson, readName, LawfulNamed.ofName?_name]

theorem readWithin_int {least greatest n : Nat} (hleast : least ≤ n) (hgreatest : n ≤ greatest) :
    readWithin least greatest (.int n) = .value n := by
  simp only [readWithin, readInteger, Reading.check]
  rw [if_neg (by omega), if_neg (by omega), Int.toNat_natCast]

theorem readWithin_eq_value {least greatest n : Nat} {raw : Json}
    (h : readWithin least greatest raw = .value n) : least ≤ n ∧ n ≤ greatest := by
  obtain ⟨k, -, hk⟩ := Reading.check_eq_value h
  split at hk
  · cases hk
  split at hk
  · cases hk
  cases hk
  omega

theorem readList_map {α : Type} {read : Json → Reading α} {write : α → Json} {as : List α}
    (h : ∀ a ∈ as, read (write a) = .value a) :
    readList read (.arr (as.map write)) = .value as := by
  rw [readList, readItems_eq_value_iff, List.forall₂_map_left_iff, List.forall₂_same]
  exact h

theorem withDefault_eq_value {α : Type} {key : String} {default a : α} {read : Json → Reading α}
    {members : Members} (h : withDefault key default read members = .value a) :
    a = default ∨ ∃ raw, members.spelled? key = some raw ∧ read raw = .value a := by
  unfold withDefault at h
  split at h
  · rename_i raw hraw
    exact Or.inr ⟨raw, hraw, Reading.under_eq_value h⟩
  · cases h
    exact Or.inl rfl

theorem optional_eq_some {α : Type} {key : String} {a : α} {read : Json → Reading α}
    {members : Members} (h : optional key read members = .value (some a)) :
    ∃ raw, members.spelled? key = some raw ∧ read raw = .value a := by
  obtain hnone | ⟨raw, hraw, hread⟩ := withDefault_eq_value h
  · cases hnone
  · cases raw with
    | null => cases hread
    | _ =>
      obtain ⟨b, hb, hba⟩ := Reading.map_eq_value hread
      cases hba
      exact ⟨_, hraw, hb⟩

/-! ## Options -/

theorem readChoice_toJson (choice : Choice) : readChoice choice.toJson = .value choice := by
  obtain ⟨id, name, color⟩ := choice
  cases color <;> rfl

theorem readTemporalFormat_toJson (f : TemporalFormat) :
    readTemporalFormat f.type f.toJson = .value f := by
  cases f with
  | date format =>
    obtain ⟨style, format⟩ := format
    cases style <;> rfl
  | dateTime date time timeZone =>
    obtain ⟨style, format⟩ := date
    obtain ⟨clock, format'⟩ := time
    cases style <;> cases clock <;> rfl

def fieldMembers (heading : Heading) (type : FieldType) (options : Json) : Members :=
  heading.toMembers ++ [("type", nameJson type), ("options", options)]

section
variable (heading : Heading) (type : FieldType) (options : Json)

theorem readHeading_fieldMembers :
    readHeading (fieldMembers heading type options) = .value heading := by
  obtain ⟨id, name, description⟩ := heading
  cases id <;> cases name <;> cases description <;> rfl

theorem formOf_fieldMembers : formOf FieldType (fieldMembers heading type options) = .ok type := by
  have hfind : (fieldMembers heading type options).find? "type" = some (nameJson type) := rfl
  simp only [formOf, hfind, nameJson, LawfulNamed.ofName?_name]

theorem required_options_fieldMembers {α : Type} (read : Json → Reading α) :
    required "options" read (fieldMembers heading type options) =
      (read options).under (.key "options") := rfl

theorem withDefault_options_fieldMembers {α : Type} (default : α) (read : Json → Reading α) :
    withDefault "options" default read (fieldMembers heading type options) =
      (read options).under (.key "options") := rfl

end

/-! ## Temporal results -/

theorem formOf_temporalMembers (heading : Heading) (type : TemporalType) (options : Json) :
    formOf TemporalType (fieldMembers heading (.temporal type) options) = .ok type := by
  have hfind : (fieldMembers heading (.temporal type) options).find? "type" =
      some (nameJson type) := rfl
  simp only [formOf, hfind, nameJson, LawfulNamed.ofName?_name]

theorem readTemporal_toJson {guard : Guard} {t : Temporal}
    (h : guard.opens (.temporal t.format.type) = true) :
    readTemporal guard t.toJson = .value t := by
  have hform := formOf_temporalMembers t.heading t.format.type t.format.toJson
  change readTemporal guard (.obj (fieldMembers _ _ _)) = _
  simp only [readTemporal, hform, Guard.opening_of_opens h, readTemporalAs,
    readHeading_fieldMembers, required_options_fieldMembers, readTemporalFormat_toJson]
  rfl

theorem type_of_readTemporalFormat {type : TemporalType} {raw : Json} {format : TemporalFormat}
    (h : readTemporalFormat type raw = .value format) : format.type = type := by
  cases raw with
  | obj members =>
    cases type with
    | date =>
      obtain ⟨format, -, rfl⟩ := Reading.map_eq_value h
      rfl
    | dateTime =>
      obtain ⟨ofZone, zone, hofZone, -, rfl⟩ := Reading.seq_eq_value h
      obtain ⟨ofTime, time, hofTime, -, rfl⟩ := Reading.seq_eq_value hofZone
      obtain ⟨format, -, rfl⟩ := Reading.map_eq_value hofTime
      rfl
  | _ => cases type <;> cases h

/-- What a temporal descriptor is read from. -/
theorem readTemporal_eq_value {guard : Guard} {raw : Json} {t : Temporal}
    (h : readTemporal guard raw = .value t) :
    ∃ members, raw = .obj members ∧ formOf TemporalType members = .ok t.format.type ∧
      guard.opens (.temporal t.format.type) = true ∧ readHeading members = .value t.heading ∧
      required "options" (readTemporalFormat t.format.type) members = .value t.format := by
  cases raw with
  | obj members =>
    rw [readTemporal] at h
    cases hform : formOf TemporalType members with
    | error fault =>
      rw [hform] at h
      cases h
    | ok type =>
      rw [hform] at h
      obtain ⟨hopens, hread⟩ := Guard.opening_eq_value (Reading.under_eq_value h)
      obtain ⟨ofFormat, format, hofFormat, hformat, rfl⟩ := Reading.seq_eq_value hread
      obtain ⟨heading, hheading, rfl⟩ := Reading.map_eq_value hofFormat
      obtain ⟨options, -, hoptions⟩ := required_eq_value hformat
      obtain rfl := type_of_readTemporalFormat hoptions
      exact ⟨members, rfl, hform, hopens, hheading, hformat⟩
  | _ => cases h

/-! ## Shapes -/

def Shape.FitsIn (guard : Guard) : Shape → Prop
  | .number _ precision => precision ≤ 8
  | .rating max _ _ => 1 ≤ max ∧ max ≤ 10
  | .timestamp _ (some t) => guard.below.opens (.temporal t.format.type) = true
  | _ => True

theorem readPrecision_options {precision : Nat} (h : precision ≤ 8) :
    readPrecision (.obj [("precision", .int precision)]) = .value precision := by
  change ((readWithin 0 8 (.int precision)).under (.key "precision")) = _
  rw [readWithin_int (Nat.zero_le _) h]
  rfl

theorem readTimestampResult_options {guard : Guard} {t : Temporal}
    (h : guard.below.opens (.temporal t.format.type) = true) :
    readTimestampResult guard (.obj [("result", t.toJson)]) = .value (some t) := by
  change (some <$> readTemporal guard.below t.toJson).under (.key "result") = _
  rw [readTemporal_toJson h]
  rfl

theorem readChoices_options (choices : List Choice) :
    readChoices (.obj [("choices", .arr (choices.map Choice.toJson))]) = .value choices := by
  change (readList readChoice (.arr (choices.map Choice.toJson))).under (.key "choices") = _
  rw [readList_map fun choice _ => readChoice_toJson choice]
  rfl

theorem readRating_options {max : Nat} (hleast : 1 ≤ max) (hgreatest : max ≤ 10)
    (icon : RatingIcon) (color : RatingColor) :
    readRating (.obj [("max", .int max), ("icon", nameJson icon), ("color", nameJson color)]) =
      .value (.rating max icon color) := by
  change Shape.rating <$> (readWithin 1 10 (.int max)).under (.key "max") <*>
    (readName RatingIcon (nameJson icon)).under (.key "icon") <*>
    (readName RatingColor (nameJson color)).under (.key "color") = _
  rw [readWithin_int hleast hgreatest, readName_nameJson, readName_nameJson]
  rfl

theorem readShape_optionsJson {guard : Guard} {shape : Shape} (hfits : shape.FitsIn guard)
    (hplain : ∀ t, shape.type ≠ .computed t) (heading : Heading) :
    readShape guard (fieldMembers heading shape.type shape.optionsJson) shape.type =
      .value shape := by
  cases shape with
  | basic type options => cases options <;> rfl
  | number type precision =>
    simp only [readShape, Shape.type, Shape.optionsJson, required_options_fieldMembers,
      readPrecision_options hfits]
    rfl
  | temporal format =>
    simp only [readShape, Shape.type, Shape.optionsJson, required_options_fieldMembers,
      readTemporalFormat_toJson]
    rfl
  | timestamp type result =>
    cases result with
    | none => rfl
    | some t =>
      simp only [readShape, Shape.type, Shape.optionsJson, withDefault_options_fieldMembers,
        readTimestampResult_options hfits]
      rfl
  | unresolved type => exact absurd rfl (hplain type)
  | choice type choices =>
    simp only [readShape, Shape.type, Shape.optionsJson, required_options_fieldMembers,
      readChoices_options]
    rfl
  | duration format => cases format <;> rfl
  | rating max icon color =>
    obtain ⟨hleast, hgreatest⟩ := hfits
    simp only [readShape, Shape.type, Shape.optionsJson, required_options_fieldMembers,
      readRating_options hleast hgreatest]
    rfl

theorem readRating_eq_value {raw : Json} {shape : Shape} (h : readRating raw = .value shape) :
    ∃ max icon color, shape = .rating max icon color ∧ 1 ≤ max ∧ max ≤ 10 := by
  cases raw with
  | obj members =>
    obtain ⟨ofColor, color, hofColor, -, rfl⟩ := Reading.seq_eq_value h
    obtain ⟨ofIcon, icon, hofIcon, -, rfl⟩ := Reading.seq_eq_value hofColor
    obtain ⟨max, hmax, rfl⟩ := Reading.map_eq_value hofIcon
    obtain ⟨raw, -, hraw⟩ := required_eq_value hmax
    exact ⟨max, icon, color, rfl, readWithin_eq_value hraw⟩
  | _ => cases h

theorem precision_le_of_readPrecision {raw : Json} {n : Nat} (h : readPrecision raw = .value n) :
    n ≤ 8 := by
  cases raw with
  | obj members =>
    obtain ⟨raw, -, hraw⟩ := required_eq_value h
    exact (readWithin_eq_value hraw).2
  | _ => cases h

theorem opens_of_readTimestampResult {guard : Guard} {raw : Json} {t : Temporal}
    (h : readTimestampResult guard raw = .value (some t)) :
    guard.below.opens (.temporal t.format.type) = true := by
  cases raw with
  | obj members =>
    obtain ⟨raw, -, hraw⟩ := optional_eq_some h
    obtain ⟨-, -, -, hopens, -⟩ := readTemporal_eq_value hraw
    exact hopens
  | _ => cases h

theorem type_of_readShape {guard : Guard} {members : Members} {type : FieldType} {shape : Shape}
    (h : readShape guard members type = .value shape) : shape.type = type := by
  cases type with
  | temporal type =>
    obtain ⟨format, hformat, rfl⟩ := Reading.map_eq_value h
    obtain ⟨raw, -, hraw⟩ := required_eq_value hformat
    rw [Shape.type, type_of_readTemporalFormat hraw]
  | computed type =>
    cases h
    rfl
  | rating =>
    obtain ⟨raw, -, hraw⟩ := required_eq_value h
    obtain ⟨max, icon, color, rfl, -⟩ := readRating_eq_value hraw
    rfl
  | _ =>
    obtain ⟨options, -, rfl⟩ := Reading.map_eq_value h
    rfl

theorem fitsIn_of_readShape {guard : Guard} {members : Members} {type : FieldType} {shape : Shape}
    (h : readShape guard members type = .value shape) : shape.FitsIn guard := by
  cases type with
  | basic type =>
    obtain ⟨options, -, rfl⟩ := Reading.map_eq_value h
    trivial
  | number type =>
    obtain ⟨precision, hprecision, rfl⟩ := Reading.map_eq_value h
    obtain ⟨raw, -, hraw⟩ := required_eq_value hprecision
    exact precision_le_of_readPrecision hraw
  | temporal type =>
    obtain ⟨format, -, rfl⟩ := Reading.map_eq_value h
    trivial
  | timestamp type =>
    obtain ⟨result, hresult, rfl⟩ := Reading.map_eq_value h
    cases result with
    | none => trivial
    | some t =>
      obtain hnone | ⟨raw, -, hraw⟩ := withDefault_eq_value hresult
      · cases hnone
      · exact opens_of_readTimestampResult hraw
  | computed type =>
    cases h
    trivial
  | choice type =>
    obtain ⟨choices, -, rfl⟩ := Reading.map_eq_value h
    trivial
  | duration =>
    obtain ⟨format, -, rfl⟩ := Reading.map_eq_value h
    trivial
  | rating =>
    obtain ⟨raw, -, hraw⟩ := required_eq_value h
    obtain ⟨max, icon, color, rfl, hbounds⟩ := readRating_eq_value hraw
    exact hbounds

/-! ## Fields -/

/-- A guard opens the field and all results that it holds. -/
def Field.FitsIn (guard : Guard) : Field → Prop
  | .plain _ shape => guard.opens shape.type = true ∧ shape.FitsIn guard
  | .computed _ type result => guard.opens (.computed type) = true ∧ result.FitsIn guard.below

theorem Field.fitsIn_of_read {guard : Guard} {raw : Json} {field : Field}
    (h : readFieldWith guard raw = .value field) : field.FitsIn guard := by
  induction field generalizing guard raw with
  | plain heading shape =>
    obtain ⟨members, -, hfrom⟩ := readFieldWith_eq_value_iff.mp h
    cases hfrom with
    | unresolved hform hopens hheading hraw => exact ⟨hopens, trivial⟩
    | plain hform hplain hopens hheading hshape =>
      rw [← type_of_readShape hshape] at hopens
      exact ⟨hopens, fitsIn_of_readShape hshape⟩
  | computed heading type result ih =>
    obtain ⟨members, -, hfrom⟩ := readFieldWith_eq_value_iff.mp h
    cases hfrom with
    | computed hform hopens hheading hraw hresult => exact ⟨hopens, ih hresult⟩

theorem rawResult_fieldMembers (heading : Heading) (type : FieldType) (raw : Json) :
    rawResult (fieldMembers heading type (.obj [("result", raw)])) =
      ((readOrNull .value raw).under (.key "result")).under (.key "options") := rfl

theorem Field.toJson_ne_null (field : Field) : field.toJson ≠ .null := by
  cases field <;> exact nofun

theorem readOrNull_of_ne {α : Type} {raw : Json} (h : raw ≠ .null) (read : Json → Reading α) :
    readOrNull read raw = some <$> read raw := by
  cases raw with
  | null => exact absurd rfl h
  | _ => rfl

theorem Field.readFieldWith_toJson {guard : Guard} {field : Field} (h : field.FitsIn guard) :
    readFieldWith guard field.toJson = .value field := by
  induction field generalizing guard with
  | plain heading shape =>
    obtain ⟨hopens, hshape⟩ := h
    refine FieldFrom.readFieldWith_eq ?_
    by_cases hplain : ∀ t, shape.type ≠ .computed t
    · exact .plain (formOf_fieldMembers ..) hplain hopens (readHeading_fieldMembers ..)
        (readShape_optionsJson hshape hplain heading)
    · cases shape with
      | unresolved type =>
        exact .unresolved (formOf_fieldMembers ..) hopens (readHeading_fieldMembers ..) rfl
      | _ => exact absurd (fun t => FieldType.noConfusion) hplain
  | computed heading type result ih =>
    obtain ⟨hopens, hresult⟩ := h
    refine FieldFrom.readFieldWith_eq ?_
    refine .computed (formOf_fieldMembers ..) hopens (readHeading_fieldMembers ..) ?_ (ih hresult)
    change rawResult (fieldMembers heading _ (.obj [("result", result.toJson)])) = _
    rw [rawResult_fieldMembers, readOrNull_of_ne result.toJson_ne_null]
    rfl

end RecordTypes

import RecordTypes.Proofs.Reading.Describe

/-! Every reader of metadata is described by the slot of its model, from the formats in the options
of a field up to whole documents. -/

namespace RecordTypes

open Model (describes_required describes_optional describes_withDefault)

/-! ## Types and headings -/

section
variable {m : Model} {members : Members}

theorem Model.Alike.formOf_eq {edited : Members} (h : m.Alike members edited)
    (hpart : ("type", .plain) ∈ m.parts members) (α : Type) [Named α] :
    formOf α edited = formOf α members := by
  have hfind (ms : Members) : ms.spelled? "type" = ms.find? "type" := by
    have hspelled : underscored "type" = "type" := by decide
    rw [Members.spelled?, hspelled]
    cases ms.find? "type" <;> rfl
  have hsame : edited.spelled? "type" = members.spelled? "type" := by
    obtain hsame | ⟨raw, raw', -, -, hedited⟩ := h "type" .plain hpart
    · exact hsame
    · cases hedited
  rw [hfind, hfind] at hsame
  simp only [formOf, hsame]

theorem describes_requiredPlain {α : Type} {key : String} {read : Json → Reading α}
    (hpart : (key, .plain) ∈ m.parts members) (h : ∀ raw, (read raw).IsWhole) :
    m.Describes (required key read) members :=
  describes_required hpart fun raw _ => Slot.describes_plain h raw

theorem describes_optionalPlain {α : Type} {key : String} {read : Json → Reading α}
    (hpart : (key, .plain) ∈ m.parts members) (h : ∀ raw, (read raw).IsWhole) :
    m.Describes (optional key read) members :=
  describes_optional hpart fun raw _ => Slot.describes_plain h raw

theorem describes_readHeading {options : Slot}
    (hparts : m.parts members = describedParts options) : m.Describes readHeading members := by
  have hpart (key : String) (hkey : key = "id" ∨ key = "name" ∨ key = "description") :
      (key, Slot.plain) ∈ m.parts members := by
    obtain rfl | rfl | rfl := hkey <;> simp [hparts, describedParts]
  exact (((describes_optionalPlain (hpart "id" (by simp)) isWhole_readText).map Heading.mk).seq
    (describes_optionalPlain (hpart "name" (by simp)) isWhole_readText)).seq
    (describes_optionalPlain (hpart "description" (by simp)) isWhole_readText)

theorem Model.Describes.opening {α : Type} {read : Members → Reading α}
    (h : m.Describes read members) (guard : Guard) (type : FieldType) :
    m.Describes (fun ms => guard.opening type (read ms)) members where
  unnoticed edited halike := by
    unfold Guard.opening
    split
    · exact h.unnoticed edited halike
    · rfl
  leads issue hissue := by
    unfold Guard.opening at hissue
    split at hissue
    · exact h.leads issue hissue
    · rw [Reading.isWhole_fault _ issue hissue]
      exact .here _ _

/-- Members that are read as their `type` says, under the name of the type. -/
def readByType {α β : Type} [Named α] (read : α → Members → Reading β) (members : Members) :
    Reading β :=
  match formOf α members with
  | .error fault => .fault fault
  | .ok type => (read type members).under (.tag (Named.name type))

theorem Slot.describes_tagged {α β : Type} [Named α] (read : α → Members → Reading β)
    {readTagged : Json → Reading β} {raw : Json}
    (hobj : ∀ members, readTagged (.obj members) = readByType read members)
    (hother : (∀ members, raw ≠ .obj members) → readTagged raw = .fault .untaggable)
    (htype : ∀ members, ("type", .plain) ∈ m.parts members)
    (htag : ∀ members, m.tag? members = typeName? α members)
    (h : ∀ members type, raw = .obj members → formOf α members = .ok type →
      m.Describes (read type) members) :
    (model m).Describes readTagged raw where
  unnoticed edited hedited := by
    cases raw with
    | obj members =>
      obtain ⟨members', rfl, halike⟩ := hedited.alike
      rw [hobj, hobj, readByType, readByType, halike.formOf_eq (htype members)]
      cases hform : formOf α members with
      | error fault => rfl
      | ok type =>
        dsimp only
        rw [Reading.outcome_under, Reading.outcome_under,
          (h members type rfl hform).unnoticed members' halike]
    | _ => cases hedited
  leads issue hissue := by
    by_cases hraw : ∃ members, raw = .obj members
    · obtain ⟨members, rfl⟩ := hraw
      rw [hobj, readByType] at hissue
      cases hform : formOf α members with
      | error fault =>
        rw [hform] at hissue
        rw [Reading.isWhole_fault _ issue hissue]
        exact .here _ _
      | ok type =>
        rw [hform] at hissue
        dsimp only at hissue
        rw [Reading.issues_under] at hissue
        obtain ⟨inner, hinner, rfl⟩ := List.mem_map.mp hissue
        have hname : m.tag? members = some (Named.name type) := by
          rw [htag, typeName?, hform]
        exact .tag hname ((h members type rfl hform).leads inner hinner)
    · rw [hother (by simpa using hraw)] at hissue
      rw [Reading.isWhole_fault _ issue hissue]
      exact .here _ _

end

/-! ## Options -/

section
variable (raw : Json)

theorem describes_readView : (Slot.model .view).Describes readView raw :=
  Slot.describes_model (fun _ _ =>
    (((describes_requiredPlain (by simp [Model.parts]) isWhole_readText).map View.mk).seq
      (describes_requiredPlain (by simp [Model.parts]) isWhole_readText)).seq
      (describes_requiredPlain (by simp [Model.parts]) isWhole_readName)) _

theorem describes_readChoice : (Slot.model .choice).Describes readChoice raw :=
  Slot.describes_model (fun _ _ =>
    (((describes_requiredPlain (by simp [Model.parts]) isWhole_readText).map Choice.mk).seq
      (describes_requiredPlain (by simp [Model.parts]) isWhole_readText)).seq
      (describes_optionalPlain (by simp [Model.parts]) isWhole_readText)) _

theorem describes_readDateFormat : (Slot.model .dateFormat).Describes readDateFormat raw :=
  Slot.describes_model (fun _ _ =>
    ((describes_requiredPlain (by simp [Model.parts]) isWhole_readName).map DateFormat.mk).seq
      (describes_requiredPlain (by simp [Model.parts]) isWhole_readText)) _

theorem describes_readTimeFormat : (Slot.model .timeFormat).Describes readTimeFormat raw :=
  Slot.describes_model (fun _ _ =>
    ((describes_requiredPlain (by simp [Model.parts]) isWhole_readName).map TimeFormat.mk).seq
      (describes_requiredPlain (by simp [Model.parts]) isWhole_readText)) _

theorem describes_readTemporalFormat (type : TemporalType) :
    type.optionsSlot.Describes (readTemporalFormat type) raw := by
  cases type with
  | date =>
    exact Slot.describes_model (fun _ _ =>
      (describes_required (by simp [Model.parts]) fun raw _ => describes_readDateFormat raw).map
        TemporalFormat.date) _
  | dateTime =>
    exact Slot.describes_model (fun _ _ =>
      (((describes_required (by simp [Model.parts]) fun raw _ => describes_readDateFormat raw).map
        TemporalFormat.dateTime).seq
        (describes_required (by simp [Model.parts]) fun raw _ => describes_readTimeFormat raw)).seq
        (describes_requiredPlain (by simp [Model.parts]) isWhole_readText)) _

theorem describes_readPrecision : (Slot.model .precision).Describes readPrecision raw :=
  Slot.describes_model
    (fun _ _ => describes_requiredPlain (by simp [Model.parts]) (isWhole_readWithin 0 8)) _

theorem describes_readChoices : (Slot.model .choices).Describes readChoices raw :=
  Slot.describes_model (fun _ _ => describes_withDefault (by simp [Model.parts])
    (fun _ _ => Slot.describes_list fun item _ _ _ => describes_readChoice item) []) _

theorem describes_readDurationFormat :
    (Slot.model .duration).Describes readDurationFormat raw :=
  Slot.describes_model (fun _ _ => describes_requiredPlain (by simp [Model.parts]) isWhole_readName) _

theorem describes_readRating : (Slot.model .rating).Describes readRating raw :=
  Slot.describes_model (fun _ _ =>
    (((describes_requiredPlain (by simp [Model.parts]) (isWhole_readWithin 1 10)).map Shape.rating).seq
      (describes_requiredPlain (by simp [Model.parts]) isWhole_readName)).seq
      (describes_requiredPlain (by simp [Model.parts]) isWhole_readName)) _

theorem describes_readTemporal (guard : Guard) :
    (Slot.model .temporal).Describes (readTemporal guard) raw := by
  refine Slot.describes_tagged
    (fun type ms => guard.opening (.temporal type) (readTemporalAs type ms)) ?_ ?_
    (fun _ => by simp [Model.parts, describedParts]) (fun _ => rfl) ?_
  · intro members
    rw [readTemporal, readByType]
    cases formOf TemporalType members <;> rfl
  · intro hraw
    cases raw with
    | obj members => exact absurd rfl (hraw members)
    | _ => rfl
  · intro members type _ hform
    have hoptions : ("options", type.optionsSlot) ∈ Model.temporal.parts members := by
      simp [Model.parts, describedParts, slotByType, hform]
    have hread := ((describes_readHeading rfl).map Temporal.mk).seq
      (describes_required hoptions fun raw _ => describes_readTemporalFormat raw type)
    exact hread.opening guard (.temporal type)

theorem describes_readTimestampResult (guard : Guard) :
    (Slot.model .timestamp).Describes (readTimestampResult guard) raw :=
  Slot.describes_model (fun _ _ => describes_optional (by simp [Model.parts])
    fun raw _ => describes_readTemporal raw guard.below) _

end

/-! ## Fields -/

/-- The options of a computed field, read down to the field that its result is. -/
def readComputedResult (guard : Guard) : Json → Reading (Option Field) :=
  readModel "ComputedOptions" (optional "result" (readFieldWith guard.below))

/-- A field of a known type. -/
def readFieldAs (guard : Guard) : FieldType → Members → Reading Field
  | .computed type, members =>
    (Field.computing · type ·) <$> readHeading members <*>
      withDefault "options" none (readComputedResult guard) members
  | type, members => Field.plain <$> readHeading members <*> readShape guard members type

theorem readFieldWith_computing (guard : Guard) {members : Members} {type : ComputedType}
    (h : formOf FieldType members = .ok (.computed type)) :
    readFieldWith guard (.obj members) = Reading.under (.tag (Named.name type))
      (guard.opening (.computed type) (readFieldAs guard (.computed type) members)) := by
  rw [readFieldWith_computed guard h, readFieldAs, rawResult, withDefault, withDefault]
  congr 2
  cases hoptions : members.spelled? "options" with
  | none => cases readHeading members <;> rfl
  | some options =>
    cases options with
    | obj inner =>
      simp only [readComputedResult, readModel, optional, withDefault]
      cases hresult : Members.spelled? inner "result" with
      | none => cases readHeading members <;> rfl
      | some raw =>
        by_cases hraw : raw = .null
        · subst hraw
          cases readHeading members <;> rfl
        · dsimp only
          rw [readOrNull_of_ne hraw, readOrNull_of_ne hraw, Members.spelling_of_same (by decide),
            Members.spelling_of_same (by decide)]
          change (Field.computed · type ·) <$> readHeading members <*>
            ((readFieldWith guard.below raw).under (.key "result")).under (.key "options") = _
          cases readHeading members <;> cases readFieldWith guard.below raw <;> rfl
    | _ => cases readHeading members <;> rfl

theorem readFieldWith_obj (guard : Guard) (members : Members) :
    readFieldWith guard (.obj members) =
      readByType (fun type ms => guard.opening type (readFieldAs guard type ms)) members := by
  rw [readByType]
  cases hform : formOf FieldType members with
  | error fault =>
    rw [readFieldWith, hform]
  | ok type =>
    cases type with
    | computed type => exact readFieldWith_computing guard hform
    | _ => exact readFieldWith_plain guard hform fun _ => FieldType.noConfusion

theorem readFieldWith_of_not_obj {raw : Json} (h : ∀ members, raw ≠ .obj members) (guard : Guard) :
    readFieldWith guard raw = .fault .untaggable := by
  rw [readFieldWith]
  exact h

theorem describes_readShape (guard : Guard) {members : Members} {type : FieldType}
    (hoptions : ("options", type.optionsSlot) ∈ Model.field.parts members) :
    Model.field.Describes (fun ms => readShape guard ms type) members := by
  cases type with
  | basic type => exact (describes_optionalPlain hoptions isWhole_readMembers).map (Shape.basic type)
  | number type =>
    exact (describes_required hoptions fun raw _ => describes_readPrecision raw).map (Shape.number type)
  | temporal type =>
    exact (describes_required hoptions fun raw _ => describes_readTemporalFormat raw type).map
      Shape.temporal
  | timestamp type =>
    exact (describes_withDefault hoptions
      (fun raw _ => describes_readTimestampResult raw guard) none).map (Shape.timestamp type)
  | computed type => exact ⟨fun _ _ => rfl, nofun⟩
  | choice type =>
    exact (describes_required hoptions fun raw _ => describes_readChoices raw).map (Shape.choice type)
  | duration =>
    exact (describes_required hoptions fun raw _ => describes_readDurationFormat raw).map Shape.duration
  | rating => exact describes_required hoptions fun raw _ => describes_readRating raw

theorem describes_readFieldWith (guard : Guard) (raw : Json) :
    (Slot.model .field).Describes (readFieldWith guard) raw := by
  refine Slot.describes_tagged
    (fun type ms => guard.opening type (readFieldAs guard type ms))
    (readFieldWith_obj guard) (fun hraw => readFieldWith_of_not_obj hraw guard)
    (fun _ => by simp [Model.parts, describedParts]) (fun _ => rfl) ?_
  intro members type hraw hform
  have hoptions : ("options", type.optionsSlot) ∈ Model.field.parts members := by
    simp [Model.parts, describedParts, slotByType, hform]
  refine Model.Describes.opening ?_ guard type
  cases type with
  | computed type =>
    refine ((describes_readHeading rfl).map _).seq
      (describes_withDefault hoptions (fun options hfound => ?_) none)
    refine Slot.describes_model (fun inner hinner => ?_) _
    have hpart : ("result", .model .field) ∈ Model.computed.parts inner := by simp [Model.parts]
    refine describes_optional hpart fun result hresult => ?_
    exact describes_readFieldWith guard.below result
  | _ => exact ((describes_readHeading rfl).map _).seq (describes_readShape guard hoptions)
termination_by sizeOf raw
decreasing_by
  have houter := Members.sizeOf_spelled?_lt hfound
  have hinner' := Members.sizeOf_spelled?_lt hresult
  subst hraw hinner
  simp only [Json.obj.sizeOf_spec] at houter ⊢
  omega

/-! ## Tables, bases and documents -/

section
variable (raw : Json)

theorem isWhole_checkIdentified (index : Nat) (fields : List Field) :
    (checkIdentified index fields).IsWhole := by
  induction fields generalizing index with
  | nil => exact Reading.isWhole_value ()
  | cons field fields ih =>
    rw [checkIdentified]
    split
    · exact ih (index + 1)
    · exact Reading.isWhole_fault _

theorem describes_readFields : (Slot.list .field).Describes readFields raw := by
  have hlist : (Slot.list .field).Describes (readList readField) raw :=
    Slot.describes_list fun item _ _ _ => describes_readFieldWith .standard item
  refine ⟨fun edited hedited => ?_, fun issue hissue => ?_⟩
  · have hsame := hlist.unnoticed edited hedited
    rw [readFields, readFields]
    cases hread : readList readField raw with
    | value fields =>
      rw [hread] at hsame
      rw [Reading.outcome_eq_ok_iff.mp hsame]
    | faulty issues =>
      rw [hread] at hsame
      cases hedited' : readList readField edited with
      | value fields =>
        rw [hedited'] at hsame
        cases hsame
      | faulty issues' =>
        rw [hedited'] at hsame
        exact hsame
  · rw [readFields] at hissue
    cases hread : readList readField raw with
    | value fields =>
      rw [hread] at hissue
      rw [(isWhole_checkIdentified 0 fields).map _ issue hissue]
      exact .here _ _
    | faulty issues =>
      rw [hread] at hissue
      exact hlist.leads issue (hread ▸ hissue)

theorem describes_readTable : (Slot.model .table).Describes readTable raw :=
  Slot.describes_model (fun _ _ =>
    ((((((describes_requiredPlain (by simp [Model.parts]) isWhole_readText).map Table.mk).seq
      (describes_requiredPlain (by simp [Model.parts]) isWhole_readText)).seq
      (describes_requiredPlain (by simp [Model.parts]) isWhole_readText)).seq
      (describes_optionalPlain (by simp [Model.parts]) isWhole_readText)).seq
      (describes_required (by simp [Model.parts]) fun raw _ => describes_readFields raw)).seq
      (describes_withDefault (by simp [Model.parts])
        (fun _ _ => Slot.describes_list fun item _ _ _ => describes_readView item) [])) _

theorem describes_readBase : (Slot.model .base).Describes readBase raw :=
  Slot.describes_model (fun _ _ =>
    (((describes_requiredPlain (by simp [Model.parts]) isWhole_readText).map Base.mk).seq
      (describes_requiredPlain (by simp [Model.parts]) isWhole_readText)).seq
      (describes_requiredPlain (by simp [Model.parts]) isWhole_readName)) _

theorem describes_readTables {m : Model} {members : Members}
    (hpart : ("tables", .list .table) ∈ m.parts members) : m.Describes readTables members :=
  describes_required hpart fun _ _ => Slot.describes_list fun item _ _ _ => describes_readTable item

theorem describes_readTableList : (Slot.model .tableList).Describes readTableList raw :=
  Slot.describes_model (fun _ _ => describes_readTables (by simp [Model.parts])) _

theorem describes_readBaseList : (Slot.model .baseList).Describes readBaseList raw :=
  Slot.describes_model (fun _ _ => describes_required (by simp [Model.parts])
    fun _ _ => Slot.describes_list fun item _ _ _ => describes_readBase item) _

theorem describes_readMetadata : (Slot.model .metadata).Describes readMetadata raw :=
  Slot.describes_model (fun _ _ =>
    ((describes_required (by simp [Model.parts]) fun raw _ => describes_readBase raw).map
      Metadata.mk).seq (describes_readTables (by simp [Model.parts]))) _

end

end RecordTypes

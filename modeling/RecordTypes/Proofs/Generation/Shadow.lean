import RecordTypes.Proofs.Code.Property
import RecordTypes.Proofs.Generation.Identifier
import RecordTypes.Proofs.Target.Chain
import RecordTypes.Proofs.Target.Class
import RecordTypes.Proofs.Text.SmallForm

/-! Properties that hide a type. A class looks names up in its own body first, so that a property
must not have the name of anything that the code of the class uses. Of all these names only those of
enumerations can be the name of a property, and only where letters have no capital form. -/

namespace RecordTypes

/-- No property of the class has a name that the code of its properties uses. -/
def ReadClass.HidesNothing (c : ReadClass) : Prop :=
  ∀ p ∈ c.properties, ∀ q ∈ c.properties, p.name ∉ usedNames q.code

instance (c : ReadClass) : Decidable c.HidesNothing :=
  inferInstanceAs (Decidable (∀ p ∈ c.properties, ∀ q ∈ c.properties, p.name ∉ usedNames q.code))

/-! ## Names that no property has -/

/-- A name that is taken, or has a capital in it. -/
def IsKeptOff (name : String) : Prop :=
  name ∈ reservedNames ∨ ¬ AreSmallForms name.toList

instance (name : String) : Decidable (IsKeptOff name) :=
  inferInstanceAs (Decidable (_ ∨ _))

theorem Field.isFreeName_propertyName (field : Field) : IsFreeName field.propertyName :=
  RecordTypes.isFreeName_propertyName field.label.toList

theorem Field.areSmallForms_propertyName (field : Field) :
    AreSmallForms field.propertyName.toList := by
  rw [Field.propertyName, String.toList_ofList]
  exact RecordTypes.areSmallForms_propertyName field.label.toList

theorem Field.not_isKeptOff_propertyName (field : Field) : ¬ IsKeptOff field.propertyName := by
  rintro (hreserved | hcapital)
  · exact field.isFreeName_propertyName.not_reserved hreserved
  · exact hcapital field.areSmallForms_propertyName

theorem isKeptOff_knownNames : ∀ shape? : Option SharedShape,
    ∀ name ∈ Target.model.knownNames shape?, IsKeptOff name := by
  intro shape?
  cases shape? with
  | none => decide +kernel
  | some shape => cases shape <;> decide +kernel

/-! ## Names that the code of a property uses -/

def frameNames : List String := ["Optional", "Field", "None", "True"]

theorem isKeptOff_frameNames : ∀ name ∈ frameNames, IsKeptOff name := by
  decide

theorem usesOnly_quotedDefault (key : String) (opening : List Char) (c : Char)
    (closing : List Char) (hopening : UsesOnly frameNames opening)
    (hstart : CodeState.start.after opening = CodeState.start)
    (hclosing : UsesOnly frameNames (c :: closing)) (hc : endsWord c = true) :
    UsesOnly frameNames (opening ++ (pythonDialect.quoted key).toList ++ c :: closing) := by
  have hkey : UsesOnly frameNames (pythonDialect.quoted key).toList :=
    UsesOnly.of_isNameless (by
      simpa [Dialect.quoted, pythonDialect] using isNameless_doubleQuoted key.toList) _
  exact hkey.enclosed c closing hopening hstart hclosing hc

theorem usesOnly_modelExpression (field : Field) (tableName : String) :
    UsesOnly (Target.model.knownNames field.valueType.shape? ++
        (field.enumeration? tableName).toList)
      (Target.model.fieldExpression tableName field).toList :=
  Target.model.usesOnly_expression (field.isName_enumeration? tableName) field.valueType

theorem mem_usedNames_propertyCode_iff (field : Field) (tableName : String) {name : String}
    (hname : name ∉ frameNames) :
    name ∈ usedNames (field.propertyCode tableName).toList ↔
      name ∈ usedNames (Target.model.fieldExpression tableName field).toList := by
  have hclosed := (usesOnly_modelExpression field tableName).closed
  have hkey := usesOnly_quotedDefault field.label
  have huses (c : Char) {chars : List Char} (h : UsesOnly frameNames (c :: chars)) :=
    holds_of_chars (P := fun s => UsesOnly frameNames (c :: s)) h
  have hstart (c : Char) {chars : List Char}
      (h : CodeState.start.after (c :: chars) = CodeState.start) :=
    holds_of_chars (P := fun s => CodeState.start.after (c :: s) = CodeState.start) h
  cases hreadOnly : field.isReadOnly with
  | true =>
    have hcode : (field.propertyCode tableName).toList =
        [] ++ (Target.model.fieldExpression tableName field).toList ++ ' ' ::
          ("= Field(alias=".toList ++ (pythonDialect.quoted field.label).toList ++
            ',' :: " frozen=True)".toList) := by
      simp [Field.propertyCode, Field.modelAnnotation, Field.modelDefault, hreadOnly]
    -- The character that ends the type belongs to the default too.
    have hdefault := hkey (' ' :: "= Field(alias=".toList) ',' " frozen=True)".toList
      (huses _ (by decide)) (hstart _ (by decide)) (huses _ (by decide)) (by decide)
    rw [hcode]
    exact mem_usedNames_enclosed_iff (by decide) rfl hclosed hdefault (by decide) hname
  | false =>
    have hcode : (field.propertyCode tableName).toList =
        "Optional[".toList ++ (Target.model.fieldExpression tableName field).toList ++ ']' ::
          (" = Field(default=None, alias=".toList ++
            (pythonDialect.quoted field.label).toList ++ [')']) := by
      simp [Field.propertyCode, Field.modelAnnotation, Field.modelDefault, hreadOnly]
    have hdefault := hkey (']' :: " = Field(default=None, alias=".toList) ')' []
      (huses _ (by decide)) (hstart _ (by decide)) (by decide) (by decide)
    have hopening : UsesOnly frameNames "Optional[".toList :=
      holds_of_chars (P := UsesOnly frameNames) (by decide)
    have hbegun : CodeState.start.after "Optional[".toList = CodeState.start :=
      holds_of_chars (P := fun s => CodeState.start.after s = CodeState.start) (by decide)
    rw [hcode]
    exact mem_usedNames_enclosed_iff hopening hbegun hclosed hdefault (by decide) hname

/-! ## The name of an enumeration -/

theorem mem_usedNames_fieldExpression {field : Field} {tableName name : String}
    (h : field.enumeration? tableName = some name) (hne : name ≠ "") :
    name ∈ usedNames (Target.model.fieldExpression tableName field).toList := by
  have henum : field.hasEnumeration = true := by
    by_contra hnone
    rw [Field.enumeration?, if_neg hnone] at h
    cases h
  have hname := field.isName_enumeration? tableName name h
  have hused : name ∈ usedNames name.toList := by
    rw [usedNames_of_not_startsWithDigit hname hne
      (startsWithDigit_enumeration? field tableName name h)]
    exact List.mem_cons_self
  rw [Target.fieldExpression, h]
  rcases exists_valueType_of_hasEnumeration henum with ⟨-, hvalue⟩ | ⟨-, hvalue⟩
  · rw [hvalue]
    exact hused
  · rw [hvalue]
    exact Target.model.mem_usedNames_list (UsesOnly.of_isName hname).closed hused

theorem propertyName_mem_usedNames_iff (field other : Field) (tableName : String) :
    other.propertyName ∈ usedNames (field.propertyCode tableName).toList ↔
      field.enumeration? tableName = some other.propertyName := by
  have hfree := other.not_isKeptOff_propertyName
  have hframe : other.propertyName ∉ frameNames := fun h => hfree (isKeptOff_frameNames _ h)
  rw [mem_usedNames_propertyCode_iff field tableName hframe]
  constructor
  · intro hused
    rcases List.mem_append.mp ((usesOnly_modelExpression field tableName).names _ hused) with
      hknown | henum
    · exact absurd (isKeptOff_knownNames _ _ hknown) hfree
    · exact Option.mem_toList.mp henum
  · intro henum
    exact mem_usedNames_fieldExpression henum other.isFreeName_propertyName.nonempty

/-- The enumeration of the field goes by the name of a property of its table. -/
def Field.IsHidden (field : Field) (table : Table) : Prop :=
  ∃ other ∈ table.fields, field.enumeration? table.name = some other.propertyName

instance (field : Field) (table : Table) : Decidable (field.IsHidden table) :=
  inferInstanceAs (Decidable (∃ other ∈ table.fields, _))

theorem Table.hidesNothing_modelClass_iff (table : Table) :
    table.modelClass.HidesNothing ↔ ∀ field ∈ table.fields, ¬ field.IsHidden table := by
  simp only [ReadClass.HidesNothing, Table.modelClass, List.forall_mem_map, Field.modelProperty,
    propertyName_mem_usedNames_iff, Field.IsHidden, not_exists, not_and]
  exact ⟨fun h field hfield other hother => h other hother field hfield,
    fun h other hother field hfield => h field hfield other hother⟩

/-! ## Words without capitals -/

/-- A word that has no capital even when its first letter is made one. -/
def IsUncapitalized (word : List Char) : Prop := AreSmallForms (capitalized word)

instance (word : List Char) : Decidable (IsUncapitalized word) :=
  inferInstanceAs (Decidable (AreSmallForms _))

theorem mem_pascalCase_of_mem_capitalized {s word : List Char} {c : Char}
    (hword : word ∈ splitWords s) (hc : c ∈ capitalized word) : c ∈ pascalCase s := by
  have hmem : c ∈ (splitWords s).flatMap capitalized := List.mem_flatMap.mpr ⟨word, hword, hc⟩
  unfold pascalCase
  dsimp only
  split
  · exact List.mem_cons_of_mem _ hmem
  · exact hmem

theorem Field.IsHidden.isUncapitalized {field : Field} {table : Table} (h : field.IsHidden table) :
    ∀ word ∈ splitWords table.name.toList ++ splitWords field.label.toList,
      IsUncapitalized word := by
  obtain ⟨other, -, hname⟩ := h
  have hchars : other.propertyName.toList =
      pascalCase table.name.toList ++ pascalCase field.label.toList := by
    unfold Field.enumeration? at hname
    split at hname
    · rw [← Option.some.inj hname]
      simp [enumerationName, pascalName]
    · cases hname
  have hsmall := other.areSmallForms_propertyName
  rw [hchars] at hsmall
  intro word hword c hc
  refine hsmall c ?_
  rw [List.mem_append] at hword ⊢
  exact hword.imp (mem_pascalCase_of_mem_capitalized · hc) (mem_pascalCase_of_mem_capitalized · hc)

/-! ## All classes of a text -/

namespace Target

def sharedClasses (fields : List Field) : List ReadClass :=
  (model.written fields).flatMap fun declaration => readClasses (model.sharedLines declaration)

theorem hasClasses_sharedLines : ∀ declaration ∈ model.sharedDeclarations,
    HasClasses (model.sharedLines declaration) (readClasses (model.sharedLines declaration)) := by
  have hfront : ∀ declaration ∈ model.sharedDeclarations,
      (openClasses (model.sharedLines declaration)).1 = [] := by decide +kernel
  exact fun declaration h => Prod.ext (hfront declaration h) rfl

theorem hidesNothing_shared : ∀ declaration ∈ model.sharedDeclarations,
    ∀ c ∈ readClasses (model.sharedLines declaration), c.HidesNothing := by
  decide +kernel

theorem hasClasses_table (fieldIds : Bool) (table : Table) :
    HasClasses (model.tableLines fieldIds table) [table.modelClass] := by
  have henumerations : HasClasses (model.enumerationBlock table) [] := by
    refine .of_classless (List.forall_mem_flatMap.mpr fun field _ => ?_)
    exact isClassless_enumerationLines table field
  have hlookups : HasClasses (if fieldIds then model.fieldLookupLines table else []) [] := by
    refine .of_classless ?_
    cases fieldIds with
    | true =>
      exact isClassless_lookup table.isName_fieldLookupName table.isCapitalized_fieldLookupName
        _ _ _ _
    | false => simp
  exact (henumerations.append (hasClasses_record table)).append hlookups

theorem readClasses_assemble (fieldIds : Bool) (base : Base) (tables : List Table) :
    readClasses (assemble .model fieldIds base tables).lines =
      sharedClasses (allFields tables) ++ tables.map Table.modelClass := by
  have hshared : HasClasses (model.sharedBlock (allFields tables))
      (sharedClasses (allFields tables)) :=
    .flatMap fun declaration h => hasClasses_sharedLines declaration (List.mem_filter.mp h).1
  have htables : HasClasses (model.tableBlocks fieldIds tables)
      (tables.flatMap fun table => [table.modelClass]) :=
    .flatMap fun table _ => hasClasses_table fieldIds table
  have hlookups : HasClasses (model.lookupBlock fieldIds tables) [] := by
    refine .of_classless ?_
    cases fieldIds with
    | true => exact isClassless_tableLookupLines tables
    | false => simp [lookupBlock]
  have hall := (((HasClasses.of_classless (isClassless_header base)).append hshared).append
    htables).append hlookups
  rw [assemble_eq, hall.readClasses_eq]
  simp [List.map_eq_flatMap]

theorem forall_hidesNothing_iff (fieldIds : Bool) (base : Base) (tables : List Table) :
    (∀ c ∈ readClasses (assemble .model fieldIds base tables).lines, c.HidesNothing) ↔
      ∀ table ∈ tables, ∀ field ∈ table.fields, ¬ field.IsHidden table := by
  have hshared : ∀ c ∈ sharedClasses (allFields tables), c.HidesNothing :=
    List.forall_mem_flatMap.mpr fun declaration h =>
      hidesNothing_shared declaration (List.mem_filter.mp h).1
  rw [readClasses_assemble, List.forall_mem_append, and_iff_right hshared, List.forall_mem_map]
  exact forall₂_congr fun table _ => table.hidesNothing_modelClass_iff

end Target

/-- No property of a class goes by a name that the code of the class uses, unless it is that of an
enumeration. Then neither the name of the table nor that of the field has a word with a capital. -/
theorem shadowing_of_generate {base : Base} {tables : List Table} {options : GenerationOptions}
    {text : String} (hmodel : options.target = .model)
    (h : generate base tables options = .ok text) :
    ∃ selected, selectIf tables options.requested = .ok selected ∧
      text = (assemble .model options.fieldIds base selected).text ∧
      readClasses (assemble .model options.fieldIds base selected).lines =
        Target.sharedClasses (allFields selected) ++ selected.map Table.modelClass ∧
      ((∀ c ∈ readClasses (assemble .model options.fieldIds base selected).lines,
          c.HidesNothing) ↔
        ∀ table ∈ selected, ∀ field ∈ table.fields, ¬ field.IsHidden table) ∧
      ∀ table ∈ selected, ∀ field ∈ table.fields, field.IsHidden table →
        ∀ word ∈ splitWords table.name.toList ++ splitWords field.label.toList,
          IsUncapitalized word := by
  obtain ⟨selected, hselect, htext, -⟩ := generate_eq_ok h
  rw [hmodel] at htext
  exact ⟨selected, hselect, htext, Target.readClasses_assemble _ _ _,
    Target.forall_hidesNothing_iff _ _ _, fun _ _ _ _ hhidden => hhidden.isUncapitalized⟩

/-- A capital in the name of a table is enough for its class to hide nothing. -/
theorem plans_hide_nothing :
    modelOptions.target = .model ∧
    generate plansBase [plansTable "Plans für 2025" [stateField]] modelOptions =
      .ok (assemble .model true plansBase [plansTable "Plans für 2025" [stateField]]).text ∧
    ∃ selected, selectIf [plansTable "Plans für 2025" [stateField]] none = .ok selected ∧
      ∀ c ∈ readClasses (assemble .model true plansBase selected).lines, c.HidesNothing := by
  obtain ⟨selected, hselect, -, -, hhides, hwords⟩ := shadowing_of_generate rfl generate_plans
  refine ⟨rfl, generate_plans, selected, hselect, hhides.mpr ?_⟩
  intro table htable field hfield hhidden
  have hword := hwords table htable field hfield hhidden "Plans".toList
  cases hselect
  rw [List.mem_singleton.mp htable] at hword
  have hmem : "Plans".toList ∈ splitWords "Plans für 2025".toList := by decide +kernel
  have hcapital : ¬ IsUncapitalized "Plans".toList := by decide +kernel
  exact hcapital (hword (List.mem_append_left _ hmem))

def conditionField : Field :=
  .plain ⟨some "fldS", some "状態", none⟩ (.choice .singleSelect [⟨"selO", "未着手", none⟩])

/-- No letter of the field has a capital form and the name of the table has no words, so that the
enumeration and the property go by one name. -/
theorem condition_is_hidden :
    generate plansBase [plansTable "📦" [conditionField]] ⟨.python, .schemas, false, none⟩ =
      .ok (assemble .model false plansBase [plansTable "📦" [conditionField]]).text ∧
    conditionField.propertyName ∈ usedNames (conditionField.modelAnnotation "📦").toList ∧
    ¬ ∀ c ∈ readClasses
      (assemble .model false plansBase [plansTable "📦" [conditionField]]).lines,
        c.HidesNothing := by
  refine ⟨generate_of_nodup plansBase _ _ rfl (by decide +kernel), by decide +kernel, ?_⟩
  rw [Target.forall_hidesNothing_iff]
  intro h
  have hhidden : conditionField.IsHidden (plansTable "📦" [conditionField]) := by decide +kernel
  exact h _ List.mem_cons_self _ List.mem_cons_self hhidden

end RecordTypes

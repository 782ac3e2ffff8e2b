import RecordTypes.Proofs.Target.Block

/-! Classes read back from the lines of models. A class is begun by its own line, and a property
of it is indented once and has a colon after its name. No other lines look like that. -/

namespace RecordTypes

/-- What a class says of a property: its name, and the code after the colon, which is made up of
an annotation and a default. -/
structure ReadProperty where
  name : String
  code : List Char
  deriving DecidableEq

structure ReadClass where
  name : String
  properties : List ReadProperty
  deriving DecidableEq

def readProperty? (line : List Char) : Option ReadProperty := do
  let rest ← line.dropPrefix? "    ".toList
  let code ← (nameAndRest rest).2.dropPrefix? ": ".toList
  return ⟨String.ofList (nameAndRest rest).1, code⟩

/-- The properties before the first class in the lines, and the classes. -/
def openClasses : List String → List ReadProperty × List ReadClass
  | [] => ([], [])
  | line :: rest =>
    match className? line.toList with
    | some name => ([], ⟨name, (openClasses rest).1⟩ :: (openClasses rest).2)
    | none => ((readProperty? line.toList).toList ++ (openClasses rest).1, (openClasses rest).2)

def readClasses (lines : List String) : List ReadClass := (openClasses lines).2

theorem openClasses_append {rest : List String} (hrest : (openClasses rest).1 = [])
    (lines : List String) :
    openClasses (lines ++ rest) =
      ((openClasses lines).1, (openClasses lines).2 ++ (openClasses rest).2) := by
  induction lines with
  | nil => rw [List.nil_append, openClasses, ← hrest, List.nil_append]
  | cons line lines ih =>
    rw [List.cons_append, openClasses, openClasses, ih]
    cases className? line.toList <;> rfl

/-- The lines hold the classes, and no properties before the first of them. -/
def HasClasses (lines : List String) (classes : List ReadClass) : Prop :=
  openClasses lines = ([], classes)

theorem HasClasses.readClasses_eq {lines : List String} {classes : List ReadClass}
    (h : HasClasses lines classes) : readClasses lines = classes := by
  rw [readClasses, h]

theorem HasClasses.append {lines lines' : List String} {classes classes' : List ReadClass}
    (h : HasClasses lines classes) (h' : HasClasses lines' classes') :
    HasClasses (lines ++ lines') (classes ++ classes') := by
  rw [HasClasses, openClasses_append (by rw [h']), h, h']

theorem HasClasses.flatMap {α : Type} {lines : α → List String} {classes : α → List ReadClass}
    {xs : List α} (h : ∀ x ∈ xs, HasClasses (lines x) (classes x)) :
    HasClasses (xs.flatMap lines) (xs.flatMap classes) := by
  induction xs with
  | nil => rfl
  | cons x xs ih =>
    rw [List.flatMap_cons, List.flatMap_cons]
    exact (h x List.mem_cons_self).append (ih fun y hy => h y (List.mem_cons_of_mem _ hy))

/-- A line that neither begins a class nor has a property. -/
structure IsClassless (line : String) : Prop where
  noClass : className? line.toList = none
  noProperty : readProperty? line.toList = none

instance (line : String) : Decidable (IsClassless line) :=
  decidable_of_iff (className? line.toList = none ∧ readProperty? line.toList = none)
    ⟨fun h => ⟨h.1, h.2⟩, fun h => ⟨h.noClass, h.noProperty⟩⟩

theorem openClasses_classless {line : String} (h : IsClassless line) (rest : List String) :
    openClasses (line :: rest) = openClasses rest := by
  simp [openClasses, h.noClass, h.noProperty]

theorem HasClasses.of_classless {lines : List String} (h : ∀ line ∈ lines, IsClassless line) :
    HasClasses lines [] := by
  induction lines with
  | nil => rfl
  | cons line lines ih =>
    rw [HasClasses, openClasses_classless (h line List.mem_cons_self)]
    exact ih fun l hl => h l (List.mem_cons_of_mem _ hl)

/-! ## Lines without classes -/

theorem className?_of_head {line : List Char} (h : line.head? ≠ some 'c') :
    className? line = none := by
  cases line with
  | nil => rfl
  | cons c rest =>
    have hc : c ≠ 'c' := by simpa using h
    simp [className?, List.dropPrefix?, hc]

theorem readProperty?_of_head {c : Char} (hc : c ≠ ' ') (rest : List Char) :
    readProperty? (c :: rest) = none := by
  simp [readProperty?, List.dropPrefix?, hc]

theorem IsClassless.of_capitalized {name rest : List Char} {line : String}
    (hline : line.toList = name ++ rest) (hname : IsName name) (hcapital : IsCapitalized name)
    (hrest : ¬ "  ".toList <+: rest ∧ rest.head? ≠ some 'c') : IsClassless line := by
  cases name with
  | nil =>
    rw [List.nil_append] at hline
    refine ⟨by rw [hline, className?_of_head hrest.2], ?_⟩
    have hblanks : ¬ "    ".toList <+: rest := fun h =>
      hrest.1 (List.IsPrefix.trans ⟨"  ".toList, rfl⟩ h)
    rw [hline, readProperty?, dropPrefix?_eq_none hblanks]
    rfl
  | cons c name =>
    have hsmall := hcapital c rfl
    have hc : c ≠ 'c' := by rintro rfl; cases hsmall
    have hblank : c ≠ ' ' := by
      rintro rfl
      exact absurd (hname ' ' List.mem_cons_self) (by decide)
    rw [List.cons_append] at hline
    exact ⟨by rw [hline, className?_of_head (by simpa using hc)],
      by rw [hline, readProperty?_of_head hblank]⟩

theorem IsClassless.of_mark {line : String} {c : Char} (h : line.toList.head? = some c)
    (hblank : c ≠ ' ') (hletter : c ≠ 'c') : IsClassless line := by
  obtain ⟨rest, hline⟩ := List.head?_eq_some_iff.mp h
  refine ⟨className?_of_head (by simpa [h] using hletter), ?_⟩
  rw [hline]
  exact readProperty?_of_head hblank rest

theorem IsClassless.of_indented_mark {s : String} {c : Char} (h : s.toList.head? = some c)
    (hmark : Target.isMark c = true) : IsClassless (pythonDialect.indented 1 s) := by
  simp only [Target.isMark, Bool.and_eq_true, Bool.not_eq_true', bne_iff_ne] at hmark
  obtain ⟨rest, hs⟩ := List.head?_eq_some_iff.mp h
  have hline : (pythonDialect.indented 1 s).toList = "    ".toList ++ c :: rest := by
    simp [Dialect.indented, pythonDialect, hs, List.replicate]
  refine ⟨?_, ?_⟩
  · rw [hline]
    exact className?_of_head (by simp)
  · rw [hline]
    simp [readProperty?, nameAndRest, List.dropPrefix?, hmark.1.1, hmark.2]

namespace Target

theorem isClassless_empty : IsClassless "" := by decide

theorem isClassless_docstring (s : String) : IsClassless (pythonDialect.docstring 1 s) :=
  .of_indented_mark (c := quotationMark) (by simp [pythonDialect, quotationMark]) (by decide)

theorem isClassless_remark (s : String) : IsClassless (pythonDialect.docstring 0 s) :=
  .of_mark (c := quotationMark)
    (by simp [Dialect.docstring, Dialect.indented, pythonDialect, quotationMark]) (by decide)
    (by decide)

theorem isClassless_comment (s : String) : IsClassless (pythonDialect.comment s) :=
  .of_mark (c := '#') (by simp [Dialect.comment, pythonDialect]) (by decide) (by decide)

theorem isClassless_quoted (s rest : String) :
    IsClassless (pythonDialect.indented 1 (pythonDialect.quoted s ++ rest)) :=
  .of_indented_mark (c := quotationMark)
    (by simp [pythonDialect, Dialect.quoted, doubleQuoted]) (by decide)

theorem isClassless_lookup {name : String} (hname : IsName name.toList)
    (hcapital : IsCapitalized name.toList) (key value : String) (quoteValues : Bool)
    (pairs : List (String × String)) :
    ∀ line ∈ pythonDialect.lookup name key value quoteValues pairs, IsClassless line := by
  have hopening : IsClassless (pythonDialect.lookupOpening name key value) := by
    have hline : (pythonDialect.lookupOpening name key value).toList =
        name.toList ++ (": dict[" ++ key ++ ", " ++ value ++ "] = \x7b").toList := by
      simp [pythonDialect]
    exact .of_capitalized hline hname hcapital ⟨by simp, by simp⟩
  have hclosing : ∀ line ∈ [pythonDialect.lookupClosing, ""], IsClassless line := by decide
  refine List.forall_mem_cons.mpr ⟨hopening, List.forall_mem_append.mpr ⟨?_, hclosing⟩⟩
  intro line hline
  obtain ⟨⟨k, v⟩, -, rfl⟩ := List.mem_map.mp hline
  simp only [Dialect.lookupRow, String.append_assoc]
  exact isClassless_quoted k _

theorem isClassless_enumerationLines (table : Table) (field : Field) :
    ∀ line ∈ model.enumerationLines table field, IsClassless line := by
  have hopening : IsClassless (enumerationName table.name field ++ " = Literal[") :=
    .of_capitalized String.toList_append (isName_enumerationName table.name field)
      (isCapitalized_enumerationName table.name field) (by decide)
  have hitems : ∀ line ∈ pythonDialect.quotedItems field.choiceNames, IsClassless line := by
    intro line hline
    obtain ⟨item, -, rfl⟩ := List.mem_map.mp hline
    exact isClassless_quoted item ","
  have hclosing : IsClassless "]" := by decide
  have hremark := isClassless_remark
    ("Select options for \x60" ++ oneLineText field.label ++ "\x60")
  simp only [enumerationLines, literalLines, List.cons_append, List.forall_mem_cons,
    List.forall_mem_append]
  exact ⟨hopening, ⟨hitems, hclosing, by simp⟩, hremark, isClassless_empty, by simp⟩

theorem isClassless_header (base : Base) : ∀ line ∈ model.header base, IsClassless line := by
  have hcomment := isClassless_comment
  have hbanner : ∀ line ∈ pythonDialect.banner, IsClassless line := by
    simp only [Dialect.banner, List.forall_mem_cons]
    exact ⟨hcomment _, hcomment _, hcomment _, isClassless_empty, List.forall_mem_nil _⟩
  have himports : ∀ line ∈ model.importLines, IsClassless line := by decide +kernel
  refine List.forall_mem_append.mpr ⟨List.forall_mem_append.mpr ⟨hbanner, ?_⟩, himports⟩
  exact List.forall_mem_cons.mpr ⟨hcomment _, List.forall_mem_singleton.mpr isClassless_empty⟩

theorem isClassless_tableLookupLines (tables : List Table) :
    ∀ line ∈ model.tableLookupLines tables, IsClassless line :=
  List.forall_mem_append.mpr
    ⟨isClassless_lookup (by decide) (by decide) _ _ _ _,
      isClassless_lookup (by decide) (by decide) _ _ _ _⟩

end Target

/-! ## The class of a table -/

def Field.modelAnnotation (field : Field) (tableName : String) : String :=
  if field.isReadOnly then Target.model.fieldExpression tableName field
  else "Optional[" ++ Target.model.fieldExpression tableName field ++ "]"

def Field.modelDefault (field : Field) : String :=
  if field.isReadOnly then "Field(alias=" ++ pythonDialect.quoted field.label ++ ", frozen=True)"
  else "Field(default=None, alias=" ++ pythonDialect.quoted field.label ++ ")"

/-- The code after the colon of a property. -/
def Field.propertyCode (field : Field) (tableName : String) : String :=
  field.modelAnnotation tableName ++ " = " ++ field.modelDefault

def Field.modelProperty (field : Field) (tableName : String) : ReadProperty :=
  ⟨field.propertyName, (field.propertyCode tableName).toList⟩

def Table.modelClass (table : Table) : ReadClass where
  name := table.typeName
  properties := table.fields.map fun field => field.modelProperty table.name

theorem readProperty?_propertyLine {name type default : String} (hname : IsName name.toList)
    {tail : List Char} (hdefault : default.toList = "Field(".toList ++ tail) :
    readProperty? (propertyLine pythonDialect name type default).toList =
      some ⟨name, (type ++ " = " ++ default).toList⟩ := by
  have hcode : (type ++ " = " ++ default).toList = type.toList ++ (fieldMark.toList ++ tail) := by
    simp [hdefault, fieldMark]
  rw [toList_propertyLine name type hdefault, hcode]
  simp only [readProperty?, dropPrefix?_append, nameAndRest_colon hname, Option.bind_eq_bind,
    Option.bind_some, String.ofList_toList]
  rfl

theorem openClasses_property {line : String} {property : ReadProperty}
    (hblank : line.toList.head? = some ' ') (h : readProperty? line.toList = some property)
    (rest : List String) :
    openClasses (line :: rest) = (property :: (openClasses rest).1, (openClasses rest).2) := by
  have hclass : className? line.toList = none := className?_of_head (by simp [hblank])
  simp [openClasses, hclass, h]

theorem Field.exists_modelDefault_eq (field : Field) :
    ∃ tail, field.modelDefault.toList = "Field(".toList ++ tail := by
  unfold Field.modelDefault
  split
  · exact ⟨("alias=" ++ pythonDialect.quoted field.label ++ ", frozen=True)").toList, by simp⟩
  · exact ⟨("default=None, alias=" ++ pythonDialect.quoted field.label ++ ")").toList, by simp⟩

namespace Target

theorem rowLines_model (table : Table) (field : Field) :
    model.rowLines (model.row table field) =
      [propertyLine pythonDialect field.propertyName (field.modelAnnotation table.name)
        field.modelDefault, pythonDialect.docstring 1 (field.remark table)] := by
  cases h : field.isReadOnly <;>
    simp [rowLines, modelRow, row, Field.modelAnnotation, Field.modelDefault, h]

theorem openClasses_row (table : Table) (field : Field) (rest : List String) :
    openClasses (model.rowLines (model.row table field) ++ rest) =
      (field.modelProperty table.name :: (openClasses rest).1, (openClasses rest).2) := by
  obtain ⟨tail, hdefault⟩ := field.exists_modelDefault_eq
  have hblank : (propertyLine pythonDialect field.propertyName (field.modelAnnotation table.name)
      field.modelDefault).toList.head? = some ' ' := by
    simp [propertyLine, Dialect.indented, pythonDialect, List.replicate]
  rw [rowLines_model, List.cons_append, List.singleton_append,
    openClasses_property hblank (readProperty?_propertyLine field.isName_propertyName hdefault),
    openClasses_classless (isClassless_docstring (field.remark table))]
  rfl

theorem openClasses_rowBlock (table : Table) (fields : List Field) (rest : List String) :
    openClasses (model.rowBlock table fields ++ rest) =
      (fields.map (fun field => field.modelProperty table.name) ++ (openClasses rest).1,
        (openClasses rest).2) := by
  induction fields with
  | nil => rfl
  | cons field fields ih =>
    have hcons : model.rowBlock table (field :: fields) =
      model.rowLines (model.row table field) ++ model.rowBlock table fields := rfl
    rw [hcons, List.append_assoc, openClasses_row, ih]
    rfl

theorem hasClasses_record (table : Table) :
    HasClasses (model.recordLines table) [table.modelClass] := by
  have hopening : className? ("class " ++ table.typeName ++ "(BaseModel):").toList =
      some table.typeName := by
    have hline : ("class " ++ table.typeName ++ "(BaseModel):").toList =
        "class ".toList ++ (table.typeName.toList ++ '(' :: "BaseModel):".toList) := by simp
    rw [hline, className?_append table.isName_typeName]
  have hremark := isClassless_docstring table.remark
  have hconfig : IsClassless
      (pythonDialect.indented 1 "model_config = ConfigDict(populate_by_name=True)") := by decide
  have hempty := isClassless_empty
  have hrows := openClasses_rowBlock table table.fields ["", ""]
  rw [HasClasses, recordLines_eq]
  simp only [recordOpening, recordClosing, List.cons_append, List.nil_append]
  rw [openClasses, hopening]
  dsimp only
  rw [openClasses_classless hremark, openClasses_classless hempty, openClasses_classless hconfig,
    openClasses_classless hempty, hrows, openClasses_classless hempty,
    openClasses_classless hempty]
  exact congrArg (fun properties => ([], [ReadClass.mk table.typeName properties]))
    (List.append_nil _)

end Target

end RecordTypes

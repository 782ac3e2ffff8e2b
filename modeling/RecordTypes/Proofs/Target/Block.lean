import RecordTypes.Proofs.Target.Declared
import RecordTypes.Proofs.Target.Names

/-! What the lines of one table declare: its enumerations, its record and the lookup of the ids of
its fields. These are the names that are registered for it. -/

namespace RecordTypes

namespace Target

/-! ## Lines that every target writes -/

theorem isSilent_empty (target : Target) : target.IsSilent "" := by
  cases target <;> decide

theorem isSilent_docstring (target : Target) (s : String) :
    target.IsSilent (target.dialect.docstring 1 s) := by
  cases target with
  | interface | zod =>
    exact IsSilent.of_indented_mark _ (c := '/')
      (by simp [dialect, language, typescriptDialect]) (by decide)
  | typedDict | model =>
    exact IsSilent.of_indented_mark _ (c := quotationMark)
      (by simp [dialect, language, pythonDialect, quotationMark]) (by decide)

theorem isSilent_quoted (target : Target) (s rest : String) :
    target.IsSilent (target.dialect.indented 1 (target.dialect.quoted s ++ rest)) := by
  cases target with
  | interface | zod =>
    exact IsSilent.of_indented_mark _ (c := apostrophe)
      (by simp [dialect, language, typescriptDialect, Dialect.quoted, singleQuoted]) (by decide)
  | typedDict | model =>
    exact IsSilent.of_indented_mark _ (c := quotationMark)
      (by simp [dialect, language, pythonDialect, Dialect.quoted, doubleQuoted]) (by decide)

theorem isSilent_quotedItems (target : Target) (items : List String) :
    ∀ line ∈ target.dialect.quotedItems items, target.IsSilent line := by
  intro line hline
  obtain ⟨item, -, rfl⟩ := List.mem_map.mp hline
  exact target.isSilent_quoted item ","

theorem isSilent_lookupRow (target : Target) (quoteValue : Bool) (key value : String) :
    target.IsSilent (target.dialect.lookupRow quoteValue key value) := by
  simp only [Dialect.lookupRow, String.append_assoc]
  exact target.isSilent_quoted key _

theorem declaredName?_lookupOpening (target : Target) {name : String} (hname : IsName name.toList)
    (key value : String) :
    target.declaredName? (target.dialect.lookupOpening name key value) = some name := by
  cases target with
  | interface | zod =>
    exact declaredName?_export rfl (by decide : "export const " ∈ declarators) hname
      (by simp [dialect, language, typescriptDialect]; rfl)
  | typedDict | model =>
    exact declaredName?_define rfl (by decide : ": dict[" ∈ definers) hname
      (by simp [dialect, language, pythonDialect]; rfl)

theorem isSilent_lookupClosing (target : Target) :
    ∀ line ∈ [target.dialect.lookupClosing, ""], target.IsSilent line := by
  cases target <;> decide

theorem declares_lookup (target : Target) {name : String} (hname : IsName name.toList)
    (key value : String) (quoteValues : Bool) (pairs : List (String × String)) :
    target.Declares (target.dialect.lookup name key value quoteValues pairs) [name] := by
  refine Declares.cons (target.declaredName?_lookupOpening hname key value)
    (Declares.of_silent (List.forall_mem_append.mpr ⟨?_, target.isSilent_lookupClosing⟩))
  intro line hline
  obtain ⟨⟨k, v⟩, -, rfl⟩ := List.mem_map.mp hline
  exact target.isSilent_lookupRow quoteValues k v

/-! ## Enumerations -/

def enumerationNames (target : Target) (table : Table) (field : Field) : List String :=
  match target with
  | .interface | .typedDict => []
  | .zod | .model => (field.enumeration? table.name).toList

def enumerationBlock (target : Target) (table : Table) : List String :=
  (table.fields.filter Field.hasEnumeration).flatMap (target.enumerationLines table)

theorem isSilent_tableRemark (target : Target) (s : String) :
    target.IsSilent (pythonDialect.docstring 0 s) :=
  IsSilent.of_mark _ (c := quotationMark)
    (by simp [Dialect.docstring, Dialect.indented, pythonDialect, quotationMark]) (by decide)

theorem declares_enumeration (target : Target) (table : Table) {field : Field}
    (h : field.hasEnumeration = true) :
    target.Declares (target.enumerationLines table field)
      (target.enumerationNames table field) := by
  have hname := isName_enumerationName table.name field
  cases target with
  | interface | typedDict => exact Declares.nil _
  | zod =>
    simp only [enumerationNames, Field.enumeration?, h]
    have hopening : zod.declaredName? ("export const " ++ enumerationName table.name field ++
        " = z.enum([") = some (enumerationName table.name field) :=
      declaredName?_export rfl (by decide : "export const " ∈ declarators) hname (by simp; rfl)
    refine Declares.cons hopening (Declares.of_silent ?_)
    exact List.forall_mem_append.mpr ⟨zod.isSilent_quotedItems field.choiceNames, by decide⟩
  | model =>
    simp only [enumerationNames, Field.enumeration?, h]
    have hremark := model.isSilent_tableRemark
      ("Select options for \x60" ++ oneLineText field.label ++ "\x60")
    have hitems : ∀ line ∈ pythonDialect.quotedItems field.choiceNames ++ ["]"],
        model.IsSilent line :=
      List.forall_mem_append.mpr ⟨model.isSilent_quotedItems field.choiceNames, by decide⟩
    have hopening : model.declaredName? (enumerationName table.name field ++ " = Literal[") =
        some (enumerationName table.name field) :=
      declaredName?_define rfl (by decide : " = Literal[" ∈ definers) hname (by simp; rfl)
    refine Declares.cons hopening (Declares.of_silent (List.forall_mem_append.mpr ⟨hitems, ?_⟩))
    simp [hremark, model.isSilent_empty]

theorem declares_enumerationBlock (target : Target) (table : Table) :
    target.Declares (target.enumerationBlock table)
      (table.fields.flatMap (target.enumerationNames table)) := by
  have hnames : table.fields.flatMap (target.enumerationNames table) =
      (table.fields.filter Field.hasEnumeration).flatMap (target.enumerationNames table) := by
    induction table.fields with
    | nil => rfl
    | cons field fields ih =>
      cases h : field.hasEnumeration with
      | true => simp [h, ih]
      | false =>
        have hnone : target.enumerationNames table field = [] := by
          cases target <;> simp [enumerationNames, Field.enumeration?, h]
        simp [h, hnone, ih]
  rw [hnames]
  exact Declares.flatMap fun field hfield =>
    target.declares_enumeration table (List.mem_filter.mp hfield).2

/-! ## Records -/

def rowBlock (target : Target) (table : Table) (fields : List Field) : List String :=
  fields.flatMap fun field => target.rowLines (target.row table field)

def memberNames (target : Target) (table : Table) (field : Field) : List String :=
  match target with
  | .model => [table.typeName ++ "." ++ field.propertyName]
  | _ => []

theorem isSilent_rowLines {target : Target} (h : target ≠ .model) (row : Row) :
    ∀ line ∈ target.rowLines row, target.IsSilent line := by
  cases target with
  | model => exact absurd rfl h
  | interface =>
    have hremark : interface.IsSilent (typescriptDialect.docstring 1 row.remark) :=
      interface.isSilent_docstring row.remark
    have hmember (isOptional isReadOnly : Bool) : interface.IsSilent
        (memberLine typescriptDialect row.name row.expression isOptional isReadOnly) :=
      IsSilent.of_blanks h (by simp [memberLine, Dialect.indented, typescriptDialect]; rfl)
    simpa [rowLines, interfaceRow, hmember] using hremark
  | zod =>
    have hremark : zod.IsSilent (typescriptDialect.docstring 1 row.remark) :=
      zod.isSilent_docstring row.remark
    have hmember (value : String) : zod.IsSilent
        (typescriptDialect.lookupRow false row.name value) :=
      zod.isSilent_lookupRow false row.name value
    simpa [rowLines, zodRow, hmember] using hremark
  | typedDict =>
    have hindented (s : String) : typedDict.IsSilent (pythonDialect.indented 2 s) :=
      IsSilent.of_blanks h (by simp [Dialect.indented, pythonDialect]; rfl)
    simp [rowLines, typedDictRow, hindented]

theorem memberName?_propertyLine {name type default : String} (hname : IsName name.toList)
    {tail : List Char} (hdefault : default.toList = "Field(".toList ++ tail) :
    model.memberName? (propertyLine pythonDialect name type default) = some name := by
  have hline := toList_propertyLine name type hdefault
  have hcolon :
      ": ".toList.isPrefixOf (": ".toList ++ (type.toList ++ (fieldMark.toList ++ tail))) :=
    List.isPrefixOf_iff_prefix.mpr (List.prefix_append _ _)
  have hfield : hasFieldMark (": ".toList ++ (type.toList ++ (fieldMark.toList ++ tail))) = true :=
    (hasFieldMark_iff _).mpr ⟨": ".toList ++ type.toList, tail, by simp only [List.append_assoc]⟩
  simp only [memberName?, hline, fieldName?, dropPrefix?_append, nameAndRest_colon hname, hcolon,
    hfield, Bool.and_self, if_pos, String.ofList_toList]

theorem declaredIn_propertyLine {name type default : String} (hname : IsName name.toList)
    {tail : List Char} (hdefault : default.toList = "Field(".toList ++ tail) (owner : String)
    (rest : List String) :
    model.declaredIn owner (propertyLine pythonDialect name type default :: rest) =
      (owner ++ "." ++ name) :: model.declaredIn owner rest := by
  have hline := toList_propertyLine name type hdefault
  have hmember : model.memberName? (propertyLine pythonDialect name type default) = some name :=
    memberName?_propertyLine hname hdefault
  simp [declaredIn, declaredName?_of_blanks model hline, hmember]

theorem declaredIn_modelRow (table : Table) (field : Field) (owner : String) (rest : List String) :
    model.declaredIn owner (model.rowLines (model.row table field) ++ rest) =
      (owner ++ "." ++ field.propertyName) :: model.declaredIn owner rest := by
  have hremark : model.IsSilent (pythonDialect.docstring 1 (field.remark table)) :=
    model.isSilent_docstring _
  have hname := field.isName_propertyName
  simp only [rowLines, modelRow, row]
  by_cases hreadOnly : field.isReadOnly = true
  · have hdefault (key : String) : ("Field(alias=" ++ key ++ ", frozen=True)").toList =
      "Field(".toList ++ ("alias=" ++ key ++ ", frozen=True)").toList := by simp
    simp [hreadOnly, declaredIn_propertyLine hname (hdefault _), declaredIn_silent hremark]
  · have hdefault (key : String) : ("Field(default=None, alias=" ++ key ++ ")").toList =
      "Field(".toList ++ ("default=None, alias=" ++ key ++ ")").toList := by simp
    simp [hreadOnly, declaredIn_propertyLine hname (hdefault _), declaredIn_silent hremark]

theorem declaredIn_rowBlock (table : Table) (fields : List Field) (owner : String)
    (rest : List String) :
    model.declaredIn owner (model.rowBlock table fields ++ rest) =
      fields.map (fun field => owner ++ "." ++ field.propertyName) ++
        model.declaredIn owner rest := by
  induction fields with
  | nil => rfl
  | cons field fields ih =>
    have hcons : model.rowBlock table (field :: fields) =
      model.rowLines (model.row table field) ++ model.rowBlock table fields := rfl
    rw [hcons, List.append_assoc, declaredIn_modelRow, ih]
    rfl

def typeNames (target : Target) (table : Table) : List String :=
  match target with
  | .zod => [table.schemaName, table.typeName]
  | _ => [table.typeName]

def recordNames (target : Target) (table : Table) : List String :=
  target.typeNames table ++ table.fields.flatMap (target.memberNames table)

theorem recordLines_eq (target : Target) (table : Table) :
    target.recordLines table = target.recordOpening table ++
      (target.rowBlock table table.fields ++ target.recordClosing table) :=
  List.append_assoc ..

theorem isSilent_rowBlock {target : Target} (h : target ≠ .model) (table : Table)
    (fields : List Field) : ∀ line ∈ target.rowBlock table fields, target.IsSilent line := by
  intro line hline
  obtain ⟨field, -, hrow⟩ := List.mem_flatMap.mp hline
  exact isSilent_rowLines h _ line hrow

/-- Where the rows declare nothing of their own, what opens and closes a record declares it. -/
theorem declares_record_of_ne {target : Target} (h : target ≠ .model) {table : Table}
    {names names' : List String} (hnames : target.typeNames table = names ++ names')
    (hopening : target.Declares (target.recordOpening table) names)
    (hclosing : target.Declares (target.recordClosing table) names') :
    target.Declares (target.recordLines table) (target.recordNames table) := by
  have hmembers : table.fields.flatMap (target.memberNames table) = [] := by
    cases target with
    | model => exact absurd rfl h
    | _ => simp [memberNames]
  rw [recordLines_eq, recordNames, hmembers, List.append_nil, hnames]
  have hrows := Declares.of_silent (isSilent_rowBlock h table table.fields)
  exact hopening.append (hrows.append hclosing)

theorem declares_model (table : Table) :
    model.Declares (model.recordLines table) (model.recordNames table) := by
  have hopening : model.declaredName? ("class " ++ table.typeName ++ "(BaseModel):") =
      some table.typeName := declaredName?_class rfl table.isName_typeName (by simp; rfl)
  have hremark : model.IsSilent (pythonDialect.docstring 1 table.remark) :=
    model.isSilent_docstring _
  have hconfig : model.IsSilent
      (pythonDialect.indented 1 "model_config = ConfigDict(populate_by_name=True)") := by decide
  have hempty := model.isSilent_empty
  intro owner
  refine ⟨table.typeName, fun rest => ?_⟩
  have hrows := declaredIn_rowBlock table table.fields table.typeName ("" :: "" :: rest)
  rw [recordLines_eq]
  simp only [recordOpening, recordClosing, List.append_assoc, List.cons_append, List.nil_append]
  rw [declaredIn, hopening]
  dsimp only
  rw [declaredIn_silent hremark, declaredIn_silent hempty, declaredIn_silent hconfig,
    declaredIn_silent hempty, hrows, declaredIn_silent hempty, declaredIn_silent hempty]
  rw [List.map_eq_flatMap]
  rfl

theorem declares_interface (table : Table) :
    interface.Declares (interface.recordLines table) (interface.recordNames table) := by
  have hopening : interface.Declares (interface.recordOpening table) [table.typeName] :=
    Declares.cons (declaredName?_export rfl (by decide : "export interface " ∈ declarators)
      table.isName_typeName (by simp; rfl)) (Declares.nil _)
  have hclosing : ∀ line ∈ ["\x7d", ""], interface.IsSilent line := by decide
  exact declares_record_of_ne (by decide) rfl hopening (Declares.of_silent hclosing)

theorem declares_zod (table : Table) :
    zod.Declares (zod.recordLines table) (zod.recordNames table) := by
  have hopening : zod.Declares (zod.recordOpening table) [table.schemaName] :=
    Declares.cons (declaredName?_export rfl (by decide : "export const " ∈ declarators)
      table.isName_schemaName (by simp; rfl)) (Declares.nil _)
  -- The type is taken from the schema, so that it is declared behind it.
  have hclosing : zod.Declares (zod.recordClosing table) [table.typeName] := by
    have hbrace : ∀ line ∈ ["\x7d)"], zod.IsSilent line := by decide
    have hend : ∀ line ∈ [""], zod.IsSilent line := by decide
    exact (Declares.of_silent hbrace).append (Declares.cons
      (declaredName?_export rfl (by decide : "export type " ∈ declarators) table.isName_typeName
        (by simp; rfl)) (Declares.of_silent hend))
  exact declares_record_of_ne (by decide) rfl hopening hclosing

theorem declares_typedDict (table : Table) :
    typedDict.Declares (typedDict.recordLines table) (typedDict.recordNames table) := by
  have hname : typedDict.IsSilent
      (pythonDialect.indented 1 (pythonDialect.quoted table.typeName ++ ",")) :=
    typedDict.isSilent_quoted table.typeName ","
  have hbrace : typedDict.IsSilent (pythonDialect.indented 1 "\x7b") := by decide
  have hopening : typedDict.Declares (typedDict.recordOpening table) [table.typeName] :=
    Declares.cons (declaredName?_define rfl (by decide : " = TypedDict(" ∈ definers)
      table.isName_typeName (by simp; rfl)) (Declares.of_silent (by simp [hname, hbrace]))
  have hremark := typedDict.isSilent_tableRemark table.remark
  have hend : typedDict.IsSilent (pythonDialect.indented 1 "\x7d,") ∧ typedDict.IsSilent ")" := by
    decide
  have hclosing : ∀ line ∈ typedDict.recordClosing table, typedDict.IsSilent line := by
    simp [recordClosing, hremark, hend, typedDict.isSilent_empty]
  exact declares_record_of_ne (by decide) rfl hopening (Declares.of_silent hclosing)

theorem declares_record (target : Target) (table : Table) :
    target.Declares (target.recordLines table) (target.recordNames table) := by
  cases target with
  | interface => exact declares_interface table
  | zod => exact declares_zod table
  | typedDict => exact declares_typedDict table
  | model => exact declares_model table

/-! ## Tables -/

/-- The lines for a table: its enumerations, its record and, if asked for, the ids of its fields. -/
def tableLines (target : Target) (fieldIds : Bool) (table : Table) : List String :=
  target.enumerationBlock table ++ target.recordLines table ++
    if fieldIds then target.fieldLookupLines table else []

def tableNames (target : Target) (fieldIds : Bool) (table : Table) : List String :=
  table.fields.flatMap (target.enumerationNames table) ++ target.recordNames table ++
    if fieldIds then [table.fieldLookupName] else []

theorem declares_table (target : Target) (fieldIds : Bool) (table : Table) :
    target.Declares (target.tableLines fieldIds table) (target.tableNames fieldIds table) := by
  refine ((target.declares_enumerationBlock table).append (target.declares_record table)).append ?_
  cases fieldIds with
  | true => exact target.declares_lookup table.isName_fieldLookupName "str" "str" true _
  | false => exact Declares.nil target

theorem fieldRegistrations_identifiers (target : Target) (table : Table) (field : Field) :
    (target.fieldRegistrations table field).map Registration.identifier =
      target.enumerationNames table field ++ target.memberNames table field := by
  cases target <;> simp [fieldRegistrations, enumerationNames, memberNames, Function.comp_def]

theorem tableNames_perm (target : Target) (fieldIds : Bool) (table : Table) :
    (target.tableNames fieldIds table).Perm
      ((target.registrations table fieldIds).map Registration.identifier) := by
  have hfields : (table.fields.flatMap (target.enumerationNames table) ++
      table.fields.flatMap (target.memberNames table)).Perm
      ((table.fields.flatMap (target.fieldRegistrations table)).map Registration.identifier) := by
    simp only [List.map_flatMap, fieldRegistrations_identifiers]
    exact List.flatMap_append_perm ..
  obtain ⟨types, htypes, hregistered⟩ : ∃ types, (target.typeNames table).Perm types ∧
      (target.registrations table fieldIds).map Registration.identifier = types ++
        (table.fields.flatMap (target.fieldRegistrations table)).map Registration.identifier ++
          if fieldIds then [table.fieldLookupName] else [] := by
    cases target with
    -- the schema of a table comes before its type in the text, but is registered after it
    | zod => exact ⟨_, List.Perm.swap .., by cases fieldIds <;> simp [registrations]⟩
    | _ => exact ⟨_, List.Perm.refl _, by cases fieldIds <;> simp [registrations, typeNames]⟩
  have hrecord : (table.fields.flatMap (target.enumerationNames table) ++
      target.recordNames table).Perm _ :=
    (List.perm_append_comm_assoc ..).trans (htypes.append hfields)
  rw [hregistered]
  exact hrecord.append_right _

/-! ## What all tables share -/

theorem isSilent_classMember {target : Target} (htarget : target.language = .python)
    {member type : String} (hmember : IsName member.toList) (htype : '(' ∉ type.toList) :
    target.IsSilent (pythonDialect.indented 1 (member ++ ": " ++ type)) := by
  have hline : (pythonDialect.indented 1 (member ++ ": " ++ type)).toList =
      "    ".toList ++ (member.toList ++ ':' :: ' ' :: type.toList) := by
    simp [Dialect.indented, pythonDialect, List.replicate]
  refine ⟨target.declaredName?_of_blanks hline, ?_⟩
  cases target with
  | interface | zod => cases htarget
  | typedDict => rfl
  | model =>
    have hfield : ¬ hasFieldMark (':' :: ' ' :: type.toList) = true := by
      rw [hasFieldMark_iff]
      intro h
      have hparen : '(' ∈ ':' :: ' ' :: type.toList := h.subset (by decide)
      simp [htype] at hparen
    have hcolon : isNameChar ':' = false := by decide
    simp only [memberName?, hline, fieldName?, dropPrefix?_append,
      nameAndRest_append hmember hcolon, hfield]
    simp

theorem declares_classLines {target : Target} (htarget : target.language = .python)
    {name parent : String} (hname : IsName name.toList) {members : List (String × String)}
    (hmembers : ∀ m ∈ members, IsName m.1.toList ∧ '(' ∉ m.2.toList) :
    target.Declares (classLines name parent members) [name] := by
  have hopening : target.declaredName? ("class " ++ name ++ "(" ++ parent ++ "):") = some name :=
    declaredName?_class htarget hname (by simp; rfl)
  refine Declares.cons hopening (Declares.of_silent fun line hline => ?_)
  obtain ⟨m, hm, rfl⟩ := List.mem_map.mp hline
  exact isSilent_classMember htarget (hmembers m hm).1 (hmembers m hm).2

theorem declares_empty (target : Target) : target.Declares ["", ""] [] :=
  Declares.of_silent (by simp [target.isSilent_empty])

/-- What holds of a class and of the lines between two of them, and stays true when two texts are
joined, holds of all that is shared. Names and types of members are single words, but for the two
types that are given. -/
theorem forall_pythonShared {P : List String → List String → Prop}
    {parent optionalThumbnails optionalUrl : String} (hgap : P ["", ""] [])
    (happend : ∀ {lines lines' names names' : List String}, P lines names → P lines' names' →
      P (lines ++ lines') (names ++ names'))
    (hclass : ∀ {name : String} {members : List (String × String)}, IsName name.toList →
      (∀ m ∈ members, IsName m.1.toList ∧
        (IsName m.2.toList ∨ m.2 = optionalThumbnails ∨ m.2 = optionalUrl)) →
      P (classLines name parent members) [name]) :
    ∀ declaration ∈ [classAttachment parent optionalThumbnails, classCollaborator parent,
        classBarcode parent, classButton parent optionalUrl],
      P declaration.lines declaration.identifiers := by
  have hword {word : List Char} (h : IsName word) : IsName (String.ofList word).toList :=
    holds_of_chars (P := IsName) h
  have hmember {name type : List Char} (h : IsName name ∧ IsName type) :
      IsName (String.ofList name).toList ∧ (IsName (String.ofList type).toList ∨
        String.ofList type = optionalThumbnails ∨ String.ofList type = optionalUrl) :=
    ⟨hword h.1, Or.inl (hword h.2)⟩
  have hthumbnail : P (classLines "AirtableThumbnail" parent
      [("url", "str"), ("width", "int"), ("height", "int")]) ["AirtableThumbnail"] := by
    refine hclass (hword (by decide)) ?_
    simp only [List.forall_mem_cons]
    exact ⟨hmember (by decide), hmember (by decide), hmember (by decide), List.forall_mem_nil _⟩
  have hthumbnails : P (classLines "AirtableThumbnails" parent [("small", "AirtableThumbnail"),
      ("large", "AirtableThumbnail"), ("full", "AirtableThumbnail")]) ["AirtableThumbnails"] := by
    refine hclass (hword (by decide)) ?_
    simp only [List.forall_mem_cons]
    exact ⟨hmember (by decide), hmember (by decide), hmember (by decide), List.forall_mem_nil _⟩
  have hattachment : P (classLines "AirtableAttachment" parent
      [("id", "str"), ("url", "str"), ("filename", "str"), ("size", "int"), ("type", "str"),
        ("thumbnails", optionalThumbnails)]) ["AirtableAttachment"] := by
    refine hclass (hword (by decide)) ?_
    simp only [List.forall_mem_cons]
    exact ⟨hmember (by decide), hmember (by decide), hmember (by decide), hmember (by decide),
      hmember (by decide), ⟨hword (by decide), by simp⟩, List.forall_mem_nil _⟩
  simp only [List.forall_mem_cons]
  refine ⟨?_, ?_, ?_, ?_, List.forall_mem_nil _⟩
  · exact happend (happend (happend (happend hthumbnail hgap) hthumbnails) hgap) hattachment
  · refine hclass (hword (by decide)) ?_
    simp only [List.forall_mem_cons]
    exact ⟨hmember (by decide), hmember (by decide), hmember (by decide), List.forall_mem_nil _⟩
  · refine hclass (hword (by decide)) ?_
    simp only [List.forall_mem_cons]
    exact ⟨hmember (by decide), hmember (by decide), List.forall_mem_nil _⟩
  · refine hclass (hword (by decide)) ?_
    simp only [List.forall_mem_cons]
    exact ⟨hmember (by decide), ⟨hword (by decide), by simp⟩, List.forall_mem_nil _⟩

theorem forall_of_typescriptShared {P : SharedDeclaration → Prop} {target : Target}
    (htarget : target.language = .typescript)
    (h : ∀ declaration ∈ [interfaceAttachment, interfaceCollaborator, zodAttachment,
      zodCollaborator], P declaration) :
    ∀ declaration ∈ target.sharedDeclarations, P declaration := by
  intro declaration hdeclaration
  cases target with
  | interface => exact h declaration (List.mem_append_left _ hdeclaration)
  | zod =>
    exact h declaration
      (List.mem_append_right [interfaceAttachment, interfaceCollaborator] hdeclaration)
  | typedDict | model => cases htarget

theorem isSilent_of_head {target : Target} (htarget : target.language = .typescript)
    {line : String} (h : line.toList.head? ≠ some 'e') : target.IsSilent line := by
  have hexport : exportedName? line.toList = none := by
    cases hline : line.toList with
    | nil => simp [exportedName?, declarators, List.dropPrefix?]
    | cons c rest =>
      have hc : c ≠ 'e' := by simpa [hline] using h
      simp [exportedName?, declarators, List.dropPrefix?, hc]
  cases target with
  | typedDict | model => cases htarget
  | interface | zod => exact ⟨hexport, rfl⟩

theorem declares_typescriptShared {target : Target} (htarget : target.language = .typescript) :
    ∀ declaration ∈ [interfaceAttachment, interfaceCollaborator, zodAttachment, zodCollaborator],
      target.Declares declaration.lines declaration.identifiers := by
  have hsilent {chars : List Char} (h : chars.head? ≠ some 'e') :
      target.IsSilent (String.ofList chars) :=
    isSilent_of_head htarget (holds_of_chars (P := fun s => s.head? ≠ some 'e') h)
  have hopens {line opening name rest : List Char} (hopening : String.ofList opening ∈ declarators)
      (hname : IsName name) (hline : line = opening ++ (name ++ ' ' :: rest)) :
      target.declaredName? (String.ofList line) = some (String.ofList name) := by
    have hchars : (String.ofList line).toList =
        (String.ofList opening).toList ++ ((String.ofList name).toList ++ ' ' :: rest) := by
      simp only [String.toList_ofList, hline]
    exact declaredName?_export htarget hopening (holds_of_chars (P := IsName) hname) hchars
  have hinterface : "export interface " ∈ declarators := by decide
  have hconst : "export const " ∈ declarators := by decide
  simp only [List.forall_mem_cons]
  refine ⟨?_, ?_, ?_, ?_, List.forall_mem_nil _⟩
  · refine .cons (hopens hinterface (by decide) rfl) ?_
    repeat refine .skip (hsilent (by decide)) ?_
    refine .cons (hopens hinterface (by decide) rfl) ?_
    repeat refine .skip (hsilent (by decide)) ?_
    exact Declares.nil _
  · refine .cons (hopens hinterface (by decide) rfl) ?_
    repeat refine .skip (hsilent (by decide)) ?_
    exact Declares.nil _
  · refine .cons (hopens hconst (by decide) rfl) ?_
    repeat refine .skip (hsilent (by decide)) ?_
    refine .cons (hopens hconst (by decide) rfl) ?_
    repeat refine .skip (hsilent (by decide)) ?_
    exact Declares.nil _
  · refine .cons (hopens hconst (by decide) rfl) ?_
    repeat refine .skip (hsilent (by decide)) ?_
    exact Declares.nil _

theorem declares_pythonShared {target : Target} (htarget : target.language = .python)
    (parent : String) {optionalThumbnails optionalUrl : String}
    (hthumbnails : '(' ∉ optionalThumbnails.toList) (hurl : '(' ∉ optionalUrl.toList) :
    ∀ declaration ∈ [classAttachment parent optionalThumbnails, classCollaborator parent,
        classBarcode parent, classButton parent optionalUrl],
      target.Declares declaration.lines declaration.identifiers := by
  refine forall_pythonShared target.declares_empty Declares.append fun hname hmembers =>
    declares_classLines htarget hname fun m hm => ?_
  obtain ⟨hmember, htype | htype | htype⟩ := hmembers m hm
  · exact ⟨hmember, htype.not_mem (by decide)⟩
  · exact ⟨hmember, by rwa [htype]⟩
  · exact ⟨hmember, by rwa [htype]⟩

theorem declares_sharedDeclaration (target : Target) :
    ∀ declaration ∈ target.sharedDeclarations,
      target.Declares declaration.lines declaration.identifiers := by
  have hnoParen {type : List Char} (h : '(' ∉ type) : '(' ∉ (String.ofList type).toList :=
    holds_of_chars (P := fun s => '(' ∉ s) h
  cases target with
  | interface | zod => exact forall_of_typescriptShared rfl (declares_typescriptShared rfl)
  | typedDict =>
    exact declares_pythonShared rfl "TypedDict" (hnoParen (by decide)) (hnoParen (by decide))
  | model =>
    have hemail : model.Declares modelEmail.lines modelEmail.identifiers :=
      Declares.cons (declaredName?_define rfl (by decide : " = Annotated[" ∈ definers)
        (by decide : IsName "AirtableEmail".toList) (by simp; rfl)) (Declares.nil _)
    exact List.forall_mem_append.mpr
      ⟨declares_pythonShared rfl "BaseModel" (hnoParen (by decide)) (hnoParen (by decide)),
        List.forall_mem_singleton.mpr hemail⟩

theorem declares_shared (target : Target) :
    ∀ declaration ∈ target.sharedDeclarations,
      target.Declares (target.sharedLines declaration) declaration.identifiers := by
  intro declaration hdeclaration
  have hlines := target.declares_sharedDeclaration declaration hdeclaration
  have hend : ∀ lines, (∀ line ∈ lines, line = "") →
      target.Declares (declaration.lines ++ lines) declaration.identifiers := by
    intro lines hempty
    have hsilent : ∀ line ∈ lines, target.IsSilent line := by
      intro line hline
      rw [hempty line hline]
      exact target.isSilent_empty
    simpa using hlines.append (Declares.of_silent hsilent)
  unfold sharedLines
  cases target.language <;> exact hend _ (by simp)

theorem isSilent_header (target : Target) (base : Base) :
    ∀ line ∈ target.header base, target.IsSilent line := by
  have hempty := target.isSilent_empty
  have hcomment (s : String) : target.IsSilent (target.dialect.comment s) := by
    cases target with
    | interface | zod =>
      exact IsSilent.of_mark _ (c := '/')
        (by simp [Dialect.comment, dialect, language, typescriptDialect]) (by decide)
    | typedDict | model =>
      exact IsSilent.of_mark _ (c := '#')
        (by simp [Dialect.comment, dialect, language, pythonDialect]) (by decide)
  have himports : ∀ line ∈ target.importLines, target.IsSilent line := by
    cases target <;> decide +kernel
  refine List.forall_mem_append.mpr ⟨List.forall_mem_append.mpr ⟨?_, ?_⟩, himports⟩
  · simp only [Dialect.banner, List.forall_mem_cons]
    exact ⟨hcomment _, hcomment _, hcomment _, hempty, List.forall_mem_nil _⟩
  · simp only [List.forall_mem_cons]
    exact ⟨hcomment _, hempty, List.forall_mem_nil _⟩

theorem declares_header (target : Target) (base : Base) :
    target.Declares (target.header base) [] :=
  Declares.of_silent (target.isSilent_header base)

theorem isName_tableIdLookup : IsName tableIdLookup.toList := by decide

theorem isName_tableTypeLookup : IsName tableTypeLookup.toList := by decide

theorem declares_tableLookups (target : Target) (tables : List Table) :
    target.Declares (target.tableLookupLines tables) target.lookupIdentifiers := by
  have hids := target.declares_lookup isName_tableIdLookup "str" "str" true
    (tables.map fun table => (table.name, table.id))
  cases target with
  | interface =>
    have hopening : interface.declaredName? ("export interface " ++ tableTypeLookup ++ " \x7b") =
        some tableTypeLookup :=
      declaredName?_export rfl (by decide : "export interface " ∈ declarators)
        isName_tableTypeLookup (by simp; rfl)
    have hrow (table : Table) : interface.IsSilent
        (memberLine typescriptDialect table.id table.typeName false false) :=
      IsSilent.of_blanks (by decide)
        (by simp [memberLine, Dialect.indented, typescriptDialect]; rfl)
    have hclosing : ∀ line ∈ ["\x7d", ""], interface.IsSilent line := by decide
    refine hids.append (Declares.cons hopening (Declares.of_silent (List.forall_mem_append.mpr
      ⟨fun line hline => ?_, hclosing⟩)))
    obtain ⟨table, -, rfl⟩ := List.mem_map.mp hline
    exact hrow table
  | zod => exact hids.append (zod.declares_lookup (by decide) "str" "str" false _)
  | typedDict =>
    exact hids.append (typedDict.declares_lookup isName_tableTypeLookup "str" "type" false _)
  | model =>
    exact hids.append (model.declares_lookup isName_tableTypeLookup "str" "type[BaseModel]" false _)

end Target

end RecordTypes

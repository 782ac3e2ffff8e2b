import RecordTypes.Proofs.Target.Block
import RecordTypes.Proofs.Target.Bracket
import RecordTypes.Proofs.Target.Remark
import RecordTypes.Proofs.Target.Row

/-! Lines of declarations that stay code whatever names, choices and types are written in them.
These are all lines but the docstrings. -/

namespace RecordTypes

/-! ## Types -/

namespace Target

theorem isUnbroken_enclosed {opening s closing : String} (hs : IsUnbroken s.toList)
    (hmarks : IsUnbroken opening.toList ∧ IsUnbroken closing.toList) :
    IsUnbroken (opening ++ s ++ closing).toList := by
  simp only [String.toList_append, isUnbroken_append_iff]
  exact ⟨⟨hmarks.1, hs⟩, hmarks.2⟩

theorem isUnbroken_fieldExpression (target : Target) (tableName : String) (field : Field) :
    IsUnbroken (target.fieldExpression tableName field).toList :=
  (target.isWellFormedCode_expression (field.isName_enumeration? tableName)
    field.valueType).unbroken

/-! ## Lines of code -/

theorem isUnbroken_comment_iff (target : Target) (s : String) :
    IsUnbroken (target.dialect.comment s).toList ↔ IsUnbroken s.toList := by
  have hmark : IsUnbroken target.dialect.commentMark.toList ∧ IsUnbroken " ".toList := by
    cases target <;> decide
  simp only [Dialect.comment, String.toList_append, isUnbroken_append_iff, hmark, true_and]

theorem isCode_comment (target : Target) {s : String} (h : IsUnbroken s.toList) :
    target.language.IsCode (target.dialect.comment s) := by
  refine ⟨(target.isUnbroken_comment_iff s).mpr h, ?_⟩
  cases target <;>
    simp [Dialect.comment, dialect, language, typescriptDialect, pythonDialect,
      Language.docText?, Language.docStart, docQuotes, quotationMark, List.dropPrefix?]

theorem docText?_quoted (target : Target) (s : String) {rest : List Char}
    (hrest : rest.head? ≠ some quotationMark) :
    target.language.docText? ((target.dialect.quoted s).toList ++ rest) = none := by
  -- A quotation mark at the front of the text is escaped, so three in a row need the rest.
  have hpython : Language.python.docText? (doubleQuoted s.toList ++ rest) = none := by
    have hprefix : ¬ docQuotes <+: doubleQuoted s.toList ++ rest :=
      fun h => hrest ((docQuotes_prefix_doubleQuoted_iff _ _).mp h).2
    have hblank : (quotationMark == ' ') = false := by decide
    rw [doubleQuoted, List.cons_append] at hprefix ⊢
    simp only [Language.docText?, Language.docStart, List.dropWhile_cons, hblank,
      Bool.false_eq_true, if_false]
    exact dropPrefix?_eq_none hprefix
  rw [Dialect.quoted, String.toList_ofList]
  cases target with
  | interface | zod => exact Language.docText?_of_head (c := apostrophe) (by decide) (by decide) _
  | typedDict | model => exact hpython

theorem isCode_quoted (target : Target) (s : String) {rest : String}
    (hline : IsUnbroken rest.toList) (hrest : rest.toList.head? ≠ some quotationMark) :
    target.language.IsCode (target.dialect.quoted s ++ rest) := by
  constructor
  · rw [String.toList_append, isUnbroken_append_iff]
    exact ⟨isUnbroken_quoted target s, hline⟩
  · rw [String.toList_append]
    exact target.docText?_quoted s hrest

theorem isCode_quotedItems (target : Target) (items : List String) :
    ∀ line ∈ target.dialect.quotedItems items, target.language.IsCode line := by
  intro line hline
  obtain ⟨item, -, rfl⟩ := List.mem_map.mp hline
  rw [Language.isCode_indented_iff]
  exact target.isCode_quoted item (by decide) (by decide)

theorem isCode_lookupRow (target : Target) (quoteValue : Bool) (key : String) {value : String}
    (hvalue : quoteValue = false → IsUnbroken value.toList) :
    target.language.IsCode (target.dialect.lookupRow quoteValue key value) := by
  have hrest : IsUnbroken (if quoteValue then target.dialect.quoted value else value).toList := by
    cases quoteValue with
    | true => exact isUnbroken_quoted target value
    | false => exact hvalue rfl
  have hmarks : IsUnbroken ": ".toList ∧ IsUnbroken ",".toList := by decide
  rw [Dialect.lookupRow, Language.isCode_indented_iff, String.append_assoc, String.append_assoc]
  refine target.isCode_quoted key ?_ (by simp [quotationMark])
  simp only [String.toList_append, isUnbroken_append_iff, hrest, hmarks, and_self]

theorem isCode_empty (target : Target) : target.language.IsCode "" := by
  cases target <;> decide

/-! ## Lookups and enumerations -/

theorem isCode_lookup (target : Target) {name key value : String} (hname : IsName name.toList)
    (htypes : IsUnbroken key.toList ∧ IsUnbroken value.toList) {quoteValues : Bool}
    {pairs : List (String × String)}
    (hpairs : quoteValues = false → ∀ pair ∈ pairs, IsUnbroken pair.2.toList) :
    ∀ line ∈ target.dialect.lookup name key value quoteValues pairs,
      target.language.IsCode line := by
  have hopening : target.language.IsCode (target.dialect.lookupOpening name key value) := by
    cases target with
    | interface | zod =>
      exact .of_nameChar (isUnbroken_enclosed hname.isUnbroken (by decide)) (c := 'e')
        (by simp [dialect, language, typescriptDialect]) (by decide)
    | typedDict | model =>
      have hrest : Language.python.IsCode (": dict[" ++ key ++ ", " ++ value ++ "] = \x7b") := by
        have hmarks : IsUnbroken ": dict[".toList ∧ IsUnbroken ", ".toList ∧
            IsUnbroken "] = \x7b".toList := by decide
        refine .of_head (c := ':') ?_ (by simp) (by decide) (by decide)
        simp only [String.toList_append, isUnbroken_append_iff, htypes, hmarks, and_self]
      simpa [dialect, language, pythonDialect, String.append_assoc] using hrest.named hname
  have hclosing : target.language.IsCode target.dialect.lookupClosing := by
    cases target <;> decide
  refine List.forall_mem_cons.mpr ⟨hopening, List.forall_mem_append.mpr ⟨fun line hline => ?_, ?_⟩⟩
  · obtain ⟨pair, hpair, rfl⟩ := List.mem_map.mp hline
    exact target.isCode_lookupRow quoteValues pair.1 fun hquote => hpairs hquote pair hpair
  · simp [hclosing, target.isCode_empty]

/-- The docstring of an enumeration, which only models have. -/
def enumerationRemarkLines (target : Target) (field : Field) : List String :=
  match target with
  | .interface | .zod | .typedDict => []
  | .model => [pythonDialect.docstring 0 field.optionsRemark]

theorem forall_enumerationLines_iff {target : Target} {P : String → Prop}
    (hP : ∀ line, target.language.IsCode line → P line) (table : Table) (field : Field) :
    (∀ line ∈ target.enumerationLines table field, P line) ↔
      ∀ line ∈ target.enumerationRemarkLines field, P line := by
  have hname := isName_enumerationName table.name field
  cases target with
  | interface | typedDict => simp [enumerationLines, enumerationRemarkLines]
  | zod =>
    have hopening : Language.typescript.IsCode
        ("export const " ++ enumerationName table.name field ++ " = z.enum([") :=
      .of_nameChar (isUnbroken_enclosed hname.isUnbroken (by decide)) (c := 'e') (by simp)
        (by decide)
    have hlines : ∀ line ∈ zod.enumerationLines table field, Language.typescript.IsCode line :=
      List.forall_mem_cons.mpr ⟨hopening, List.forall_mem_append.mpr
        ⟨zod.isCode_quotedItems field.choiceNames, by decide⟩⟩
    exact iff_of_true (fun line hline => hP line (hlines line hline))
      (by simp [enumerationRemarkLines])
  | model =>
    have hopening : Language.python.IsCode
        (enumerationName table.name field ++ " = Literal[") := .named hname (by decide)
    have hitems := model.isCode_quotedItems field.choiceNames
    have hclosing : Language.python.IsCode "]" := by decide
    simp only [enumerationLines, literalLines, enumerationRemarkLines, List.cons_append,
      List.forall_mem_cons, List.forall_mem_append]
    constructor
    · rintro ⟨-, -, hremark, -⟩
      exact ⟨hremark, by simp⟩
    · rintro ⟨hremark, -⟩
      exact ⟨hP _ hopening, ⟨fun line hline => hP line (hitems line hline), hP _ hclosing, by simp⟩,
        hremark, hP _ model.isCode_empty, by simp⟩

theorem isCode_memberLine (name : String) {type : String} (htype : IsUnbroken type.toList)
    (isOptional isReadOnly : Bool) : Language.typescript.IsCode
      (memberLine typescriptDialect name type isOptional isReadOnly) := by
  have hmark : IsUnbroken (if isOptional then "?" else "").toList ∧ IsUnbroken ": ".toList := by
    cases isOptional <;> decide
  have hrest : IsUnbroken ((if isOptional then "?" else "") ++ (": " ++ type)).toList := by
    simp only [String.toList_append, isUnbroken_append_iff, hmark, htype, and_self]
  have hquoted : Language.typescript.IsCode (typescriptDialect.quoted name ++
      ((if isOptional then "?" else "") ++ (": " ++ type))) :=
    interface.isCode_quoted name hrest (by cases isOptional <;> simp [quotationMark])
  rw [memberLine, Language.isCode_indented_iff]
  cases isReadOnly with
  | true =>
    have hword : IsUnbroken "readonly ".toList := by decide
    refine .of_nameChar (c := 'r') ?_ (by simp) (by decide)
    simpa only [if_pos, String.append_assoc, String.toList_append, isUnbroken_append_iff, hword,
      true_and] using hquoted.unbroken
  | false => simpa [String.append_assoc] using hquoted

theorem isCode_propertyLine {name type default : String} (hname : IsName name.toList)
    (htype : IsUnbroken type.toList) (hdefault : IsUnbroken default.toList) :
    Language.python.IsCode (propertyLine pythonDialect name type default) := by
  have hmarks : IsUnbroken ": ".toList ∧ IsUnbroken " = ".toList := by decide
  rw [propertyLine, Language.isCode_indented_iff]
  split
  · rw [String.append_assoc]
    refine .named hname (.of_head (c := ':') ?_ (by simp) (by decide) (by decide))
    simp only [String.toList_append, isUnbroken_append_iff, hmarks, htype, and_self]
  · simp only [String.append_assoc]
    refine .named hname (.of_head (c := ':') ?_ (by simp) (by decide) (by decide))
    simp only [String.toList_append, isUnbroken_append_iff, hmarks, htype, hdefault, and_self]

/-! ## Rows -/

theorem isCode_zodMember (table : Table) (field : Field) : Language.typescript.IsCode
    (typescriptDialect.lookupRow false field.label
      (if field.isReadOnly then zod.fieldExpression table.name field
        else zod.fieldExpression table.name field ++ ".optional()")) := by
  have htype := zod.isUnbroken_fieldExpression table.name field
  have hmark : IsUnbroken ".optional()".toList := by decide
  refine zod.isCode_lookupRow false field.label fun _ => ?_
  split
  · exact htype
  · rw [String.toList_append, isUnbroken_append_iff]
    exact ⟨htype, hmark⟩

theorem isCode_typedDictMember (table : Table) (field : Field) : Language.python.IsCode
    (pythonDialect.indented 2 (pythonDialect.quoted field.label ++ ": " ++
      (if field.isReadOnly then typedDict.fieldExpression table.name field
        else "NotRequired[" ++ typedDict.fieldExpression table.name field ++ "]") ++ ",")) := by
  have htype := typedDict.isUnbroken_fieldExpression table.name field
  have hvalue : IsUnbroken (if field.isReadOnly then typedDict.fieldExpression table.name field
      else "NotRequired[" ++ typedDict.fieldExpression table.name field ++ "]").toList := by
    split
    · exact htype
    · exact isUnbroken_enclosed htype (by decide)
  have hmarks : IsUnbroken ": ".toList ∧ IsUnbroken ",".toList := by decide
  rw [Language.isCode_indented_iff, String.append_assoc, String.append_assoc]
  refine typedDict.isCode_quoted field.label ?_ (by simp [quotationMark])
  simp only [String.toList_append, isUnbroken_append_iff, hvalue, hmarks, and_self]

theorem isCode_modelMember (table : Table) (field : Field) : Language.python.IsCode
    (if field.isReadOnly then
      propertyLine pythonDialect field.propertyName (model.fieldExpression table.name field)
        ("Field(alias=" ++ pythonDialect.quoted field.label ++ ", frozen=True)")
    else
      propertyLine pythonDialect field.propertyName
        ("Optional[" ++ model.fieldExpression table.name field ++ "]")
        ("Field(default=None, alias=" ++ pythonDialect.quoted field.label ++ ")")) := by
  have hname := field.isName_propertyName
  have htype := model.isUnbroken_fieldExpression table.name field
  have hkey := isUnbroken_quoted model field.label
  have hoptional :
      IsUnbroken ("Optional[" ++ model.fieldExpression table.name field ++ "]").toList :=
    isUnbroken_enclosed htype (by decide)
  split
  · exact isCode_propertyLine hname htype (isUnbroken_enclosed hkey (by decide))
  · exact isCode_propertyLine hname hoptional (isUnbroken_enclosed hkey (by decide))

/-! ## Records -/

theorem isCode_interfaceFrame (table : Table) :
    (∀ line ∈ interface.recordOpening table, Language.typescript.IsCode line) ∧
      ∀ line ∈ interface.recordClosing table, Language.typescript.IsCode line := by
  have hname := table.isName_typeName.isUnbroken
  have hopening : Language.typescript.IsCode
      ("export interface " ++ table.typeName ++ " \x7b") :=
    .of_nameChar (c := 'e') (isUnbroken_enclosed hname (by decide)) (by simp) (by decide)
  have hclosing : ∀ line ∈ ["\x7d", ""], Language.typescript.IsCode line := by decide
  exact ⟨List.forall_mem_singleton.mpr hopening, hclosing⟩

theorem isCode_zodFrame (table : Table) :
    (∀ line ∈ zod.recordOpening table, Language.typescript.IsCode line) ∧
      ∀ line ∈ zod.recordClosing table, Language.typescript.IsCode line := by
  have hname := table.isName_typeName.isUnbroken
  have hschema := table.isName_schemaName.isUnbroken
  have hopening : Language.typescript.IsCode
      ("export const " ++ table.schemaName ++ " = z.object(\x7b") :=
    .of_nameChar (c := 'e') (isUnbroken_enclosed hschema (by decide)) (by simp) (by decide)
  have hinferred : Language.typescript.IsCode ("export type " ++ table.typeName ++
      " = z.infer<typeof " ++ table.schemaName ++ ">") := by
    have hmarks : IsUnbroken "export type ".toList ∧ IsUnbroken " = z.infer<typeof ".toList ∧
        IsUnbroken ">".toList := by decide
    refine .of_nameChar (c := 'e') ?_ (by simp) (by decide)
    simp only [String.toList_append, isUnbroken_append_iff, hname, hschema, hmarks, and_self]
  have hends : Language.typescript.IsCode "\x7d)" ∧ Language.typescript.IsCode "" := by decide
  refine ⟨List.forall_mem_singleton.mpr hopening, ?_⟩
  simp only [recordClosing, List.forall_mem_cons]
  exact ⟨hends.1, hinferred, hends.2, by simp⟩

theorem isCode_typedDictOpening (table : Table) :
    ∀ line ∈ typedDict.recordOpening table, Language.python.IsCode line := by
  have hopening : Language.python.IsCode (table.typeName ++ " = TypedDict(") :=
    .named table.isName_typeName (by decide)
  have hname : Language.python.IsCode
      (pythonDialect.indented 1 (pythonDialect.quoted table.typeName ++ ",")) :=
    (Language.isCode_indented_iff _ _ _ _).mpr
      (typedDict.isCode_quoted table.typeName (by decide) (by decide))
  have hbrace : Language.python.IsCode (pythonDialect.indented 1 "\x7b") := by decide
  simp only [recordOpening, List.forall_mem_cons]
  exact ⟨hopening, hname, hbrace, by simp⟩

theorem isCode_modelHead (table : Table) :
    Language.python.IsCode ("class " ++ table.typeName ++ "(BaseModel):") :=
  .of_nameChar (c := 'c') (isUnbroken_enclosed table.isName_typeName.isUnbroken (by decide))
    (by simp) (by decide)

/-! ## What stands around the records -/

theorem isCode_fieldLookupLines (target : Target) (table : Table) :
    ∀ line ∈ target.fieldLookupLines table, target.language.IsCode line :=
  target.isCode_lookup table.isName_fieldLookupName (by decide) (by simp)

theorem isCode_tableTypeLines (target : Target) (tables : List Table) :
    ∀ line ∈ target.tableTypeLines tables, target.language.IsCode line := by
  have hpairs {name : Table → String} (hname : ∀ table, IsName (name table).toList) :
      ∀ pair ∈ tables.map fun table => (table.id, name table), IsUnbroken pair.2.toList := by
    intro pair hpair
    obtain ⟨table, -, rfl⟩ := List.mem_map.mp hpair
    exact (hname table).isUnbroken
  cases target with
  | interface =>
    have hopening : Language.typescript.IsCode
        ("export interface " ++ tableTypeLookup ++ " \x7b") := by decide
    have hclosing : ∀ line ∈ ["\x7d", ""], Language.typescript.IsCode line := by decide
    refine List.forall_mem_cons.mpr
      ⟨hopening, List.forall_mem_append.mpr ⟨fun line hline => ?_, hclosing⟩⟩
    obtain ⟨table, -, rfl⟩ := List.mem_map.mp hline
    exact isCode_memberLine table.id table.isName_typeName.isUnbroken false false
  | zod =>
    exact zod.isCode_lookup (by decide) (by decide) fun _ => hpairs fun table =>
      table.isName_schemaName
  | typedDict =>
    exact typedDict.isCode_lookup (by decide) (by decide) fun _ => hpairs fun table =>
      table.isName_typeName
  | model =>
    exact model.isCode_lookup (by decide) (by decide) fun _ => hpairs fun table =>
      table.isName_typeName

theorem isCode_tableLookupLines (target : Target) (tables : List Table) :
    ∀ line ∈ target.tableLookupLines tables, target.language.IsCode line :=
  List.forall_mem_append.mpr
    ⟨target.isCode_lookup (by decide) (by decide) (by simp),
      target.isCode_tableTypeLines tables⟩

theorem isCode_typescriptShared :
    ∀ declaration ∈ [interfaceAttachment, interfaceCollaborator, zodAttachment, zodCollaborator],
      ∀ line ∈ declaration.lines, Language.typescript.IsCode line := by
  simp only [interfaceAttachment, interfaceCollaborator, zodAttachment, zodCollaborator,
    List.forall_mem_cons]
  and_intros
  all_goals first
    | exact .of_chars (by decide)
    | exact List.forall_mem_nil _

theorem isCode_classLines {name parent : String}
    (hopening : IsUnbroken name.toList ∧ IsUnbroken parent.toList)
    {members : List (String × String)}
    (hmembers : ∀ m ∈ members, IsName m.1.toList ∧ IsUnbroken m.2.toList) :
    ∀ line ∈ classLines name parent members, Language.python.IsCode line := by
  refine List.forall_mem_cons.mpr ⟨?_, List.forall_mem_map.mpr fun member hmember => ?_⟩
  · have hmarks : IsUnbroken "class ".toList ∧ IsUnbroken "(".toList ∧ IsUnbroken "):".toList := by
      decide
    refine .of_nameChar (c := 'c') ?_ (by simp) (by decide)
    simp only [String.toList_append, isUnbroken_append_iff, hopening, hmarks, and_self]
  · obtain ⟨hname, htype⟩ := hmembers member hmember
    have hmark : IsUnbroken ": ".toList := by decide
    rw [Language.isCode_indented_iff, String.append_assoc]
    refine .named hname (.of_head (c := ':') ?_ (by simp) (by decide) (by decide))
    simp only [String.toList_append, isUnbroken_append_iff, htype, hmark, and_self]

theorem isCode_pythonShared {parent optionalThumbnails optionalUrl : String}
    (hparent : IsUnbroken parent.toList)
    (htypes : IsUnbroken optionalThumbnails.toList ∧ IsUnbroken optionalUrl.toList) :
    ∀ declaration ∈ [classAttachment parent optionalThumbnails, classCollaborator parent,
        classBarcode parent, classButton parent optionalUrl],
      ∀ line ∈ declaration.lines, Language.python.IsCode line := by
  have hgap : ∀ line ∈ ["", ""], Language.python.IsCode line := by decide
  refine forall_pythonShared (P := fun lines _ => ∀ line ∈ lines, Language.python.IsCode line) hgap
    (fun h h' => List.forall_mem_append.mpr ⟨h, h'⟩) fun hname hmembers =>
      isCode_classLines ⟨hname.isUnbroken, hparent⟩ fun m hm => ?_
  obtain ⟨hmember, htype | htype | htype⟩ := hmembers m hm
  · exact ⟨hmember, htype.isUnbroken⟩
  · exact ⟨hmember, htype ▸ htypes.1⟩
  · exact ⟨hmember, htype ▸ htypes.2⟩

theorem isCode_sharedDeclaration (target : Target) : ∀ declaration ∈ target.sharedDeclarations,
    ∀ line ∈ declaration.lines, target.language.IsCode line := by
  have htext {chars : List Char} (h : IsUnbroken chars) := holds_of_chars (P := IsUnbroken) h
  cases target with
  | interface | zod => exact forall_of_typescriptShared rfl isCode_typescriptShared
  | typedDict =>
    exact isCode_pythonShared (htext (by decide)) ⟨htext (by decide), htext (by decide)⟩
  | model =>
    have hemail : ∀ line ∈ modelEmail.lines, Language.python.IsCode line := by
      refine List.forall_mem_singleton.mpr (.of_nameChar (c := 'A') ?_ (by simp) (by decide))
      exact holds_of_chars_append (P := IsUnbroken) (by decide)
    exact List.forall_mem_append.mpr
      ⟨isCode_pythonShared (htext (by decide)) ⟨htext (by decide), htext (by decide)⟩,
        List.forall_mem_singleton.mpr hemail⟩

theorem isCode_sharedLines (target : Target) : ∀ declaration ∈ target.sharedDeclarations,
    ∀ line ∈ target.sharedLines declaration, target.language.IsCode line := by
  intro declaration hdeclaration
  have hend : ∀ line, line = "" → target.language.IsCode line := fun line hline =>
    hline ▸ target.isCode_empty
  refine List.forall_mem_append.mpr
    ⟨target.isCode_sharedDeclaration declaration hdeclaration, fun line hline => hend line ?_⟩
  cases target <;> simpa [language] using hline

end Target

end RecordTypes

import RecordTypes.Proofs.Generation.Declaration
import RecordTypes.Proofs.Target.Identifier

/-! When all that a text declares at top level goes by identifiers. What is the same in every text
does. What is declared for a table does if the name of the table, and those of its fields that are
enumerations, keep to identifiers and are none of the words that Python has. -/

namespace RecordTypes

theorem isName_nameAndRest (s : List Char) : IsName (nameAndRest s).1 := by
  exact List.all_eq_true.mp List.all_takeWhile

namespace Target

/-- The names at the fronts of lines, which are all that lines declare but the members of types. -/
def topNames (target : Target) (lines : List String) : List String :=
  lines.filterMap target.declaredName?

theorem isName_of_exportedName? {s : List Char} {name : String}
    (h : exportedName? s = some name) : IsName name.toList := by
  obtain ⟨rest, -, rfl⟩ := Option.map_eq_some_iff.mp h
  rw [String.toList_ofList]
  exact isName_nameAndRest rest

theorem isName_of_definedName? {s : List Char} {name : String}
    (h : definedName? s = some name) : IsName name.toList := by
  unfold definedName? at h
  split at h
  · rw [← Option.some.inj h, String.toList_ofList]
    exact isName_nameAndRest _
  · cases h

theorem isName_of_className? {s : List Char} {name : String}
    (h : className? s = some name) : IsName name.toList := by
  unfold className? at h
  split at h
  · split at h
    · rw [← Option.some.inj h, String.toList_ofList]
      exact isName_nameAndRest _
    · cases h
  · cases h

theorem isName_of_declaredName? {target : Target} {line name : String}
    (h : target.declaredName? line = some name) : IsName name.toList := by
  unfold declaredName? at h
  split at h
  · exact isName_of_exportedName? h
  · cases hname : definedName? line.toList with
    | some other =>
      rw [hname] at h
      exact isName_of_definedName? (hname.trans h)
    | none =>
      rw [hname] at h
      exact isName_of_className? h

/-- Members go by the name of their type, a point and their own name. -/
def isTopName (name : String) : Bool := !name.toList.contains '.'

theorem isTopName_of_isName {name : String} (h : IsName name.toList) : isTopName name = true := by
  have hpoint : '.' ∉ name.toList := h.not_mem (by decide)
  simpa [isTopName] using hpoint

theorem topNames_eq_filter (target : Target) (lines : List String) (owner : String) :
    target.topNames lines = (target.declaredIn owner lines).filter isTopName := by
  induction lines generalizing owner with
  | nil => rfl
  | cons line lines ih =>
    cases hname : target.declaredName? line with
    | some name =>
      have htop := isTopName_of_isName (isName_of_declaredName? hname)
      have hrest := ih name
      simp only [topNames] at hrest
      simp [topNames, declaredIn, hname, htop, hrest]
    | none =>
      have hrest := ih owner
      simp only [topNames] at hrest
      cases hmember : target.memberName? line with
      | none => simp [topNames, declaredIn, hname, hmember, hrest]
      | some member => simp [topNames, declaredIn, hname, hmember, isTopName, hrest]

def topTableNames (target : Target) (fieldIds : Bool) (table : Table) : List String :=
  table.fields.flatMap (target.enumerationNames table) ++ target.typeNames table ++
    if fieldIds then [table.fieldLookupName] else []

theorem tableNames_filter (target : Target) (fieldIds : Bool) (table : Table) :
    (target.tableNames fieldIds table).filter isTopName = target.topTableNames fieldIds table := by
  have henumerations : (table.fields.flatMap (target.enumerationNames table)).filter isTopName =
      table.fields.flatMap (target.enumerationNames table) := by
    refine List.filter_eq_self.mpr fun name hname => ?_
    obtain ⟨field, -, hname⟩ := List.mem_flatMap.mp hname
    have henum := field.isName_enumeration? table.name
    cases target with
    | interface | typedDict => cases hname
    | zod | model => exact isTopName_of_isName (henum name (Option.mem_toList.mp hname))
  have htypes : (target.typeNames table).filter isTopName = target.typeNames table := by
    have htype := isTopName_of_isName table.isName_typeName
    have hschema := isTopName_of_isName table.isName_schemaName
    cases target <;> simp [typeNames, htype, hschema]
  have hmembers : (table.fields.flatMap (target.memberNames table)).filter isTopName = [] := by
    refine List.filter_eq_nil_iff.mpr fun name hname => ?_
    obtain ⟨field, -, hname⟩ := List.mem_flatMap.mp hname
    cases target with
    | model =>
      rw [List.mem_singleton.mp hname]
      simp [isTopName]
    | _ => cases hname
  have hlookups : (if fieldIds then [table.fieldLookupName] else []).filter isTopName =
      if fieldIds then [table.fieldLookupName] else [] := by
    have hlookup := isTopName_of_isName table.isName_fieldLookupName
    cases fieldIds <;> simp [hlookup]
  simp only [tableNames, recordNames, topTableNames, List.filter_append, henumerations, htypes,
    hmembers, hlookups, List.append_nil]

/-! ## Names that are in every text -/

theorem isIdentifier_shared (target : Target) : ∀ declaration ∈ target.sharedDeclarations,
    ∀ name ∈ declaration.identifiers,
      isTopName name = true ∧ target.language.IsIdentifier name := by
  cases target <;> decide +kernel

theorem isIdentifier_lookups (target : Target) : ∀ name ∈ target.lookupIdentifiers,
    isTopName name = true ∧ target.language.IsIdentifier name := by
  cases target <;> decide +kernel

theorem topNames_assemble (target : Target) (fieldIds : Bool) (base : Base) (tables : List Table) :
    target.topNames (assemble target fieldIds base tables).lines =
      (target.written (allFields tables)).flatMap (fun declaration => declaration.identifiers) ++
        tables.flatMap (target.topTableNames fieldIds) ++
        if fieldIds then target.lookupIdentifiers else [] := by
  have hnames := (target.declares_assemble fieldIds base tables).names_eq
  have hshared : ((target.written (allFields tables)).flatMap fun declaration =>
      declaration.identifiers).filter isTopName =
      (target.written (allFields tables)).flatMap fun declaration => declaration.identifiers := by
    refine List.filter_eq_self.mpr fun name hname => ?_
    obtain ⟨declaration, hwritten, hname⟩ := List.mem_flatMap.mp hname
    exact (target.isIdentifier_shared declaration (List.mem_filter.mp hwritten).1 name hname).1
  have htables : (tables.flatMap (target.tableNames fieldIds)).filter isTopName =
      tables.flatMap (target.topTableNames fieldIds) := by
    rw [List.filter_flatMap]
    exact congrArg tables.flatMap (funext (target.tableNames_filter fieldIds))
  have hlookups : (if fieldIds then target.lookupIdentifiers else []).filter isTopName =
      if fieldIds then target.lookupIdentifiers else [] := by
    cases fieldIds with
    | true =>
      exact List.filter_eq_self.mpr fun name hname => (target.isIdentifier_lookups name hname).1
    | false => rfl
  rw [target.topNames_eq_filter _ "", ← declaredNames, hnames, assembledNames, List.filter_append,
    List.filter_append, hshared, htables, hlookups]

end Target

/-! ## Names that are made for a table -/

/-- The names of a table and of its fields with enumerations keep to identifiers, and what is
declared for them is called none of the words that Python has. -/
structure Table.KeepsToIdentifiers (table : Table) (target : Target) : Prop where
  name : target.language.Keeps table.name.toList
  typeName : target.language = .python → table.typeName ∉ capitalKeywords
  enumerations : target.mode = .schemas →
    ∀ field ∈ table.fields, field.hasEnumeration = true →
      (∃ c ∈ (table.name ++ field.label).toList, isLetterOrNumber c = true) ∧
      target.language.Keeps (table.name ++ field.label).toList ∧
      (target.language = .python → enumerationName table.name field ∉ capitalKeywords)

theorem Table.isIdentifier_enumerations_iff (table : Table) (target : Target) :
    (∀ name ∈ table.fields.flatMap (target.enumerationNames table),
        target.language.IsIdentifier name) ↔
      (target.mode = .schemas → ∀ field ∈ table.fields, field.hasEnumeration = true →
        target.language.IsIdentifier (enumerationName table.name field)) := by
  rw [List.forall_mem_flatMap]
  cases target with
  | interface | typedDict => simp [Target.enumerationNames, Target.mode]
  | zod | model => simp [Target.enumerationNames, Target.mode, Field.enumeration?]

theorem Table.isIdentifier_typeNames_iff (table : Table) (target : Target) :
    (∀ name ∈ target.typeNames table, target.language.IsIdentifier name) ↔
      target.language.IsIdentifier table.typeName := by
  have hschema : Target.zod.language.IsIdentifier table.typeName →
      Target.zod.language.IsIdentifier table.schemaName := by
    rw [table.isIdentifier_schemaName_iff, table.isIdentifier_typeName_iff]
    exact And.left
  cases target with
  | zod => simpa [Target.typeNames] using hschema
  | interface | typedDict | model => simp [Target.typeNames]

theorem Table.isIdentifier_topTableNames_iff (table : Table) (target : Target) (fieldIds : Bool) :
    (∀ name ∈ target.topTableNames fieldIds table, target.language.IsIdentifier name) ↔
      table.KeepsToIdentifiers target := by
  have hlookup (hkeeps : target.language.Keeps table.name.toList) :
      ∀ name ∈ if fieldIds then [table.fieldLookupName] else [],
        target.language.IsIdentifier name := by
    have hname := (table.isIdentifier_fieldLookupName_iff target.language).mpr hkeeps
    cases fieldIds <;> simp [hname]
  rw [Target.topTableNames, List.forall_mem_append, List.forall_mem_append,
    table.isIdentifier_enumerations_iff, table.isIdentifier_typeNames_iff,
    table.isIdentifier_typeName_iff]
  simp only [isIdentifier_enumerationName_iff]
  constructor
  · rintro ⟨⟨henumerations, hkeeps, hkeyword⟩, -⟩
    exact ⟨hkeeps, hkeyword, henumerations⟩
  · intro h
    exact ⟨⟨h.enumerations, h.name, h.typeName⟩, hlookup h.name⟩

theorem Target.isIdentifier_topNames_iff (target : Target) (fieldIds : Bool) (base : Base)
    (tables : List Table) :
    (∀ name ∈ target.topNames (assemble target fieldIds base tables).lines,
        target.language.IsIdentifier name) ↔
      ∀ table ∈ tables, table.KeepsToIdentifiers target := by
  have hshared : ∀ name ∈ (target.written (allFields tables)).flatMap
      (fun declaration => declaration.identifiers), target.language.IsIdentifier name := by
    intro name hname
    obtain ⟨declaration, hwritten, hname⟩ := List.mem_flatMap.mp hname
    exact (target.isIdentifier_shared declaration (List.mem_filter.mp hwritten).1 name hname).2
  have hlookups : ∀ name ∈ if fieldIds then target.lookupIdentifiers else [],
      target.language.IsIdentifier name := by
    cases fieldIds with
    | true => exact fun name hname => (target.isIdentifier_lookups name hname).2
    | false => simp
  have htables : (∀ name ∈ tables.flatMap (target.topTableNames fieldIds),
      target.language.IsIdentifier name) ↔ ∀ table ∈ tables, table.KeepsToIdentifiers target := by
    rw [List.forall_mem_flatMap]
    exact forall₂_congr fun table _ => table.isIdentifier_topTableNames_iff target fieldIds
  rw [target.topNames_assemble, List.forall_mem_append, List.forall_mem_append, htables]
  exact ⟨fun h => h.1.2, fun h => ⟨⟨hshared, h⟩, hlookups⟩⟩

/-! ## Digits at the front -/

theorem startsWithDigit_append {s t : List Char} (hs : startsWithDigit s = false)
    (ht : startsWithDigit t = false) : startsWithDigit (s ++ t) = false := by
  cases s with
  | nil => exact ht
  | cons c rest => exact hs

theorem startsWithDigit_pascalName (s : String) :
    startsWithDigit (pascalName s).toList = false := by
  rw [pascalName, String.toList_ofList]
  exact startsWithDigit_pascalCase s.toList

theorem Table.startsWithDigit_typeName (table : Table) :
    startsWithDigit table.typeName.toList = false := by
  rcases table.typeName_cases with ⟨-, htype⟩ | ⟨-, htype⟩
  · rw [htype]
    decide
  · rw [htype]
    exact startsWithDigit_pascalName table.name

theorem startsWithDigit_enumeration? (field : Field) (tableName : String) :
    ∀ name ∈ field.enumeration? tableName, startsWithDigit name.toList = false := by
  intro name hname
  unfold Field.enumeration? at hname
  split at hname
  · rw [← Option.some.inj hname, enumerationName, String.toList_append]
    exact startsWithDigit_append (startsWithDigit_pascalName _) (startsWithDigit_pascalName _)
  · cases hname

theorem Target.startsWithDigit_topTableNames (target : Target) (fieldIds : Bool) (table : Table) :
    ∀ name ∈ target.topTableNames fieldIds table, startsWithDigit name.toList = false := by
  have htype := table.startsWithDigit_typeName
  have hending (ending : String) (hending : startsWithDigit ending.toList = false) :
      startsWithDigit (table.typeName ++ ending).toList = false := by
    rw [String.toList_append]
    exact startsWithDigit_append htype hending
  have hschema := hending "Schema" (by decide)
  have hlookup := hending "FieldIdMapping" (by decide)
  refine List.forall_mem_append.mpr ⟨List.forall_mem_append.mpr ⟨?_, ?_⟩, ?_⟩
  · refine List.forall_mem_flatMap.mpr fun field _ name hname => ?_
    have henum := startsWithDigit_enumeration? field table.name
    cases target with
    | interface | typedDict => cases hname
    | zod | model => exact henum name (Option.mem_toList.mp hname)
  · cases target with
    | zod => exact List.forall_mem_cons.mpr ⟨hschema, List.forall_mem_singleton.mpr htype⟩
    | interface | typedDict | model => exact List.forall_mem_singleton.mpr htype
  · cases fieldIds with
    | true => exact List.forall_mem_singleton.mpr hlookup
    | false => simp

theorem Target.startsWithDigit_topNames (target : Target) (fieldIds : Bool) (base : Base)
    (tables : List Table) :
    ∀ name ∈ target.topNames (assemble target fieldIds base tables).lines,
      startsWithDigit name.toList = false := by
  rw [target.topNames_assemble]
  refine List.forall_mem_append.mpr ⟨List.forall_mem_append.mpr ⟨?_, ?_⟩, ?_⟩
  · refine List.forall_mem_flatMap.mpr fun declaration hwritten name hname => ?_
    have hdeclared := (List.mem_filter.mp hwritten).1
    have hshared := target.isIdentifier_shared declaration hdeclared name hname
    exact hshared.2.not_startsWithDigit
  · exact List.forall_mem_flatMap.mpr fun table _ =>
      target.startsWithDigit_topTableNames fieldIds table
  · cases fieldIds with
    | true => exact fun name hname => (target.isIdentifier_lookups name hname).2.not_startsWithDigit
    | false => simp

/-- No name that a text declares at top level begins with a digit. All of them are identifiers of
its language exactly if every selected table keeps to identifiers. -/
theorem topNames_of_generate {base : Base} {tables : List Table} {options : GenerationOptions}
    {text : String} (h : generate base tables options = .ok text) :
    ∃ selected, selectIf tables options.requested = .ok selected ∧
      text = (assemble options.target options.fieldIds base selected).text ∧
      (∀ name ∈ options.target.topNames
          (assemble options.target options.fieldIds base selected).lines,
        startsWithDigit name.toList = false) ∧
      ((∀ name ∈ options.target.topNames
          (assemble options.target options.fieldIds base selected).lines,
        options.target.language.IsIdentifier name) ↔
        ∀ table ∈ selected, table.KeepsToIdentifiers options.target) := by
  obtain ⟨selected, hselect, htext, -⟩ := generate_eq_ok h
  exact ⟨selected, hselect, htext,
    options.target.startsWithDigit_topNames options.fieldIds base selected,
    options.target.isIdentifier_topNames_iff options.fieldIds base selected⟩

def plansBase : Base := ⟨"appP", "Plans", .create⟩

def stateField : Field :=
  .plain ⟨some "fldS", some "2nd state", none⟩
    (.choice .singleSelect [⟨"selO", "open", none⟩, ⟨"selD", "done", none⟩])

def plansTable (name : String) (fields : List Field) : Table where
  id := "tblP"
  name := name
  primaryFieldId := "fldS"
  description := none
  fields := fields
  views := []

def modelOptions : GenerationOptions := ⟨.python, .schemas, true, none⟩

theorem generate_plans :
    generate plansBase [plansTable "Plans für 2025" [stateField]] modelOptions =
      .ok (assemble .model true plansBase [plansTable "Plans für 2025" [stateField]]).text :=
  generate_of_nodup plansBase _ modelOptions rfl (by decide +kernel)

theorem plans_keep_to_identifiers :
    generate plansBase [plansTable "Plans für 2025" [stateField]] modelOptions =
      .ok (assemble .model true plansBase [plansTable "Plans für 2025" [stateField]]).text ∧
    ∃ selected, selectIf [plansTable "Plans für 2025" [stateField]] none = .ok selected ∧
      ∀ name ∈ Target.model.topNames (assemble .model true plansBase selected).lines,
        Language.python.IsIdentifier name := by
  obtain ⟨selected, hselect, -, -, hidentifiers⟩ := topNames_of_generate generate_plans
  refine ⟨generate_plans, selected, hselect, hidentifiers.mpr fun table htable => ?_⟩
  cases hselect
  rw [List.mem_singleton.mp htable]
  refine ⟨by decide +kernel, by decide +kernel, fun _ field hfield _ => ?_⟩
  rw [List.mem_singleton.mp hfield]
  exact ⟨⟨'P', by decide +kernel⟩, by decide +kernel, by decide +kernel⟩

def dictOptions : GenerationOptions := ⟨.python, .types, false, none⟩

def noneTable : Table :=
  plansTable "None" [.plain ⟨some "fldS", some "State", none⟩ (.basic .singleLineText none)]

/-- The type of a table that is called like a word of Python gets that word for its name. -/
theorem none_is_no_identifier :
    generate plansBase [noneTable] dictOptions =
      .ok (assemble .typedDict false plansBase [noneTable]).text ∧
    ¬ ∀ name ∈ Target.typedDict.topNames
        (assemble .typedDict false plansBase [noneTable]).lines,
      Language.python.IsIdentifier name := by
  refine ⟨generate_of_nodup plansBase _ dictOptions rfl (by decide +kernel), ?_⟩
  rw [show Language.python = Target.typedDict.language from rfl, Target.isIdentifier_topNames_iff]
  intro h
  have hkeyword := (h _ (List.mem_singleton.mpr rfl)).typeName rfl
  exact hkeyword (by decide +kernel)

end RecordTypes

import RecordTypes.Proofs.Code.Reader
import RecordTypes.Proofs.Target.Opening
import RecordTypes.Proofs.Target.Row

/-! Lookups read back from lines. A lookup goes from the line that opens it to the first one that
begins with a closing brace. It has one entry a line: a key, which is a text, and a value, which is
a text or a piece of code. -/

namespace RecordTypes

/-! ## Entries -/

inductive LookupValue where
  | text (s : String)
  | code (s : String)
  deriving DecidableEq

structure LookupEntry where
  key : String
  value : LookupValue
  deriving DecidableEq

structure ReadLookup where
  name : String
  entries : List LookupEntry
  deriving DecidableEq

namespace Language

def readQuoted : Language → List Char → Option (List Char × List Char)
  | .typescript => readSingleQuoted
  | .python => readDoubleQuoted

/-- What is a literal as a whole is a text. -/
def readValue (language : Language) (s : List Char) : LookupValue :=
  match language.readQuoted s with
  | some (text, []) => .text (String.ofList text)
  | _ => .code (String.ofList s)

end Language

namespace Target

/-- The entry that a line has. A comma may end it. -/
def readEntry (target : Target) (line : String) : Option LookupEntry := do
  let rest ← line.toList.dropPrefix? (List.replicate target.dialect.indentWidth ' ')
  let (key, rest) ← target.language.readQuoted rest
  let value ← rest.dropPrefix? ": ".toList
  return ⟨String.ofList key, target.language.readValue ((value.dropSuffix? [',']).getD value)⟩

theorem readQuoted_quote (target : Target) (s rest : List Char) :
    target.language.readQuoted (target.dialect.quote s ++ rest) = some (s, rest) := by
  cases target with
  | interface | zod => exact readSingleQuoted_append s rest
  | typedDict | model => exact readDoubleQuoted_append s rest

theorem readValue_quoted (target : Target) (s : String) :
    target.language.readValue (target.dialect.quoted s).toList = .text s := by
  have hread := target.readQuoted_quote s.toList []
  rw [List.append_nil] at hread
  rw [Dialect.quoted, String.toList_ofList, Language.readValue, hread]
  exact congrArg LookupValue.text String.ofList_toList

theorem readValue_of_isName (language : Language) {s : String} (hs : IsName s.toList) :
    language.readValue s.toList = .code s := by
  have hnone : language.readQuoted s.toList = none := by
    cases hchars : s.toList with
    | nil => cases language <;> rfl
    | cons c rest =>
      rw [hchars] at hs
      have happosed : apostrophe ∉ c :: rest := hs.not_mem (by decide)
      have hquoted : quotationMark ∉ c :: rest := hs.not_mem (by decide)
      cases language with
      | typescript => exact if_neg fun h => happosed (by simp [beq_iff_eq.mp h])
      | python => exact if_neg fun h => hquoted (by simp [beq_iff_eq.mp h])
  rw [Language.readValue, hnone]
  exact congrArg LookupValue.code String.ofList_toList

theorem readEntry_eq {target : Target} {line : String} (key : String) (value : List Char)
    (hline : line = target.dialect.indented 1 (target.dialect.quoted key ++ ": " ++
      String.ofList value)) :
    target.readEntry line =
      some ⟨key, target.language.readValue ((value.dropSuffix? [',']).getD value)⟩ := by
  have hchars : line.toList = List.replicate target.dialect.indentWidth ' ' ++
      (target.dialect.quote key.toList ++ (": ".toList ++ value)) := by
    rw [hline]
    simp [Dialect.indented, Dialect.quoted]
  rw [readEntry, hchars]
  simp only [dropPrefix?_append, readQuoted_quote, Option.bind_eq_bind, Option.bind_some,
    String.ofList_toList]
  rfl

theorem readEntry_lookupRow (target : Target) {quoteValue : Bool} {key value : String}
    (hvalue : quoteValue = false → IsName value.toList) :
    target.readEntry (target.dialect.lookupRow quoteValue key value) =
      some ⟨key, if quoteValue then .text value else .code value⟩ := by
  have hread (s : String) : target.readEntry (target.dialect.indented 1
      (target.dialect.quoted key ++ ": " ++ s ++ ",")) =
        some ⟨key, target.language.readValue s.toList⟩ := by
    rw [readEntry_eq key (s.toList ++ [',']) (by simp [String.append_assoc]), dropSuffix?_append]
    rfl
  rw [Dialect.lookupRow]
  cases quoteValue with
  | true => rw [if_pos rfl, hread, readValue_quoted, if_pos rfl]
  | false =>
    rw [if_neg Bool.false_ne_true, hread, readValue_of_isName _ (hvalue rfl),
      if_neg Bool.false_ne_true]

theorem readEntry_memberLine {name type : String} (htype : IsName type.toList) :
    interface.readEntry (memberLine typescriptDialect name type false false) =
      some ⟨name, .code type⟩ := by
  have hcomma : ¬ [','] <:+ type.toList :=
    fun h => htype.not_mem (by decide : isNameChar ',' = false) (h.subset List.mem_cons_self)
  rw [readEntry_eq name type.toList (by simp [memberLine, dialect, language]),
    dropSuffix?_eq_none hcomma]
  exact congrArg _ (congrArg _ (readValue_of_isName _ htype))

/-! ## Lookups -/

/-- What the types of records by the ids of their tables are called. -/
def typeLookup : Target → String
  | .zod => tableSchemaLookup
  | .interface | .typedDict | .model => tableTypeLookup

/-- A lookup of interfaces is an interface too, and told by its name. -/
def opensLookup (line : String) : Bool :=
  " = \x7b".toList.isSuffixOf line.toList ||
    line == "export interface " ++ tableTypeLookup ++ " \x7b"

def closesLookup (line : String) : Bool := line.toList.head? == some '\x7d'

/-- The name of the lookup that a line opens. -/
def lookupName? (target : Target) (line : String) : Option String :=
  if opensLookup line then target.declaredName? line else none

/-- All lookups that lines have, from top to bottom. -/
def readLookups (target : Target) : List String → List ReadLookup
  | [] => []
  | line :: rest =>
    match target.lookupName? line with
    | some name =>
      ⟨name, (rest.takeWhile fun later => !closesLookup later).filterMap target.readEntry⟩ ::
        target.readLookups rest
    | none => target.readLookups rest

/-- Whatever comes after the lines, they have the lookups. -/
def HasLookups (target : Target) (lines : List String) (lookups : List ReadLookup) : Prop :=
  ∀ rest, target.readLookups (lines ++ rest) = lookups ++ target.readLookups rest

theorem HasLookups.read_eq {target : Target} {lines : List String} {lookups : List ReadLookup}
    (h : target.HasLookups lines lookups) : target.readLookups lines = lookups :=
  ReadsAs.read_eq h rfl

theorem HasLookups.append {target : Target} {lines lines' : List String}
    {lookups lookups' : List ReadLookup} (h : target.HasLookups lines lookups)
    (h' : target.HasLookups lines' lookups') :
    target.HasLookups (lines ++ lines') (lookups ++ lookups') :=
  ReadsAs.append h h'

theorem HasLookups.flatMap {α : Type} {target : Target} {lines : α → List String}
    {lookups : α → List ReadLookup} {xs : List α}
    (h : ∀ x ∈ xs, target.HasLookups (lines x) (lookups x)) :
    target.HasLookups (xs.flatMap lines) (xs.flatMap lookups) :=
  ReadsAs.flatMap h

theorem HasLookups.of_none {target : Target} {lines : List String}
    (h : ∀ line ∈ lines, target.lookupName? line = none) : target.HasLookups lines [] := by
  refine ReadsAs.of_passed fun line hline rest => ?_
  rw [readLookups, h line hline]

theorem lookupName?_of_undeclared {target : Target} {line : String}
    (h : target.declaredName? line = none) : target.lookupName? line = none := by
  rw [lookupName?, h, ite_self]

theorem HasLookups.of_silent {target : Target} {lines : List String}
    (h : ∀ line ∈ lines, target.IsSilent line) : target.HasLookups lines [] :=
  of_none fun line hline => lookupName?_of_undeclared (h line hline).declared

/-- A lookup is read from the line that opens it to the one that closes it, as far as the lines in
between are indented and have one entry each. -/
theorem HasLookups.of_block {α : Type} {target : Target} {opening closing name : String}
    {row : α → String} {entry : α → LookupEntry} {xs : List α}
    (hopening : target.lookupName? opening = some name)
    (hblank : ∀ x ∈ xs, (row x).toList.head? = some ' ')
    (hrows : ∀ x ∈ xs, target.IsSilent (row x))
    (hread : ∀ x ∈ xs, target.readEntry (row x) = some (entry x))
    (hcloses : closesLookup closing = true)
    (hclosing : ∀ line ∈ [closing, ""], target.IsSilent line) :
    target.HasLookups (opening :: xs.map row ++ [closing, ""]) [⟨name, xs.map entry⟩] := by
  intro rest
  have hinside : ∀ line ∈ xs.map row, (!closesLookup line) = true := by
    intro line hline
    obtain ⟨x, hx, rfl⟩ := List.mem_map.mp hline
    rw [closesLookup, hblank x hx]
    rfl
  have htake : ((xs.map row ++ closing :: "" :: rest).takeWhile fun line =>
      !closesLookup line) = xs.map row := by
    rw [List.takeWhile_append_of_pos hinside]
    simp [hcloses]
  have hentries : (xs.map row).filterMap target.readEntry = xs.map entry := by
    rw [List.filterMap_map, ← List.filterMap_eq_map]
    exact List.filterMap_congr hread
  have hafter : target.HasLookups (xs.map row ++ [closing, ""]) [] := by
    refine of_silent (List.forall_mem_append.mpr ⟨fun line hline => ?_, hclosing⟩)
    obtain ⟨x, hx, rfl⟩ := List.mem_map.mp hline
    exact hrows x hx
  have hrest : target.readLookups (xs.map row ++ closing :: "" :: rest) =
      target.readLookups rest := by
    simpa using hafter rest
  have hlines : opening :: xs.map row ++ [closing, ""] ++ rest =
      opening :: (xs.map row ++ closing :: "" :: rest) := by simp
  rw [hlines, readLookups, hopening]
  simp only [htake, hentries, hrest, List.cons_append, List.nil_append]

/-! ## Lookups of ids and types -/

theorem opensLookup_lookupOpening (target : Target) (name key value : String) :
    opensLookup (target.dialect.lookupOpening name key value) = true := by
  have hmark : " = \x7b".toList <:+ (target.dialect.lookupOpening name key value).toList := by
    cases target with
    | interface | zod => exact ⟨("export const " ++ name).toList, by simp [dialect, language,
        typescriptDialect]⟩
    | typedDict | model => exact ⟨(name ++ ": dict[" ++ key ++ ", " ++ value ++ "]").toList,
        by simp [dialect, language, pythonDialect]⟩
  rw [opensLookup, List.isSuffixOf_iff_suffix.mpr hmark, Bool.true_or]

theorem hasLookups_lookup (target : Target) {name : String} (hname : IsName name.toList)
    (key value : String) (quoteValues : Bool) (pairs : List (String × String))
    (hvalues : quoteValues = false → ∀ pair ∈ pairs, IsName pair.2.toList) :
    target.HasLookups (target.dialect.lookup name key value quoteValues pairs)
      [⟨name, pairs.map fun pair =>
        ⟨pair.1, if quoteValues then .text pair.2 else .code pair.2⟩⟩] := by
  have hopening : target.lookupName? (target.dialect.lookupOpening name key value) = some name := by
    rw [lookupName?, opensLookup_lookupOpening, if_pos rfl]
    exact target.declaredName?_lookupOpening hname key value
  have hcloses : closesLookup target.dialect.lookupClosing = true := by cases target <;> decide
  refine HasLookups.of_block hopening (fun pair _ => ?_)
    (fun pair _ => target.isSilent_lookupRow quoteValues pair.1 pair.2)
    (fun pair hpair => target.readEntry_lookupRow fun h => hvalues h pair hpair)
    hcloses target.isSilent_lookupClosing
  cases target <;> simp [Dialect.lookupRow, Dialect.indented, dialect, language, typescriptDialect,
    pythonDialect, List.replicate]

/-- The type of a record as others refer to it, which is its schema where there is one. -/
def recordName (target : Target) (table : Table) : String :=
  match target with
  | .zod => table.schemaName
  | .interface | .typedDict | .model => table.typeName

theorem isName_recordName (target : Target) (table : Table) :
    IsName (target.recordName table).toList := by
  cases target with
  | zod => exact table.isName_schemaName
  | interface | typedDict | model => exact table.isName_typeName

def fieldLookup (table : Table) : ReadLookup where
  name := table.fieldLookupName
  entries := table.fields.map fun field => ⟨field.label, .text (field.heading.id.getD "")⟩

def idLookup (tables : List Table) : ReadLookup where
  name := tableIdLookup
  entries := tables.map fun table => ⟨table.name, .text table.id⟩

def recordLookup (target : Target) (tables : List Table) : ReadLookup where
  name := target.typeLookup
  entries := tables.map fun table => ⟨table.id, .code (target.recordName table)⟩

theorem hasLookups_fieldLookupLines (target : Target) (table : Table) :
    target.HasLookups (target.fieldLookupLines table) [fieldLookup table] := by
  have hlookup := target.hasLookups_lookup table.isName_fieldLookupName "str" "str" true
    (table.fields.map fun field => (field.label, field.heading.id.getD "")) (by simp)
  simpa [fieldLookupLines, fieldLookup, Function.comp_def] using hlookup

theorem hasLookups_tableIdLines (target : Target) (tables : List Table) :
    target.HasLookups (target.dialect.lookup tableIdLookup "str" "str" true
      (tables.map fun table => (table.name, table.id))) [idLookup tables] := by
  have hlookup := target.hasLookups_lookup isName_tableIdLookup "str" "str" true
    (tables.map fun table => (table.name, table.id)) (by simp)
  simpa [idLookup, Function.comp_def] using hlookup

theorem hasLookups_codeLines (target : Target) {name : String} (hname : IsName name.toList)
    (value : String) (tables : List Table) :
    target.HasLookups (target.dialect.lookup name "str" value false
        (tables.map fun table => (table.id, target.recordName table)))
      [⟨name, tables.map fun table => ⟨table.id, .code (target.recordName table)⟩⟩] := by
  have hlookup := target.hasLookups_lookup hname "str" value false
    (tables.map fun table => (table.id, target.recordName table))
    (fun _ pair hpair => ?_)
  · simpa [Function.comp_def] using hlookup
  · obtain ⟨table, -, rfl⟩ := List.mem_map.mp hpair
    exact target.isName_recordName table

theorem hasLookups_tableTypeLines (target : Target) (tables : List Table) :
    target.HasLookups (target.tableTypeLines tables) [target.recordLookup tables] := by
  cases target with
  | interface =>
    have hopening : interface.lookupName? ("export interface " ++ tableTypeLookup ++ " \x7b") =
        some tableTypeLookup := by decide
    have hchars (table : Table) :
        (memberLine typescriptDialect table.id table.typeName false false).toList =
          ' ' :: ' ' :: ((typescriptDialect.quoted table.id).toList ++
            (": ".toList ++ table.typeName.toList)) := by
      simp [memberLine, Dialect.indented, typescriptDialect, List.replicate]
    exact HasLookups.of_block hopening (fun table _ => by rw [hchars]; rfl)
      (fun table _ => IsSilent.of_blanks (by decide) (hchars table))
      (fun table _ => readEntry_memberLine table.isName_typeName) (by decide) (by decide)
  | zod => exact zod.hasLookups_codeLines (by decide) "str" tables
  | typedDict => exact typedDict.hasLookups_codeLines isName_tableTypeLookup "type" tables
  | model => exact model.hasLookups_codeLines isName_tableTypeLookup "type[BaseModel]" tables

/-! ## Lines without lookups -/

theorem lookupName?_of_unmarked (target : Target) {line : String}
    (hmark : ¬ " = \x7b".toList <:+ line.toList)
    (hother : line ≠ "export interface " ++ tableTypeLookup ++ " \x7b") :
    target.lookupName? line = none := by
  rw [← List.isSuffixOf_iff_suffix, ← ne_eq, ← Bool.eq_false_iff] at hmark
  rw [lookupName?, opensLookup, hmark, beq_false_of_ne hother]
  rfl

theorem lookupName?_of_last (target : Target) {line : String} (front : String) {c : Char}
    (hline : line.toList = front.toList ++ [c]) (hc : c ≠ '\x7b') :
    target.lookupName? line = none := by
  have hlast : line.toList.getLast? = some c := by rw [hline, List.getLast?_concat]
  refine target.lookupName?_of_unmarked ?_ ?_
  · rintro ⟨start, hstart⟩
    rw [← hstart, List.getLast?_append] at hlast
    exact hc (Option.some.inj hlast).symm
  · rintro rfl
    exact hc (Option.some.inj hlast).symm

theorem lookupName?_header (target : Target) (base : Base) :
    ∀ line ∈ target.header base, target.lookupName? line = none :=
  fun line hline => lookupName?_of_undeclared (target.isSilent_header base line hline).declared

theorem lookupName?_of_opensNothing {target : Target} {line : String}
    (h : target.OpensNothing line) : target.lookupName? line = none := by
  rcases h with hnone | ⟨c, hlast, hc, -⟩
  · exact lookupName?_of_undeclared hnone
  · obtain ⟨front, hline⟩ := List.getLast?_eq_some_iff.mp hlast
    exact target.lookupName?_of_last (String.ofList front) (by simpa using hline) hc

theorem lookupName?_empty (target : Target) (lines : List String) (h : ∀ line ∈ lines, line = "") :
    ∀ line ∈ lines, target.lookupName? line = none := by
  intro line hline
  rw [h line hline]
  exact lookupName?_of_undeclared target.isSilent_empty.declared

theorem lookupName?_of_chars (target : Target) {chars : List Char}
    (hmark : ¬ " = \x7b".toList <:+ chars)
    (hother : chars ≠ ("export interface " ++ tableTypeLookup ++ " \x7b").toList) :
    target.lookupName? (String.ofList chars) = none := by
  have hchars : (String.ofList chars).toList = chars := String.toList_ofList
  refine target.lookupName?_of_unmarked ?_ fun hline => hother ?_
  · rwa [hchars]
  · rw [← hline, hchars]

theorem lookupName?_typescriptShared (target : Target) :
    ∀ declaration ∈ [interfaceAttachment, interfaceCollaborator, zodAttachment, zodCollaborator],
      ∀ line ∈ declaration.lines, target.lookupName? line = none := by
  simp only [interfaceAttachment, interfaceCollaborator, zodAttachment, zodCollaborator,
    List.forall_mem_cons]
  and_intros
  all_goals first
    | exact target.lookupName?_of_chars (by decide) (by decide)
    | exact List.forall_mem_nil _

theorem lookupName?_sharedDeclarations (target : Target) :
    ∀ declaration ∈ target.sharedDeclarations,
      ∀ line ∈ declaration.lines, target.lookupName? line = none :=
  forall_sharedDeclarations (fun _ => lookupName?_of_opensNothing)
    target.lookupName?_typescriptShared

theorem lookupName?_sharedLines (target : Target) : ∀ declaration ∈ target.sharedDeclarations,
    ∀ line ∈ target.sharedLines declaration, target.lookupName? line = none := by
  intro declaration hdeclaration
  refine List.forall_mem_append.mpr
    ⟨target.lookupName?_sharedDeclarations declaration hdeclaration, target.lookupName?_empty _ ?_⟩
  cases target <;> simp [language]

theorem lookupName?_enumerationLines (target : Target) (table : Table) (field : Field) :
    ∀ line ∈ target.enumerationLines table field, target.lookupName? line = none := by
  have hitems : ∀ line ∈ target.dialect.quotedItems field.choiceNames,
      target.lookupName? line = none := fun line hline =>
    lookupName?_of_undeclared (target.isSilent_quotedItems field.choiceNames line hline).declared
  cases target with
  | interface | typedDict => simp [enumerationLines]
  | zod =>
    have hopening : zod.lookupName? ("export const " ++ enumerationName table.name field ++
        " = z.enum([") = none :=
      zod.lookupName?_of_last ("export const " ++ enumerationName table.name field ++ " = z.enum(")
        (by simp) (by decide : '[' ≠ '\x7b')
    exact List.forall_mem_cons.mpr ⟨hopening, List.forall_mem_append.mpr ⟨hitems, by decide⟩⟩
  | model =>
    have hopening : model.lookupName? (enumerationName table.name field ++ " = Literal[") = none :=
      model.lookupName?_of_last (enumerationName table.name field ++ " = Literal")
        (by simp) (by decide : '[' ≠ '\x7b')
    have hremark := lookupName?_of_undeclared (model.isSilent_tableRemark
      ("Select options for \x60" ++ oneLineText field.label ++ "\x60")).declared
    have hempty := lookupName?_of_undeclared model.isSilent_empty.declared
    refine List.forall_mem_append.mpr ⟨List.forall_mem_append.mpr
      ⟨List.forall_mem_cons.mpr ⟨hopening, hitems⟩, by decide⟩, ?_⟩
    simp [hremark, hempty]

theorem lookupName?_recordLines {target : Target} {table : Table}
    (hname : target = .interface → table.typeName ≠ tableTypeLookup) :
    ∀ line ∈ target.recordLines table, target.lookupName? line = none := by
  rw [recordLines_eq]
  refine List.forall_mem_append.mpr ⟨?_, List.forall_mem_append.mpr
    ⟨fun line hline => ?_, fun line hline => ?_⟩⟩
  · cases target with
    | interface =>
      -- No name has an equals sign in it, so the interface could be a lookup only by its own name.
      refine List.forall_mem_singleton.mpr (interface.lookupName?_of_unmarked (fun hmark => ?_) ?_)
      · have hequals : '=' ∉ table.typeName.toList :=
          table.isName_typeName.not_mem (by decide)
        have hmem := hmark.subset (by decide : '=' ∈ " = \x7b".toList)
        simp [hequals] at hmem
      · intro hline
        refine hname rfl ?_
        rw [← String.toList_inj] at hline ⊢
        simpa using hline
    | zod =>
      refine List.forall_mem_singleton.mpr (zod.lookupName?_of_unmarked ?_ fun hline => ?_)
      · rw [← List.isSuffixOf_iff_suffix]
        simp [List.isSuffixOf, List.isPrefixOf]
      · rw [← String.toList_inj] at hline
        simp at hline
    | typedDict | model =>
      exact fun line hline =>
        lookupName?_of_opensNothing (opensNothing_recordOpening rfl table line hline)
  · exact lookupName?_of_opensNothing (target.opensNothing_rowBlock table _ line hline)
  · exact lookupName?_of_opensNothing (target.opensNothing_recordClosing table line hline)

theorem hasLookups_tableLines {target : Target} {table : Table}
    (hname : target = .interface → table.typeName ≠ tableTypeLookup) :
    target.HasLookups (target.tableLines true table) [fieldLookup table] := by
  have henumerations : target.HasLookups (target.enumerationBlock table) [] := by
    refine HasLookups.of_none fun line hline => ?_
    obtain ⟨field, -, hline⟩ := List.mem_flatMap.mp hline
    exact target.lookupName?_enumerationLines table field line hline
  have hrecord := HasLookups.of_none (lookupName?_recordLines hname)
  exact (henumerations.append hrecord).append (target.hasLookups_fieldLookupLines table)

theorem filterMap_readEntry_blanks (target : Target) (lines : List String) {blanks : List String}
    (hblanks : ∀ line ∈ blanks, line = "") :
    ((lines ++ blanks).takeWhile fun line => !closesLookup line).filterMap target.readEntry =
      (lines.takeWhile fun line => !closesLookup line).filterMap target.readEntry := by
  induction lines with
  | nil =>
    refine List.filterMap_eq_nil_iff.mpr fun line hline => ?_
    rw [hblanks line ((List.takeWhile_prefix _).subset hline)]
    cases target <;> decide
  | cons line later ih =>
    cases hcloses : closesLookup line with
    | true => simp [hcloses]
    | false => simp [hcloses, List.filterMap_cons, ih]

theorem readLookups_blanks (target : Target) (lines : List String) {blanks : List String}
    (hblanks : ∀ line ∈ blanks, line = "") :
    target.readLookups (lines ++ blanks) = target.readLookups lines := by
  induction lines with
  | nil =>
    refine (HasLookups.of_silent fun line hline => ?_).read_eq
    rw [hblanks line hline]
    exact target.isSilent_empty
  | cons line rest ih =>
    rw [List.cons_append, readLookups, readLookups]
    cases target.lookupName? line with
    | some name => rw [target.filterMap_readEntry_blanks rest hblanks, ih]
    | none => exact ih

end Target

end RecordTypes

import RecordTypes.Proofs.Code.LiteralText
import RecordTypes.Proofs.Code.Reader
import RecordTypes.Proofs.Target.Chain
import RecordTypes.Proofs.Target.Opening
import RecordTypes.Proofs.Value.Choices

/-! Enumerations read back from lines. An enumeration goes from the line that opens it to the first
one that begins with a closing bracket, and its choices are the string literals in between. -/

namespace RecordTypes

structure ReadEnumeration where
  name : String
  choices : Option (List String)
  deriving DecidableEq

/-- The lines as one piece of code. -/
def linesCode (lines : List String) : List Char :=
  lines.flatMap fun line => line.toList ++ ['\n']

namespace Target

def enumerationOpening (target : Target) (name : String) : String :=
  match target.language with
  | .typescript => "export const " ++ name ++ " = z.enum(["
  | .python => name ++ " = Literal["

/-- The name of the enumeration that a line opens. -/
def enumerationName? (target : Target) (line : String) : Option String :=
  (target.declaredName? line).filter fun name => line == target.enumerationOpening name

def closesEnumeration (line : String) : Bool := line.toList.head? == some ']'

/-- All enumerations that lines have, from top to bottom. -/
def readEnumerations (target : Target) : List String → List ReadEnumeration
  | [] => []
  | line :: rest =>
    match target.enumerationName? line with
    | some name =>
      ⟨name, literalTexts (linesCode (rest.takeWhile fun later => !closesEnumeration later))⟩ ::
        target.readEnumerations rest
    | none => target.readEnumerations rest

/-! ## Enumerations as they are written -/

theorem declaredName?_enumerationOpening (target : Target) {name : String}
    (hname : IsName name.toList) :
    target.declaredName? (target.enumerationOpening name) = some name := by
  cases target with
  | interface | zod =>
    exact declaredName?_export rfl (by decide : "export const " ∈ declarators) hname
      (by simp [enumerationOpening, language]; rfl)
  | typedDict | model =>
    exact declaredName?_define rfl (by decide : " = Literal[" ∈ definers) hname
      (by simp [enumerationOpening, language]; rfl)

theorem enumerationName?_opening (target : Target) {name : String} (hname : IsName name.toList) :
    target.enumerationName? (target.enumerationOpening name) = some name := by
  rw [enumerationName?, target.declaredName?_enumerationOpening hname]
  simp

theorem enumerationName?_of_undeclared {target : Target} {line : String}
    (h : target.declaredName? line = none) : target.enumerationName? line = none := by
  rw [enumerationName?, h]
  rfl

theorem readsAs_of_undeclared {target : Target} {lines : List String}
    (h : ∀ line ∈ lines, target.enumerationName? line = none) :
    ReadsAs target.readEnumerations lines [] := by
  refine ReadsAs.of_passed fun line hline rest => ?_
  rw [readEnumerations, h line hline]

theorem enumerationName?_of_silent {target : Target} {lines : List String}
    (h : ∀ line ∈ lines, target.IsSilent line) :
    ∀ line ∈ lines, target.enumerationName? line = none :=
  fun line hline => enumerationName?_of_undeclared (h line hline).declared

theorem hasLiterals_quotedItems (target : Target) (items : List String) :
    HasLiterals (linesCode (target.dialect.quotedItems items)) items := by
  have hitem (item : String) : HasLiterals
      ((target.dialect.indented 1 (target.dialect.quoted item ++ ",")).toList ++ ['\n'])
      [item] := by
    have hindent : HasLiterals (List.replicate (target.dialect.indentWidth * 1) ' ') [] := by
      cases target <;> decide
    have hend : HasLiterals [',', '\n'] [] := by decide
    have hline := (hindent.append (target.hasLiterals_quoted item)).append hend
    simpa [Dialect.indented] using hline
  have hitems : HasLiterals (items.flatMap fun item =>
      (target.dialect.indented 1 (target.dialect.quoted item ++ ",")).toList ++ ['\n'])
      (items.flatMap fun item => [item]) :=
    HasLiterals.flatMap fun item _ => hitem item
  rw [List.flatMap_singleton'] at hitems
  rwa [linesCode, Dialect.quotedItems, List.flatMap_map]

theorem readsAs_enumeration (target : Target) {name : String} (hname : IsName name.toList)
    (items : List String) {closing : String} {after : List String}
    (hcloses : closesEnumeration closing = true)
    (hafter : ∀ line ∈ closing :: after, target.IsSilent line) :
    ReadsAs target.readEnumerations
      (target.enumerationOpening name :: target.dialect.quotedItems items ++ closing :: after)
      [⟨name, some items⟩] := by
  intro rest
  have hinside : ∀ line ∈ target.dialect.quotedItems items, (!closesEnumeration line) = true := by
    intro line hline
    obtain ⟨item, -, rfl⟩ := List.mem_map.mp hline
    cases target <;> simp [closesEnumeration, Dialect.indented, dialect, language,
      typescriptDialect, pythonDialect, List.replicate]
  have htake : ((target.dialect.quotedItems items ++ (closing :: after ++ rest)).takeWhile
      fun line => !closesEnumeration line) = target.dialect.quotedItems items := by
    rw [List.takeWhile_append_of_pos hinside]
    simp [hcloses]
  have hsilent : ∀ line ∈ target.dialect.quotedItems items ++ closing :: after,
      target.IsSilent line :=
    List.forall_mem_append.mpr ⟨target.isSilent_quotedItems items, hafter⟩
  have hrest := readsAs_of_undeclared (enumerationName?_of_silent hsilent) rest
  rw [List.append_assoc, List.nil_append] at hrest
  rw [List.cons_append, List.cons_append, List.append_assoc, readEnumerations,
    target.enumerationName?_opening hname]
  dsimp only
  rw [htake, (target.hasLiterals_quotedItems items).literalTexts_eq, hrest]
  rfl

end Target

/-- The enumeration of a field, with its choices. -/
def Table.enumeration (table : Table) (field : Field) : ReadEnumeration where
  name := enumerationName table.name field
  choices := some field.choiceNames

namespace Target

theorem readsAs_enumerationLines {target : Target} (h : target.mode = .schemas) (table : Table)
    (field : Field) :
    ReadsAs target.readEnumerations (target.enumerationLines table field)
      [table.enumeration field] := by
  have hname := isName_enumerationName table.name field
  cases target with
  | interface | typedDict => cases h
  | zod =>
    have hafter : ∀ line ∈ ["])", ""], zod.IsSilent line := by decide
    exact zod.readsAs_enumeration hname field.choiceNames (by decide) hafter
  | model =>
    have hremark := model.isSilent_tableRemark
      ("Select options for \x60" ++ oneLineText field.label ++ "\x60")
    have hafter : ∀ line ∈ "]" :: [pythonDialect.docstring 0
        ("Select options for \x60" ++ oneLineText field.label ++ "\x60"), ""],
        model.IsSilent line :=
      List.forall_mem_cons.mpr ⟨by decide, List.forall_mem_cons.mpr
        ⟨hremark, List.forall_mem_singleton.mpr model.isSilent_empty⟩⟩
    have hread := model.readsAs_enumeration hname field.choiceNames (by decide) hafter
    have hlines : model.enumerationLines table field =
        model.enumerationOpening (enumerationName table.name field) ::
          pythonDialect.quotedItems field.choiceNames ++ "]" :: [pythonDialect.docstring 0
            ("Select options for \x60" ++ oneLineText field.label ++ "\x60"), ""] := by
      simp [enumerationLines, literalLines, enumerationOpening, language]
    rw [hlines]
    exact hread

def tableEnumerations (target : Target) (table : Table) : List ReadEnumeration :=
  match target.mode with
  | .types => []
  | .schemas => (table.fields.filter Field.hasEnumeration).map table.enumeration

theorem readsAs_enumerationBlock (target : Target) (table : Table) :
    ReadsAs target.readEnumerations (target.enumerationBlock table)
      (target.tableEnumerations table) := by
  cases hmode : target.mode with
  | types =>
    have hnone : target.enumerationBlock table = [] := by
      cases target with
      | zod | model => cases hmode
      | interface | typedDict => simp [enumerationBlock, enumerationLines]
    rw [hnone, tableEnumerations, hmode]
    exact fun _ => rfl
  | schemas =>
    rw [tableEnumerations, hmode]
    dsimp only
    rw [List.map_eq_flatMap]
    exact ReadsAs.flatMap fun field _ => readsAs_enumerationLines hmode table field

/-! ## Lines without enumerations -/

theorem enumerationName?_of_last (target : Target) {line : String}
    (h : line.toList.getLast? ≠ some '[') : target.enumerationName? line = none := by
  cases hname : target.declaredName? line with
  | none => exact enumerationName?_of_undeclared hname
  | some name =>
    have hbracket : (target.enumerationOpening name).toList.getLast? = some '[' := by
      cases target <;> exact getLast?_toList_append _ (by decide)
    have hne : line ≠ target.enumerationOpening name := by
      rintro rfl
      exact h hbracket
    rw [enumerationName?, hname]
    simp [hne]

theorem enumerationName?_of_ending (target : Target) (front : String) {ending : String} {c : Char}
    (hending : ending.toList.getLast? = some c) (hc : c ≠ '[') :
    target.enumerationName? (front ++ ending) = none := by
  refine target.enumerationName?_of_last ?_
  rw [getLast?_toList_append front hending]
  exact fun hbracket => hc (Option.some.inj hbracket)

theorem enumerationName?_of_chars (target : Target) {chars : List Char}
    (h : chars.getLast? ≠ some '[') : target.enumerationName? (String.ofList chars) = none :=
  target.enumerationName?_of_last (holds_of_chars (P := fun s => s.getLast? ≠ some '[') h)

theorem enumerationName?_of_opensNothing {target : Target} {line : String}
    (h : target.OpensNothing line) : target.enumerationName? line = none := by
  rcases h with hnone | ⟨c, hlast, -, hc⟩
  · exact enumerationName?_of_undeclared hnone
  · refine target.enumerationName?_of_last ?_
    rw [hlast]
    exact fun hbracket => hc (Option.some.inj hbracket)

theorem readsAs_recordLines (target : Target) (table : Table) :
    ReadsAs target.readEnumerations (target.recordLines table) [] := by
  have hopening : ∀ line ∈ target.recordOpening table, target.enumerationName? line = none := by
    cases target with
    | interface | zod =>
      exact List.forall_mem_singleton.mpr
        (enumerationName?_of_ending _ _ (c := '\x7b') (by decide) (by decide))
    | typedDict | model =>
      exact fun line hline =>
        enumerationName?_of_opensNothing (opensNothing_recordOpening rfl table line hline)
  rw [recordLines_eq]
  refine readsAs_of_undeclared (List.forall_mem_append.mpr ⟨hopening, List.forall_mem_append.mpr
    ⟨fun line hline => ?_, fun line hline => ?_⟩⟩)
  · exact enumerationName?_of_opensNothing (target.opensNothing_rowBlock table _ line hline)
  · exact enumerationName?_of_opensNothing (target.opensNothing_recordClosing table line hline)

theorem readsAs_lookup (target : Target) (name key value : String) (quoteValues : Bool)
    (pairs : List (String × String)) :
    ReadsAs target.readEnumerations (target.dialect.lookup name key value quoteValues pairs)
      [] := by
  have hopening : target.enumerationName? (target.dialect.lookupOpening name key value) = none := by
    cases target <;>
      exact enumerationName?_of_ending _ _ (c := '\x7b') (by decide) (by decide)
  have hclosing := enumerationName?_of_silent target.isSilent_lookupClosing
  refine readsAs_of_undeclared (List.forall_mem_cons.mpr
    ⟨hopening, List.forall_mem_append.mpr ⟨List.forall_mem_map.mpr fun pair _ => ?_, hclosing⟩⟩)
  exact enumerationName?_of_undeclared
    (target.isSilent_lookupRow quoteValues pair.1 pair.2).declared

theorem readsAs_fieldLookups (target : Target) (fieldIds : Bool) (table : Table) :
    ReadsAs target.readEnumerations
      (if fieldIds then target.fieldLookupLines table else []) [] := by
  cases fieldIds with
  | true => exact target.readsAs_lookup _ _ _ _ _
  | false => exact fun _ => rfl

theorem readsAs_tableLines (target : Target) (fieldIds : Bool) (table : Table) :
    ReadsAs target.readEnumerations (target.tableLines fieldIds table)
      (target.tableEnumerations table) := by
  have hlines := ((target.readsAs_enumerationBlock table).append
    (target.readsAs_recordLines table)).append (target.readsAs_fieldLookups fieldIds table)
  rwa [List.append_nil, List.append_nil] at hlines

end Target

end RecordTypes

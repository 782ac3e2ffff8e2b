import RecordTypes.Proofs.Generation.Declaration
import RecordTypes.Proofs.Target.Expression

/-! Whether the names that types use are known where they are used. They are, except that a lookup
which finds attachments behind a formula or rollup does not make them known itself. -/

namespace RecordTypes

namespace Target

/-- The lines up to the row of a field, which comes after some tables and some fields of its own
table. -/
def linesBefore (target : Target) (fieldIds : Bool) (base : Base) (selected before : List Table)
    (table : Table) (earlier : List Field) : List String :=
  target.header base ++ target.sharedBlock (allFields selected) ++
    target.tableBlocks fieldIds before ++
    (target.enumerationBlock table ++ target.recordOpening table ++ target.rowBlock table earlier)

/-- A name that is known at the row of a field: it is built in or imported, or it was declared
before, for all tables or as the enumeration of the field. -/
def IsKnown (target : Target) (selected : List Table) (table : Table) (field : Field)
    (name : String) : Prop :=
  name ∈ target.builtinNames ∨ name ∈ target.importedNames ∨
    name ∈ target.declaredNames (target.sharedBlock (allFields selected)) ∨
    field.enumeration? table.name = some name ∧
      name ∈ target.declaredNames (target.enumerationBlock table)

/-- Every name that the type of a field uses is known at its row. -/
def DeclaresBeforeUse (target : Target) (fieldIds : Bool) (base : Base) (selected : List Table) :
    Prop :=
  ∀ before table after, selected = before ++ table :: after →
    ∀ earlier field later, table.fields = earlier ++ field :: later →
      target.linesBefore fieldIds base selected before table earlier ++
          target.rowLines (target.row table field) <+:
        (assemble target fieldIds base selected).lines ∧
      ∀ name ∈ usedNames (target.fieldExpression table.name field).toList,
        target.IsKnown selected table field name

end Target

/-- A shape that values of some field have is referred to by one of the fields. -/
def ShapesReferenced (fields : List Field) : Prop :=
  ∀ field ∈ fields, ∀ shape, field.valueType.shape? = some shape →
    anyReferences fields shape = true

/-- Attachments that a lookup hides are referred to by another field. -/
def HiddenReferenced (fields : List Field) : Prop :=
  ∀ field ∈ fields, field.hidesAttachments = true → anyReferences fields .attachment = true

theorem shapesReferenced_iff (fields : List Field) :
    ShapesReferenced fields ↔ HiddenReferenced fields := by
  constructor
  · intro h field hfield hhides
    exact h field hfield .attachment (Field.shape?_of_hidesAttachments hhides).1
  · intro h field hfield shape hshape
    rcases Field.references_of_shape? hshape with href | ⟨rfl, hhides⟩
    · exact List.any_eq_true.mpr ⟨field, hfield, href⟩
    · exact h field hfield hhides

namespace Target

theorem linesBefore_prefix (target : Target) (fieldIds : Bool) (base : Base)
    {selected before after : List Table} {table : Table}
    (hselected : selected = before ++ table :: after) {earlier later : List Field} {field : Field}
    (hfields : table.fields = earlier ++ field :: later) :
    target.linesBefore fieldIds base selected before table earlier ++
        target.rowLines (target.row table field) <+:
      (assemble target fieldIds base selected).lines := by
  have hrows : target.rowBlock table table.fields = target.rowBlock table earlier ++
      (target.rowLines (target.row table field) ++ target.rowBlock table later) := by
    simp [rowBlock, hfields]
  have htables : target.tableBlocks fieldIds selected = target.tableBlocks fieldIds before ++
      (target.tableLines fieldIds table ++ target.tableBlocks fieldIds after) := by
    simp [tableBlocks, hselected]
  rw [assemble_eq]
  simp only [linesBefore, htables, tableLines, recordLines_eq, hrows, List.append_assoc,
    List.prefix_append_right_inj]
  exact List.prefix_append _ _

theorem usesOnly_fieldExpression (target : Target) (table : Table) (field : Field) :
    UsesOnly (target.knownNames field.valueType.shape? ++ target.enumerationNames table field)
      (target.fieldExpression table.name field).toList := by
  have henum := field.isName_enumeration? table.name
  have hnone : ∀ name ∈ (none : Option String), IsName name.toList := by simp
  cases target with
  | interface | typedDict =>
    rw [fieldExpression_of_types _ rfl]
    exact usesOnly_expression _ hnone field.valueType
  | zod => exact zod.usesOnly_expression henum field.valueType
  | model => exact model.usesOnly_expression henum field.valueType

theorem declaredNames_sharedBlock (target : Target) (fields : List Field) :
    target.declaredNames (target.sharedBlock fields) =
      (target.written fields).flatMap fun declaration => declaration.identifiers :=
  (target.declares_sharedBlock fields).names_eq

theorem mem_declaredNames_sharedBlock {target : Target} {fields : List Field} {name : String}
    {shape : SharedShape} (hname : name ∈ target.shapeIdentifiers shape)
    (h : anyReferences fields shape = true) :
    name ∈ target.declaredNames (target.sharedBlock fields) := by
  obtain ⟨declaration, hdeclaration, hmem⟩ := List.mem_flatMap.mp hname
  obtain ⟨hshared, hshape⟩ := List.mem_filter.mp hdeclaration
  rw [declaredNames_sharedBlock, List.mem_flatMap]
  refine ⟨declaration, List.mem_filter.mpr ⟨hshared, ?_⟩, hmem⟩
  rw [beq_iff_eq.mp hshape]
  exact h

theorem mem_declaredNames_enumerationBlock {target : Target} {table : Table} {field : Field}
    (hfield : field ∈ table.fields) {name : String}
    (hname : name ∈ target.enumerationNames table field) :
    field.enumeration? table.name = some name ∧
      name ∈ target.declaredNames (target.enumerationBlock table) := by
  constructor
  · cases target with
    | interface | typedDict => cases hname
    | zod | model => simpa [enumerationNames] using hname
  · rw [(target.declares_enumerationBlock table).names_eq, List.mem_flatMap]
    exact ⟨field, hfield, hname⟩

theorem declaresBeforeUse_of_hiddenReferenced {target : Target} {fieldIds : Bool} {base : Base}
    {selected : List Table} (h : HiddenReferenced (allFields selected)) :
    target.DeclaresBeforeUse fieldIds base selected := by
  intro before table after hselected earlier field later hfields
  refine ⟨target.linesBefore_prefix fieldIds base hselected hfields, fun name hname => ?_⟩
  have hfield : field ∈ table.fields := by simp [hfields]
  have hall : field ∈ allFields selected :=
    List.mem_flatMap.mpr ⟨table, by simp [hselected], hfield⟩
  have hknown := (target.usesOnly_fieldExpression table field).names name hname
  simp only [knownNames, List.mem_append, List.mem_flatMap, Option.mem_toList] at hknown
  rcases hknown with ((hbuiltin | himported) | ⟨shape, hshape, hshared⟩) | henumeration
  · exact Or.inl hbuiltin
  · exact Or.inr (Or.inl himported)
  · have href := (shapesReferenced_iff _).mpr h field hall shape hshape
    exact Or.inr (Or.inr (Or.inl (mem_declaredNames_sharedBlock hshared href)))
  · exact Or.inr (Or.inr (Or.inr (mem_declaredNames_enumerationBlock hfield henumeration)))

/-! ## Hidden attachments are used -/

def attachmentName : Target → String
  | .interface => "IAirtableAttachment"
  | .zod => "AirtableAttachmentSchema"
  | .typedDict | .model => "AirtableAttachment"

theorem attachmentName_mem_usedNames (target : Target) (enumeration? : Option String)
    {v : ValueType} (h : v.shape? = some .attachment) :
    target.attachmentName ∈ usedNames (target.expression enumeration? v).toList := by
  have hattachment (s : Scalar) (hs : s.shape? = some .attachment) : s = .attachment := by
    cases s <;> cases hs
    rfl
  have hone : target.attachmentName ∈ usedNames (target.scalar none .attachment).toList := by
    cases target <;> decide
  have hscalar : target.scalar enumeration? .attachment = target.scalar none .attachment :=
    target.scalar_eq_none enumeration? (by simp)
  cases v with
  | one s =>
    rw [hattachment s h, expression, hscalar]
    exact hone
  | many s =>
    rw [hattachment s h, expression, hscalar]
    refine target.mem_usedNames_list ?_ hone
    cases target <;> decide
  | mixed => cases h

theorem anyReferences_of_mem_declaredNames {target : Target} {fields : List Field}
    (h : target.attachmentName ∈ target.declaredNames (target.sharedBlock fields)) :
    anyReferences fields .attachment = true := by
  have hshape : ∀ declaration ∈ target.sharedDeclarations,
      target.attachmentName ∈ declaration.identifiers → declaration.shape = .attachment := by
    cases target <;> decide
  rw [declaredNames_sharedBlock, List.mem_flatMap] at h
  obtain ⟨declaration, hwritten, hmem⟩ := h
  obtain ⟨hshared, href⟩ := List.mem_filter.mp hwritten
  rwa [hshape declaration hshared hmem] at href

theorem hiddenReferenced_of_declaresBeforeUse {target : Target} {fieldIds : Bool} {base : Base}
    {selected : List Table} (h : target.DeclaresBeforeUse fieldIds base selected) :
    HiddenReferenced (allFields selected) := by
  intro field hfield hhides
  obtain ⟨table, htable, hmem⟩ := List.mem_flatMap.mp hfield
  obtain ⟨before, after, hselected⟩ := List.append_of_mem htable
  obtain ⟨earlier, later, hfields⟩ := List.append_of_mem hmem
  have hused := target.attachmentName_mem_usedNames (field.enumeration? table.name)
    (Field.shape?_of_hidesAttachments hhides).1
  obtain ⟨-, hnames⟩ := h before table after hselected earlier field later hfields
  rcases hnames _ hused with hbuiltin | himported | hshared | ⟨henumeration, -⟩
  · cases target <;> simp [attachmentName, builtinNames] at hbuiltin
  · cases target <;> simp [attachmentName, importedNames] at himported
  · exact anyReferences_of_mem_declaredNames hshared
  · cases field with
    | plain => cases hhides
    | computed => cases henumeration

theorem declaresBeforeUse_iff (target : Target) (fieldIds : Bool) (base : Base)
    (selected : List Table) :
    target.DeclaresBeforeUse fieldIds base selected ↔ HiddenReferenced (allFields selected) :=
  ⟨hiddenReferenced_of_declaresBeforeUse, declaresBeforeUse_of_hiddenReferenced⟩

end Target

/-- Whenever there is a text, all names in it are declared before their use, and all shapes of
values referred to, exactly if attachments that lookups hide are referred to elsewhere. -/
theorem declared_iff_of_generate {base : Base} {tables : List Table} {options : GenerationOptions}
    {text : String} (h : generate base tables options = .ok text) :
    ∃ selected, selectIf tables options.requested = .ok selected ∧
      text = (assemble options.target options.fieldIds base selected).text ∧
      (options.target.DeclaresBeforeUse options.fieldIds base selected ↔
        HiddenReferenced (allFields selected)) ∧
      (ShapesReferenced (allFields selected) ↔ HiddenReferenced (allFields selected)) := by
  obtain ⟨selected, hselect, htext, -⟩ := generate_eq_ok h
  exact ⟨selected, hselect, htext,
    options.target.declaresBeforeUse_iff options.fieldIds base selected, shapesReferenced_iff _⟩

def assetsBase : Base := ⟨"appB", "Base", .create⟩

def assetsTable (fields : List Field) : Table where
  id := "tblA"
  name := "Assets"
  primaryFieldId := "fldF"
  description := none
  fields := fields
  views := []

def resultHeading : Heading := ⟨none, none, none⟩

/-- A lookup of attachments behind a formula. -/
def hiddenFiles : Field :=
  .computed ⟨some "fldF", some "Files", none⟩ .lookup
    (.computed resultHeading .formula (.plain resultHeading (.basic .multipleAttachments none)))

def shownFiles : Field :=
  .plain ⟨some "fldS", some "Scans", none⟩ (.basic .multipleAttachments none)

theorem generate_assets_shown :
    generate assetsBase [assetsTable [hiddenFiles, shownFiles]] .standard =
      .ok (assemble .interface false assetsBase [assetsTable [hiddenFiles, shownFiles]]).text :=
  generate_of_nodup assetsBase _ .standard rfl (by decide)

theorem declared_assets_shown :
    generate assetsBase [assetsTable [hiddenFiles, shownFiles]] .standard =
      .ok (assemble .interface false assetsBase [assetsTable [hiddenFiles, shownFiles]]).text ∧
    ∃ selected, selectIf [assetsTable [hiddenFiles, shownFiles]] none = .ok selected ∧
      Target.interface.DeclaresBeforeUse false assetsBase selected := by
  obtain ⟨selected, hselect, -, hdeclares, -⟩ := declared_iff_of_generate generate_assets_shown
  refine ⟨generate_assets_shown, selected, hselect, hdeclares.mpr fun _ _ _ => ?_⟩
  cases hselect
  rfl

/-- If no other field refers to attachments, a lookup that hides them has a type that is not
declared. -/
theorem undeclared_assets :
    generate assetsBase [assetsTable [hiddenFiles]] .standard =
      .ok (assemble .interface false assetsBase [assetsTable [hiddenFiles]]).text ∧
    ¬ Target.interface.DeclaresBeforeUse false assetsBase [assetsTable [hiddenFiles]] ∧
    ¬ ShapesReferenced (allFields [assetsTable [hiddenFiles]]) := by
  have hhidden : ¬ HiddenReferenced (allFields [assetsTable [hiddenFiles]]) := by
    intro h
    have href := h hiddenFiles List.mem_cons_self rfl
    exact absurd href (by decide)
  refine ⟨generate_of_nodup assetsBase _ .standard rfl (by decide), fun h => hhidden ?_,
    fun h => hhidden ((shapesReferenced_iff _).mp h)⟩
  exact (Target.declaresBeforeUse_iff _ _ _ _).mp h

end RecordTypes

import RecordTypes.Proofs.Target.Agreement
import RecordTypes.Proofs.Value.Chain

/-! Chains of formulas and rollups as they are written. A chain is written as its last result is,
but a selection at its end has no enumeration of its own, so that its choices are listed. A lookup
of a chain is written as a lookup of its last result if there is one link or the result is taken
for text, and not otherwise. -/

namespace RecordTypes

/-! ## Chains -/

/-- The choices of a selection, where it has no name to go by. -/
def Target.choiceList (target : Target) (names : List String) : String :=
  match target with
  | .interface => alternativesText typescriptDialect " | " names
  | .zod => "z.enum([" ++ alternativesText typescriptDialect ", " names ++ "])"
  | .typedDict | .model => "Literal[" ++ alternativesText pythonDialect ", " names ++ "]"

/-- The text stands for the field, as far as `selection` stands for one of its choices. -/
def Field.WritesSelection (field : Field) (target : Target) (text selection : String) : Prop :=
  (field.type = .choice .singleSelect ∧ text = selection) ∨
    (field.type = .choice .multipleSelects ∧ text = target.list selection)

theorem enumeration?_of_choiceNames {field : Field} (h : field.choiceNames = [])
    (tableName : String) : field.enumeration? tableName = none := by
  simp [Field.enumeration?, Field.hasEnumeration, h]

theorem fieldExpression_of_choiceNames {field : Field} (h : field.choiceNames = [])
    (target : Target) (tableName : String) :
    target.fieldExpression tableName field = target.expression none field.valueType := by
  rw [Target.fieldExpression, enumeration?_of_choiceNames h]

theorem fieldExpression_chained (target : Target) (tableName : String) (first : Link)
    (rest : List Link) (result? : Option Field) :
    target.fieldExpression tableName (first.around (chained rest result?)) =
      target.expression none ((result?.map Field.valueType).getD (.one .text)) := by
  rw [fieldExpression_of_choiceNames (first.choiceNames_around _), valueType_chained]

theorem selected_of_ne_nil {choices : List Choice} (h : distinctNames choices ≠ []) :
    selected choices = .oneOf (distinctNames choices) := by
  unfold selected
  split
  · rename_i hnil
    exact absurd hnil h
  · rfl

theorem choiceList_eq_scalar (target : Target) (names : List String) :
    target.scalar none (.oneOf names) = target.choiceList names := by
  cases target <;> rfl

theorem scalar_enumeration {target : Target} (h : target.mode = .schemas) (name : String)
    (names : List String) : target.scalar (some name) (.oneOf names) = name := by
  cases target with
  | interface | typedDict => cases h
  | zod | model => rfl

theorem exists_valueType_of_hasEnumeration {field : Field} (h : field.hasEnumeration = true) :
    (field.type = .choice .singleSelect ∧ field.valueType = .one (.oneOf field.choiceNames)) ∨
      (field.type = .choice .multipleSelects ∧
        field.valueType = .many (.oneOf field.choiceNames)) := by
  have hne : field.choiceNames ≠ [] := by simpa [Field.hasEnumeration] using h
  cases field with
  | computed => exact absurd rfl hne
  | plain heading shape =>
    cases shape with
    | choice type choices =>
      cases type with
      | singleSelect => exact Or.inl ⟨rfl, congrArg ValueType.one (selected_of_ne_nil hne)⟩
      | multipleSelects => exact Or.inr ⟨rfl, congrArg ValueType.many (selected_of_ne_nil hne)⟩
      | externalSyncSource => exact absurd rfl hne
    | _ => exact absurd rfl hne

theorem writesSelection_expression {field : Field} (h : field.hasEnumeration = true)
    (target : Target) (enumeration? : Option String) :
    field.WritesSelection target (target.expression enumeration? field.valueType)
      (target.scalar enumeration? (.oneOf field.choiceNames)) := by
  rcases exists_valueType_of_hasEnumeration h with ⟨htype, hvalue⟩ | ⟨htype, hvalue⟩
  · exact Or.inl ⟨htype, by rw [hvalue]; rfl⟩
  · exact Or.inr ⟨htype, by rw [hvalue]; rfl⟩

theorem writesSelection_fieldExpression {field : Field} (h : field.hasEnumeration = true)
    {target : Target} (hschemas : target.mode = .schemas) (tableName : String) :
    field.WritesSelection target (target.fieldExpression tableName field)
      (enumerationName tableName field) := by
  have hname : field.enumeration? tableName = some (enumerationName tableName field) := by
    simp [Field.enumeration?, h]
  have hown := writesSelection_expression h target (field.enumeration? tableName)
  rwa [hname, scalar_enumeration hschemas, ← hname] at hown

/-- Formulas and rollups are written as what is at the end of their chain. Only where a selection
goes by the name of its enumeration is it written out with its choices instead. A chain that ends
without a result is written as text. -/
theorem expression_of_chain (tableName : String) (first : Link) (rest : List Link) :
    (∀ (result : Field) (target : Target),
      target.mode = .types ∨ result.hasEnumeration = false →
        target.fieldExpression tableName (first.around (chained rest (some result))) =
          target.fieldExpression tableName result) ∧
    (∀ result : Field, result.hasEnumeration = true → ∀ target ∈ [Target.zod, Target.model],
      result.WritesSelection target (target.fieldExpression tableName result)
          (enumerationName tableName result) ∧
        result.WritesSelection target
          (target.fieldExpression tableName (first.around (chained rest (some result))))
          (target.choiceList result.choiceNames)) ∧
    Target.all.map (fun target =>
        target.fieldExpression tableName (first.around (chained rest none))) =
      ["string", "z.string()", "str", "str"] := by
  refine ⟨fun result target h => ?_, fun result h target htarget => ?_, ?_⟩
  · rw [fieldExpression_chained]
    rcases h with htypes | hnone
    · exact (target.fieldExpression_of_types htypes tableName result).symm
    · have hnames : result.choiceNames = [] := by simpa [Field.hasEnumeration] using hnone
      exact (fieldExpression_of_choiceNames hnames target tableName).symm
  · have hschemas : target.mode = .schemas := by
      simp only [List.mem_cons, List.not_mem_nil, or_false] at htarget
      rcases htarget with rfl | rfl <;> rfl
    have hchained := writesSelection_expression h target none
    rw [choiceList_eq_scalar] at hchained
    rw [fieldExpression_chained]
    exact ⟨writesSelection_fieldExpression h hschemas tableName, hchained⟩
  · simp only [fieldExpression_chained]
    rfl

def orderState : Field :=
  .plain ⟨some "fldS", some "State", none⟩
    (.choice .singleSelect
      [⟨"selO", "Open", none⟩, ⟨"selC", "Closed", none⟩, ⟨"selA", "Open", none⟩])

def lastState : Link where
  heading := ⟨some "fldL", some "Last state", none⟩
  type := .rollup

def plainFormula : Link where
  heading := ⟨none, none, none⟩
  type := .formula

theorem chained_state_lists_choices : orderState.hasEnumeration = true ∧
    Target.zod.fieldExpression "Orders" (lastState.around (chained [plainFormula] orderState)) =
      "z.enum(['Open', 'Closed'])" := by
  have henum : orderState.hasEnumeration = true := by decide
  have htarget : Target.zod ∈ [Target.zod, Target.model] := by decide
  obtain ⟨-, hchain, -⟩ := expression_of_chain "Orders" lastState [plainFormula]
  obtain ⟨-, ⟨-, htext⟩ | ⟨htype, -⟩⟩ := hchain orderState henum .zod htarget
  · exact ⟨henum, htext.trans (by decide)⟩
  · cases htype

/-! ## Lookups of chains -/

theorem Number.scalar_ne_text (n : Number) (target : Target) :
    target.scalar none (.number n) ≠ target.scalar none .text := by
  cases target with
  | interface => exact (by decide : "number" ≠ "string")
  | zod =>
    intro h
    have hstart : StartsWith "z.number()" (Target.zod.scalar none (.number n)) := n.startsWith_zod
    rw [h] at hstart
    exact absurd hstart (by decide)
  | typedDict =>
    cases n with
    | real | span => exact (by decide : "float" ≠ "str")
    | _ => exact (by decide : "int" ≠ "str")
  | model =>
    cases n with
    | stars max =>
      intro h
      have hopening : StartsWith "Annotated[" "Annotated[int, Field(ge=0, le=" := by decide
      have hstart : StartsWith "Annotated[" (Target.model.scalar none (.number (.stars max))) :=
        (hopening.append _).append _
      rw [h] at hstart
      exact absurd hstart (by decide)
    | _ => decide

theorem expression_eq_text_iff (target : Target) (heading : Heading) (hint? : Option Field) :
    target.expression none (Field.computing heading .lookup hint?).valueType =
        target.expression none (.many .text) ↔
      (Field.computing heading .lookup hint?).element = .string := by
  have hlist {s : Scalar} (hne : target.scalar none s ≠ target.scalar none .text) :
      target.expression none (.many s) ≠ target.expression none (.many .text) :=
    fun h => hne (Target.list_injective h)
  rw [Field.element_lookup]
  rcases Field.valueType_lookup_cases heading hint? with hmixed | ⟨v, hv⟩
  · rw [hmixed]
    have hne : target.expression none .mixed ≠ target.expression none (.many .text) := by
      cases target <;> decide
    exact iff_of_false hne (by decide)
  · rw [hv]
    rcases v.gathered_cases with h | ⟨n, h⟩ | h | h
    · rw [h]
      exact iff_of_true rfl rfl
    · rw [h]
      exact iff_of_false (hlist (n.scalar_ne_text target)) (by simp [ValueType.element])
    · rw [h]
      exact iff_of_false (hlist (by cases target <;> decide)) (by decide)
    · rw [h]
      exact iff_of_false (hlist (by cases target <;> decide)) (by decide)

/-- A lookup of a chain is one of its last result if there is one link only, or if the result is
taken for text, for this is what a lookup of several links holds. It is so whether one asks what
the lookup yields or how its type is written. -/
theorem lookup_of_chain_iff (tableName : String) (heading : Heading) (first : Link)
    (rest : List Link) {last? : Option Field} (hlast : ∀ last ∈ last?, last.isLink = false) :
    let hinted := Field.computing heading .lookup (chained (first :: rest) last?)
    let direct := Field.computing heading .lookup last?
    (hinted.element = direct.element ↔ rest = [] ∨ direct.element = .string) ∧
    (∀ target : Target,
      target.fieldExpression tableName hinted = target.fieldExpression tableName direct ↔
        rest = [] ∨ direct.element = .string) ∧
    (rest ≠ [] → hinted.element = .string ∧ ∀ target : Target,
      target.fieldExpression tableName hinted = target.expression none (.many .text)) := by
  intro hinted direct
  have hnames (hint? : Option Field) :
      (Field.computing heading .lookup hint?).choiceNames = [] := by cases hint? <;> rfl
  have htext (target : Target) (hint? : Option Field) :
      target.fieldExpression tableName (Field.computing heading .lookup hint?) =
        target.expression none (Field.computing heading .lookup hint?).valueType :=
    fieldExpression_of_choiceNames (hnames hint?) target tableName
  have helement (hint? : Option Field) := Field.element_lookup heading hint?
  cases rest with
  | nil =>
    have hsame : hinted.valueType = direct.valueType := valueType_lookup_single heading first hlast
    refine ⟨iff_of_true ?_ (Or.inl rfl), fun target => iff_of_true ?_ (Or.inl rfl),
      fun h => absurd rfl h⟩
    · rw [helement, helement, hsame]
    · rw [htext, htext, hsame]
  | cons next rest =>
    have hvalue : hinted.valueType = .many .text :=
      valueType_lookup_chained heading first next rest last?
    have hstring : hinted.element = .string := by
      rw [helement, hvalue]
      rfl
    have hexpression (target : Target) :
        target.fieldExpression tableName hinted = target.expression none (.many .text) := by
      rw [htext, hvalue]
    refine ⟨?_, fun target => ?_, fun _ => ⟨hstring, hexpression⟩⟩
    · rw [hstring]
      simp [eq_comm]
    · rw [hexpression, htext, eq_comm, expression_eq_text_iff]
      exact (or_iff_right (by simp)).symm

def resultPrice : Field := .plain ⟨none, none, none⟩ (.number .number 0)

def itemPrices : Heading := ⟨some "fldP", some "Prices", none⟩

theorem lookup_of_price_formula : (∀ last ∈ some resultPrice, last.isLink = false) ∧
    ∀ target : Target,
      target.fieldExpression "Orders"
          (.computing itemPrices .lookup (chained [plainFormula] resultPrice)) =
        target.fieldExpression "Orders" (.computing itemPrices .lookup resultPrice) := by
  have hprice : ∀ last ∈ some resultPrice, last.isLink = false := by
    intro last hlast
    cases hlast
    rfl
  obtain ⟨-, htext, -⟩ := lookup_of_chain_iff "Orders" itemPrices plainFormula [] hprice
  exact ⟨hprice, fun target => (htext target).mpr (Or.inl rfl)⟩

/-- With a rollup around a formula a number is taken for text. -/
theorem lookup_of_price_rollup_differs :
    (Field.computing itemPrices .lookup
        (chained [lastState, plainFormula] resultPrice)).element ≠
      (Field.computing itemPrices .lookup resultPrice).element ∧
    ∀ target : Target,
      target.fieldExpression "Orders"
          (.computing itemPrices .lookup (chained [lastState, plainFormula] resultPrice)) ≠
        target.fieldExpression "Orders" (.computing itemPrices .lookup resultPrice) := by
  refine ⟨by decide, fun target => ?_⟩
  cases target <;> decide

end RecordTypes

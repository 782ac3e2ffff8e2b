import RecordTypes.Proofs.Target.Enumeration

/-! The choices of selections as they are written. Where a selection is a type of its own, where it
has a declaration, and where it is the result of a chain, its string literals are the same texts. -/

namespace RecordTypes

theorem hasLiterals_alternatives (target : Target) {separator : String}
    (hsep : HasLiterals separator.toList []) (names : List String) :
    HasLiterals (alternativesText target.dialect separator names).toList names := by
  rw [alternativesText, String.toList_intercalate, List.map_map]
  exact HasLiterals.intercalate hsep target.hasLiterals_quoted names

theorem HasLiterals.enclosed {body : String} {texts : List String}
    (h : HasLiterals body.toList texts) {opening closing : String}
    (hopening : HasLiterals opening.toList []) (hclosing : HasLiterals closing.toList []) :
    HasLiterals (opening ++ body ++ closing).toList texts := by
  have hall := (hopening.append h).append hclosing
  rw [List.append_nil, List.nil_append] at hall
  rwa [String.toList_append, String.toList_append]

namespace Target

theorem hasLiterals_choiceList (target : Target) (names : List String) :
    HasLiterals (target.choiceList names).toList names := by
  have hcomma : HasLiterals ", ".toList [] := by decide
  have hlist := hasLiterals_alternatives target hcomma names
  cases target with
  | interface => exact hasLiterals_alternatives .interface (by decide) names
  | zod => exact hlist.enclosed (by decide) (by decide)
  | typedDict | model => exact hlist.enclosed (by decide) (by decide)

theorem hasLiterals_list (target : Target) {element : String} {texts : List String}
    (h : HasLiterals element.toList texts) : HasLiterals (target.list element).toList texts := by
  cases target <;> exact h.enclosed (by decide) (by decide)

end Target

theorem Field.WritesSelection.literalTexts_eq {field : Field} {target : Target} {text : String}
    {names : List String} (h : field.WritesSelection target text (target.choiceList names)) :
    literalTexts text.toList = some names := by
  have hchoices := target.hasLiterals_choiceList names
  rcases h with ⟨-, rfl⟩ | ⟨-, rfl⟩
  · exact hchoices.literalTexts_eq
  · exact (target.hasLiterals_list hchoices).literalTexts_eq

/-- Nothing that is chosen from is lost, repeated or altered. The literals of a selection are its
choices, each once and in the order of their first occurrences: in its type without schemas, in its
declaration with them, and in the type of every chain that it is the result of. -/
theorem choices_of_selection {field : Field} {choices : List Choice} (h : field.SelectsFrom choices)
    (hne : choices ≠ []) (table : Table) :
    ListsOnce (choices.map fun choice => choice.name) field.choiceNames ∧
    (∀ target : Target, target.mode = .types →
      literalTexts (target.fieldExpression table.name field).toList = some field.choiceNames) ∧
    (∀ target : Target, target.mode = .schemas →
      target.readEnumerations (target.enumerationLines table field) =
        [⟨enumerationName table.name field, some field.choiceNames⟩]) ∧
    ∀ (target : Target) (first : Link) (rest : List Link),
      literalTexts (target.fieldExpression table.name
        (first.around (chained rest (some field)))).toList = some field.choiceNames := by
  have henum : field.hasEnumeration = true := field.hasEnumeration_iff.mpr ⟨choices, h, hne⟩
  have hlisted (target : Target) :
      literalTexts (target.expression none field.valueType).toList = some field.choiceNames := by
    have hselection := writesSelection_expression henum target none
    rw [choiceList_eq_scalar] at hselection
    exact hselection.literalTexts_eq
  refine ⟨?_, fun target htypes => ?_, fun target hschemas => ?_, fun target first rest => ?_⟩
  · rw [h.choiceNames_eq]
    exact listsOnce_eraseDups _
  · rw [target.fieldExpression_of_types htypes]
    exact hlisted target
  · exact (Target.readsAs_enumerationLines hschemas table field).read_eq rfl
  · rw [fieldExpression_chained]
    exact hlisted target

def answers : List Choice :=
  [⟨"selM", "It's \"a\", 'b' | c", none⟩, ⟨"selN", "no]", none⟩,
   ⟨"selO", "It's \"a\", 'b' | c", none⟩]

def answerField : Field :=
  .plain ⟨some "fldA", some "Answer", none⟩ (.choice .multipleSelects answers)

def answerTable : Table where
  id := "tblA"
  name := "Answers"
  primaryFieldId := "fldA"
  description := none
  fields := [answerField]
  views := []

/-- Neither quotes nor separators in a choice are taken for those between choices. -/
theorem choices_of_answer :
    answerField.SelectsFrom answers ∧ answers ≠ [] ∧
    answerField.choiceNames = ["It's \"a\", 'b' | c", "no]"] ∧
    (∀ target : Target, target.mode = .types →
      literalTexts (target.fieldExpression "Answers" answerField).toList =
        some answerField.choiceNames) ∧
    Target.model.readEnumerations (Target.model.enumerationLines answerTable answerField) =
      [⟨enumerationName "Answers" answerField, some answerField.choiceNames⟩] := by
  have hselects : answerField.SelectsFrom answers := ⟨_, Or.inr rfl⟩
  have hne : answers ≠ [] := List.cons_ne_nil _ _
  obtain ⟨-, htypes, hschemas, -⟩ := choices_of_selection hselects hne answerTable
  exact ⟨hselects, hne, by decide, htypes, hschemas .model rfl⟩

end RecordTypes

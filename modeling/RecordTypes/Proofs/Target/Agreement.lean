import Mathlib.Data.List.TFAE
import RecordTypes.Proofs.Target.Expression
import RecordTypes.Proofs.Target.Names

/-! The four targets write one and the same type of values, each in its own words: where one writes
a list, a whole number, a number or a truth value, all do. What a text is can be told from how it
begins, since the names of enumerations are capitalised and all other selections are quoted. -/

namespace RecordTypes

def StartsWith (p s : String) : Prop := p.toList <+: s.toList

instance (p s : String) : Decidable (StartsWith p s) :=
  inferInstanceAs (Decidable (p.toList <+: s.toList))

theorem startsWith_of_chars {p s : List Char} (h : p <+: s) :
    StartsWith (String.ofList p) (String.ofList s) := by
  rwa [StartsWith, String.toList_ofList, String.toList_ofList]

theorem not_startsWith_of_chars {p s : List Char} (h : ¬ p <+: s) :
    ¬StartsWith (String.ofList p) (String.ofList s) := by
  rwa [StartsWith, String.toList_ofList, String.toList_ofList]

theorem StartsWith.append {p s : String} (h : StartsWith p s) (t : String) :
    StartsWith p (s ++ t) := by
  rw [StartsWith, String.toList_append]
  exact h.trans (List.prefix_append _ _)

theorem StartsWith.of_append (p t : String) : StartsWith p (p ++ t) :=
  StartsWith.append (s := p) List.prefix_rfl t

theorem StartsWith.of_eq {p s : String} (h : s = p) : StartsWith p s := by
  rw [h]
  exact List.prefix_rfl

theorem StartsWith.head? {p s : String} {c : Char} (h : StartsWith p s)
    (hp : p.toList.head? = some c) : s.toList.head? = some c := by
  obtain ⟨rest, hrest⟩ := h
  simp [← hrest, hp]

/-- An annotation for whole numbers, whatever bounds are set for them. -/
def IsIntegerHint (s : String) : Prop :=
  s = "int" ∨ ∃ bounds, s = "Annotated[int, " ++ bounds ++ "]"

/-- A schema for whole numbers to which more conditions may be chained. -/
inductive IsIntegerSchema : String → Prop
  | base : IsIntegerSchema "z.number().int()"
  | call {s : String} (method argument : String) (h : IsIntegerSchema s) :
    IsIntegerSchema (s ++ ("." ++ method ++ "(" ++ argument ++ ")"))

theorem IsIntegerSchema.startsWith {s : String} (h : IsIntegerSchema s) :
    StartsWith "z.number().int()" s := by
  induction h with
  | base => exact List.prefix_rfl
  | call method argument h ih =>
    exact ih.append _

/-- How a target writes lists, those included of which nothing more is known. -/
def Target.IsListText (target : Target) (text : String) : Prop :=
  match target with
  | .interface => StartsWith "Array<" text
  | .zod => StartsWith "z.array(" text ∨ text = Target.zod.mixedList
  | .typedDict | .model => StartsWith "list[" text

def Number.isWhole : Number → Bool
  | .real | .span => false
  | _ => true

def Scalar.isWhole : Scalar → Bool
  | .number n => n.isWhole
  | _ => false

def Scalar.isNumber : Scalar → Bool
  | .number _ => true
  | _ => false

def Scalar.isBoolean : Scalar → Bool
  | .boolean => true
  | _ => false

def ValueType.isList : ValueType → Bool
  | .one _ => false
  | .many _ | .mixed => true

/-! ## How scalars begin -/

theorem StartsWith.not_startsWith {p q s : String} (h : StartsWith p s)
    (hpq : ¬StartsWith p q) (hqp : ¬StartsWith q p) : ¬StartsWith q s := by
  intro hq
  rcases List.prefix_or_prefix_of_prefix h hq with hshort | hlong
  · exact hpq hshort
  · exact hqp hlong

theorem IsIntegerHint.of_bounds (bounds : String) :
    IsIntegerHint ("Annotated[int, " ++ bounds ++ "]") := Or.inr ⟨bounds, rfl⟩

theorem IsIntegerHint.startsWith {s : String} (h : IsIntegerHint s) :
    s = "int" ∨ StartsWith "Annotated[" s := by
  rcases h with rfl | ⟨bounds, rfl⟩
  · exact Or.inl rfl
  · have hopening : StartsWith "Annotated[" "Annotated[int, " := by decide
    exact Or.inr ((hopening.append bounds).append _)

theorem literalText_startsWith (names : List String) :
    StartsWith "Literal[" (literalText names) := by
  rw [literalText, String.append_assoc]
  exact StartsWith.of_append _ _

theorem Number.startsWith_zod (n : Number) : StartsWith "z.number()" n.zod := by
  cases n with
  | stars max =>
    have hopening : StartsWith "z.number()" "z.number().int().min(0).max(" :=
      startsWith_of_chars (by decide)
    exact (hopening.append _).append _
  | _ => exact startsWith_of_chars (by decide)

theorem Number.isIntegerSchema_zod (n : Number) : IsIntegerSchema n.zod ↔ n.isWhole = true := by
  have hreal : ¬IsIntegerSchema "z.number()" := fun h => absurd h.startsWith (by decide)
  have hcalls := IsIntegerSchema.base
  cases n with
  | real | span => exact iff_of_false hreal (by decide)
  | whole => exact iff_of_true hcalls rfl
  | serial =>
    have hpositive := hcalls.call "positive" ""
    simp only [String.reduceAppend] at hpositive
    exact iff_of_true hpositive rfl
  | tally =>
    have hnonnegative := hcalls.call "nonnegative" ""
    simp only [String.reduceAppend] at hnonnegative
    exact iff_of_true hnonnegative rfl
  | stars max =>
    have hmax := (hcalls.call "min" "0").call "max" (String.ofList (Nat.toDigits 10 max))
    simp only [← String.append_assoc, String.reduceAppend] at hmax
    exact iff_of_true hmax rfl

theorem Number.isIntegerHint_model (n : Number) :
    IsIntegerHint n.model ↔ n.isWhole = true := by
  have hother {s : String} (hint : s ≠ "int") (hbounds : ¬StartsWith "Annotated[" s) :
      ¬IsIntegerHint s := fun h => h.startsWith.elim hint hbounds
  cases n with
  | real => exact iff_of_false (hother (by decide) (by decide)) (by decide)
  | span => exact iff_of_false (hother (by decide) (by decide)) (by decide)
  | whole => exact iff_of_true (Or.inl rfl) rfl
  | serial =>
    have hbounds := IsIntegerHint.of_bounds "Field(gt=0)"
    simp only [String.reduceAppend] at hbounds
    exact iff_of_true hbounds rfl
  | tally =>
    have hbounds := IsIntegerHint.of_bounds "Field(ge=0)"
    simp only [String.reduceAppend] at hbounds
    exact iff_of_true hbounds rfl
  | stars max =>
    have hbounds := IsIntegerHint.of_bounds
      ("Field(ge=0, le=" ++ (String.ofList (Nat.toDigits 10 max) ++ ")"))
    have hclosing : ")" ++ "]" = ")]" := by simp only [String.reduceAppend]
    rw [String.append_assoc, String.append_assoc, String.append_assoc, hclosing,
      ← String.append_assoc, ← String.append_assoc] at hbounds
    simp only [String.reduceAppend] at hbounds
    exact iff_of_true hbounds rfl

theorem Number.not_startsWith_list (n : Number) : ¬StartsWith "list[" n.model := by
  cases n with
  | stars max =>
    have hopening : StartsWith "Annotated[" "Annotated[int, Field(ge=0, le=" :=
      startsWith_of_chars (by decide)
    exact ((hopening.append _).append _).not_startsWith (not_startsWith_of_chars (by decide))
      (not_startsWith_of_chars (by decide))
  | _ => exact not_startsWith_of_chars (by decide)

theorem interface_oneOf_head? (names : List String) :
    ∀ c ∈ (Scalar.interface (.oneOf names)).toList.head?, c = apostrophe := by
  cases names with
  | nil => simp [Scalar.interface, alternativesText]
  | cons name names =>
    cases names <;>
      simp [Scalar.interface, alternativesText, String.toList_intercalate, Dialect.quoted,
        typescriptDialect, singleQuoted]

theorem interface_oneOf_not_startsWith (names : List String) (p : String) {c : Char}
    (hc : p.toList.head? = some c) (hquote : c ≠ apostrophe) :
    ¬StartsWith p (Scalar.interface (.oneOf names)) :=
  fun h => hquote (interface_oneOf_head? names c (h.head? hc))

theorem Scalar.interface_forms (s : Scalar) :
    ¬StartsWith "Array<" s.interface ∧ (s.interface = "number" ↔ s.isNumber = true) ∧
      (s.interface = "boolean" ↔ s.isBoolean = true) := by
  cases s with
  | oneOf names =>
    have harray := interface_oneOf_not_startsWith names "Array<" rfl (by decide)
    have hnumber := interface_oneOf_not_startsWith names "number" rfl (by decide)
    have hboolean := interface_oneOf_not_startsWith names "boolean" rfl (by decide)
    exact ⟨harray, iff_of_false (fun h => hnumber (.of_eq h)) (by simp [isNumber]),
      iff_of_false (fun h => hboolean (.of_eq h)) (by simp [isBoolean])⟩
  | number n =>
    exact ⟨(by decide : ¬StartsWith "Array<" "number"), iff_of_true rfl rfl,
      iff_of_false (by decide : "number" ≠ "boolean") (by simp [isBoolean])⟩
  | _ => decide

theorem Scalar.typedDict_forms (s : Scalar) :
    ¬StartsWith "list[" s.typedDict ∧ (s.typedDict = "int" ↔ s.isWhole = true) ∧
      (s.typedDict = "int" ∨ s.typedDict = "float" ↔ s.isNumber = true) ∧
      (s.typedDict = "bool" ↔ s.isBoolean = true) := by
  cases s with
  | oneOf names =>
    have hother {p : String} (hshort : ¬StartsWith p "Literal[")
        (hlong : ¬StartsWith "Literal[" p) : ¬StartsWith p (Scalar.typedDict (.oneOf names)) :=
      (literalText_startsWith names).not_startsWith hlong hshort
    have hlist := hother (p := "list[") (by decide) (by decide)
    have hint := hother (p := "int") (by decide) (by decide)
    have hfloat := hother (p := "float") (by decide) (by decide)
    have hbool := hother (p := "bool") (by decide) (by decide)
    refine ⟨hlist, iff_of_false (fun h => hint (.of_eq h)) (by simp [isWhole]),
      iff_of_false ?_ (by simp [isNumber]),
      iff_of_false (fun h => hbool (.of_eq h)) (by simp [isBoolean])⟩
    rintro (h | h)
    · exact hint (.of_eq h)
    · exact hfloat (.of_eq h)
  | number n =>
    cases n with
    | stars max =>
      exact ⟨(by decide : ¬StartsWith "list[" "int"), iff_of_true rfl rfl,
        iff_of_true (Or.inl rfl) rfl,
        iff_of_false (by decide : "int" ≠ "bool") (by simp [isBoolean])⟩
    | _ => decide
  | _ => decide

theorem Scalar.zod_eq_none (e : Option String) {s : Scalar} (h : ∀ names, s ≠ .oneOf names) :
    s.zod e = s.zod none :=
  Target.zod.scalar_eq_none e h

theorem Scalar.model_eq_none (e : Option String) {s : Scalar} (h : ∀ names, s ≠ .oneOf names) :
    s.model e = s.model none :=
  Target.model.scalar_eq_none e h

section
variable {e : Option String} (hcapital : ∀ name ∈ e, IsCapitalized name.toList)
include hcapital

theorem zod_oneOf_not_startsWith (names : List String) (p : String) (hp : p.toList.head? = some 'z')
    (hshort : ¬StartsWith p "z.enum([") (hlong : ¬StartsWith "z.enum([" p) :
    ¬StartsWith p (Scalar.zod e (.oneOf names)) := by
  cases e with
  | none =>
    have henum : StartsWith "z.enum([" (Scalar.zod none (.oneOf names)) :=
      (StartsWith.of_append "z.enum([" _).append "])"
    exact henum.not_startsWith hlong hshort
  | some name =>
    intro h
    have hz := hcapital name rfl 'z' (h.head? hp)
    cases hz

theorem Scalar.zod_forms (s : Scalar) :
    ¬StartsWith "z.array(" (s.zod e) ∧ ¬StartsWith "z.union(" (s.zod e) ∧
      (IsIntegerSchema (s.zod e) ↔ s.isWhole = true) ∧
      (StartsWith "z.number()" (s.zod e) ↔ s.isNumber = true) ∧
      (s.zod e = "z.boolean()" ↔ s.isBoolean = true) := by
  have hcalls {text : String} (h : ¬StartsWith "z.number().int()" text) : ¬IsIntegerSchema text :=
    fun hschema => h hschema.startsWith
  have hno {p text : List Char} (h : ¬ p <+: text) := not_startsWith_of_chars h
  cases s with
  | oneOf names =>
    have henum := zod_oneOf_not_startsWith hcapital names
    have harray := henum "z.array(" rfl (hno (by decide)) (hno (by decide))
    have hunion := henum "z.union(" rfl (hno (by decide)) (hno (by decide))
    have hint := henum "z.number().int()" rfl (hno (by decide)) (hno (by decide))
    have hnumber := henum "z.number()" rfl (hno (by decide)) (hno (by decide))
    have hboolean := henum "z.boolean()" rfl (hno (by decide)) (hno (by decide))
    exact ⟨harray, hunion, iff_of_false (hcalls hint) (by simp [isWhole]),
      iff_of_false hnumber (by simp [isNumber]),
      iff_of_false (fun h => hboolean (.of_eq h)) (by simp [isBoolean])⟩
  | number n =>
    have hstart := n.startsWith_zod
    have hother {p : String} (hshort : ¬StartsWith p "z.number()")
        (hlong : ¬StartsWith "z.number()" p) : ¬StartsWith p n.zod :=
      hstart.not_startsWith hlong hshort
    have harray := hother (p := "z.array(") (hno (by decide)) (hno (by decide))
    have hunion := hother (p := "z.union(") (hno (by decide)) (hno (by decide))
    have hboolean := hother (p := "z.boolean()") (hno (by decide)) (hno (by decide))
    exact ⟨harray, hunion, n.isIntegerSchema_zod, iff_of_true hstart rfl,
      iff_of_false (fun h => hboolean (.of_eq h)) (by simp [isBoolean])⟩
  | _ =>
    rw [Scalar.zod_eq_none e (by simp)]
    exact ⟨hno (by decide), hno (by decide), iff_of_false (hcalls (hno (by decide))) (by decide),
      iff_of_false (hno (by decide)) (by decide), by decide⟩

end

section
variable {e : Option String} (hname : ∀ name ∈ e, IsName name.toList)
  (hcapital : ∀ name ∈ e, IsCapitalized name.toList)
include hname hcapital

theorem Scalar.model_forms (s : Scalar) :
    ¬StartsWith "list[" (s.model e) ∧ (IsIntegerHint (s.model e) ↔ s.isWhole = true) := by
  have hother {text : String} (hint : text ≠ "int") (hbounds : ¬StartsWith "Annotated[" text) :
      ¬IsIntegerHint text := fun h => h.startsWith.elim hint hbounds
  cases s with
  | oneOf names =>
    cases e with
    | none =>
      have hliteral := literalText_startsWith names
      have hlist : ¬StartsWith "list[" (literalText names) :=
        hliteral.not_startsWith (by decide) (by decide)
      have hint : ¬StartsWith "int" (literalText names) :=
        hliteral.not_startsWith (by decide) (by decide)
      have hbounds : ¬StartsWith "Annotated[" (literalText names) :=
        hliteral.not_startsWith (by decide) (by decide)
      exact ⟨hlist, iff_of_false (hother (fun h => hint (.of_eq h)) hbounds) (by simp [isWhole])⟩
    | some name =>
      have hbracket : '[' ∉ name.toList := (hname name rfl).not_mem (by decide)
      have hi : name ≠ "int" := by
        rintro rfl
        have hsmall := hcapital "int" rfl 'i' rfl
        cases hsmall
      exact ⟨fun h => hbracket (h.subset (by decide)),
        iff_of_false (hother hi fun h => hbracket (h.subset (by decide))) (by simp [isWhole])⟩
  | number n => exact ⟨n.not_startsWith_list, n.isIntegerHint_model⟩
  | _ =>
    rw [Scalar.model_eq_none e (by simp)]
    exact ⟨by decide, iff_of_false (hother (by decide) (by decide)) (by decide)⟩

end

/-! ## Types of values -/

/-- The cells hold one scalar, of which a property is true. -/
def ValueType.isOne (p : Scalar → Bool) : ValueType → Bool
  | .one s => p s
  | .many _ | .mixed => false

/-- The cells hold one scalar or a list of them, and a property is true of it. -/
def ValueType.isOneOrMany (p : Scalar → Bool) : ValueType → Bool
  | .one s | .many s => p s
  | .mixed => false

namespace Target

theorem isListText_list (target : Target) (element : String) :
    target.IsListText (target.list element) := by
  cases target with
  | interface => exact (StartsWith.of_append "Array<" element).append ">"
  | zod => exact Or.inl ((StartsWith.of_append "z.array(" element).append ")")
  | typedDict | model => exact (StartsWith.of_append "list[" element).append "]"

theorem startsWith_mixedList : StartsWith "z.union(" Target.zod.mixedList := by
  have hopening : StartsWith "z.union("
      "z.union([z.array(z.string()), z.array(z.boolean()), z.array(z.number()), " :=
    startsWith_of_chars (by decide)
  exact hopening.append _

theorem isListText_mixedList (target : Target) : target.IsListText target.mixedList := by
  cases target with
  | interface => exact startsWith_of_chars (by decide)
  | zod => exact Or.inr rfl
  | typedDict | model => exact startsWith_of_chars (by decide)

theorem list_injective {target : Target} {a b : String} (h : target.list a = target.list b) :
    a = b := by
  rw [← String.toList_inj] at h ⊢
  cases target <;> simpa [list] using h

/-- A form that tells scalars apart and is not that of a list tells types of values apart. -/
theorem expression_iff_isOne (target : Target) {e : Option String} {P : String → Prop}
    {p : Scalar → Bool} (hlist : ∀ text, P text → ¬target.IsListText text)
    (hscalar : ∀ s, P (target.scalar e s) ↔ p s = true) (v : ValueType) :
    P (target.expression e v) ↔ v.isOne p = true := by
  cases v with
  | one s => exact hscalar s
  | many s =>
    refine iff_of_false (fun h => hlist _ h (target.isListText_list _)) ?_
    simp [ValueType.isOne]
  | mixed =>
    refine iff_of_false (fun h => hlist _ h target.isListText_mixedList) ?_
    simp [ValueType.isOne]

theorem isNumber_interface (e : Option String) (v : ValueType) :
    Target.interface.expression e v = "number" ↔ v.isOne Scalar.isNumber = true := by
  refine Target.interface.expression_iff_isOne (P := fun text => text = "number") ?_
    (fun s => s.interface_forms.2.1) v
  rintro text rfl
  exact (by decide : ¬StartsWith "Array<" "number")

theorem isBoolean_interface (e : Option String) (v : ValueType) :
    Target.interface.expression e v = "boolean" ↔ v.isOne Scalar.isBoolean = true := by
  refine Target.interface.expression_iff_isOne (P := fun text => text = "boolean") ?_
    (fun s => s.interface_forms.2.2) v
  rintro text rfl
  exact (by decide : ¬StartsWith "Array<" "boolean")

theorem isNumber_typedDict (e : Option String) (v : ValueType) :
    (Target.typedDict.expression e v = "int" ∨ Target.typedDict.expression e v = "float") ↔
      v.isOne Scalar.isNumber = true := by
  refine Target.typedDict.expression_iff_isOne (P := fun text => text = "int" ∨ text = "float") ?_
    (fun s => s.typedDict_forms.2.2.1) v
  rintro text (rfl | rfl)
  · exact (by decide : ¬StartsWith "list[" "int")
  · exact (by decide : ¬StartsWith "list[" "float")

theorem isBoolean_typedDict (e : Option String) (v : ValueType) :
    Target.typedDict.expression e v = "bool" ↔ v.isOne Scalar.isBoolean = true := by
  refine Target.typedDict.expression_iff_isOne (P := fun text => text = "bool") ?_
    (fun s => s.typedDict_forms.2.2.2) v
  rintro text rfl
  exact (by decide : ¬StartsWith "list[" "bool")

section
variable {e : Option String} (hcapital : ∀ name ∈ e, IsCapitalized name.toList)
include hcapital

theorem isNumber_zod (v : ValueType) :
    StartsWith "z.number()" (Target.zod.expression e v) ↔ v.isOne Scalar.isNumber = true := by
  refine Target.zod.expression_iff_isOne (fun text htext => ?_)
    (fun s => (s.zod_forms hcapital).2.2.2.1) v
  rintro (h | rfl)
  · exact htext.not_startsWith (by decide) (by decide) h
  · exact startsWith_mixedList.not_startsWith (by decide) (by decide) htext

theorem isBoolean_zod (v : ValueType) :
    Target.zod.expression e v = "z.boolean()" ↔ v.isOne Scalar.isBoolean = true := by
  refine Target.zod.expression_iff_isOne (P := fun text => text = "z.boolean()") ?_
    (fun s => (s.zod_forms hcapital).2.2.2.2) v
  rintro text rfl (h | h)
  · exact absurd h (by decide)
  · have hmixed := startsWith_mixedList
    rw [← h] at hmixed
    exact absurd hmixed (by decide)

end

section
variable {e : Option String} (hname : ∀ name ∈ e, IsName name.toList)
  (hcapital : ∀ name ∈ e, IsCapitalized name.toList)
include hname hcapital

theorem not_isListText_scalar (target : Target) (s : Scalar) :
    ¬target.IsListText (target.scalar e s) := by
  cases target with
  | interface => exact s.interface_forms.1
  | zod =>
    obtain ⟨harray, hunion, -⟩ := s.zod_forms hcapital
    rintro (h | h)
    · exact harray h
    · have hmixed := startsWith_mixedList
      rw [← h] at hmixed
      exact hunion hmixed
  | typedDict => exact s.typedDict_forms.1
  | model => exact (s.model_forms hname hcapital).1

theorem isListText_expression (target : Target) (v : ValueType) :
    target.IsListText (target.expression e v) ↔ v.isList = true := by
  cases v with
  | one s =>
    have hscalar := target.not_isListText_scalar hname hcapital s
    exact iff_of_false hscalar (by simp [ValueType.isList])
  | many s => exact iff_of_true (target.isListText_list _) rfl
  | mixed => exact iff_of_true target.isListText_mixedList rfl

theorem expression_iff_isOneOrMany (target : Target) {P : String → Prop} {p : Scalar → Bool}
    (hlist : ∀ text, P text → ¬target.IsListText text)
    (hmixed : ∀ text, P text → target.mixedList ≠ target.list text)
    (hscalar : ∀ s, P (target.scalar e s) ↔ p s = true) (v : ValueType) :
    (P (target.expression e v) ∨ ∃ one, P one ∧ target.expression e v = target.list one) ↔
      v.isOneOrMany p = true := by
  rw [target.expression_iff_isOne hlist hscalar]
  cases v with
  | one s =>
    have hnone : ¬∃ one, P one ∧ target.scalar e s = target.list one := by
      rintro ⟨one, -, h⟩
      refine target.not_isListText_scalar hname hcapital s ?_
      rw [h]
      exact target.isListText_list one
    exact or_iff_left hnone
  | many s =>
    rw [ValueType.isOneOrMany, ← hscalar s]
    constructor
    · rintro (h | ⟨one, hone, h⟩)
      · cases h
      · rwa [list_injective h]
    · intro h
      exact Or.inr ⟨_, h, rfl⟩
  | mixed =>
    refine iff_of_false ?_ (by simp [ValueType.isOneOrMany])
    rintro (h | ⟨one, hone, h⟩)
    · cases h
    · exact hmixed one hone h

theorem isInteger_typedDict (v : ValueType) :
    (Target.typedDict.expression e v = "int" ∨ Target.typedDict.expression e v = "list[int]") ↔
      v.isOneOrMany Scalar.isWhole = true := by
  rw [← Target.typedDict.expression_iff_isOneOrMany hname hcapital (P := fun text => text = "int")
    (fun text htext => ?_) (fun text htext => ?_) fun s => s.typedDict_forms.2.1]
  · have hlist : Target.typedDict.list "int" = "list[int]" := by decide
    simp [hlist]
  · rw [htext]
    exact (by decide : ¬StartsWith "list[" "int")
  · rw [htext]
    decide

theorem isInteger_model (v : ValueType) :
    (IsIntegerHint (Target.model.expression e v) ∨
      ∃ one, IsIntegerHint one ∧ Target.model.expression e v = "list[" ++ one ++ "]") ↔
      v.isOneOrMany Scalar.isWhole = true := by
  refine Target.model.expression_iff_isOneOrMany hname hcapital (fun text htext => ?_)
    (fun text htext => ?_) (fun s => (s.model_forms hname hcapital).2) v
  · rcases htext.startsWith with rfl | hbounds
    · exact (by decide : ¬StartsWith "list[" "int")
    · exact hbounds.not_startsWith (by decide) (by decide)
  · rcases htext.startsWith with rfl | ⟨rest, hrest⟩
    · decide
    · intro hmixed
      have hnot : ¬StartsWith "list[Annotated[" Target.model.mixedList := by decide
      refine hnot ⟨rest ++ [']'], ?_⟩
      rw [hmixed]
      simp [list, ← hrest]

theorem isInteger_zod (v : ValueType) :
    (IsIntegerSchema (Target.zod.expression e v) ∨
      ∃ one, IsIntegerSchema one ∧ Target.zod.expression e v = "z.array(" ++ one ++ ")") ↔
      v.isOneOrMany Scalar.isWhole = true := by
  refine Target.zod.expression_iff_isOneOrMany hname hcapital (fun text htext => ?_)
    (fun text htext => ?_) (fun s => (s.zod_forms hcapital).2.2.1) v
  · have hstart := htext.startsWith
    rintro (h | rfl)
    · exact hstart.not_startsWith (by decide) (by decide) h
    · exact startsWith_mixedList.not_startsWith (by decide) (by decide) hstart
  · intro hmixed
    have harray : StartsWith "z.array(" (Target.zod.list text) :=
      (StartsWith.of_append "z.array(" text).append ")"
    rw [← hmixed] at harray
    exact startsWith_mixedList.not_startsWith (by decide) (by decide) harray

end

end Target

/-- One field, as the four targets write it: all write a list or none does, all that tell whole
numbers apart write a whole number, or a list of them, or none does, and the same goes for numbers
and truth values. -/
theorem expressions_agree (tableName : String) (field : Field) :
    let interface := Target.interface.fieldExpression tableName field
    let zod := Target.zod.fieldExpression tableName field
    let typedDict := Target.typedDict.fieldExpression tableName field
    let model := Target.model.fieldExpression tableName field
    List.TFAE
      [StartsWith "Array<" interface, StartsWith "list[" typedDict, StartsWith "list[" model,
        StartsWith "z.array(" zod ∨ zod = Target.zod.mixedList] ∧
    List.TFAE
      [typedDict = "int" ∨ typedDict = "list[int]",
        IsIntegerHint model ∨ ∃ one, IsIntegerHint one ∧ model = "list[" ++ one ++ "]",
        IsIntegerSchema zod ∨ ∃ one, IsIntegerSchema one ∧ zod = "z.array(" ++ one ++ ")"] ∧
    List.TFAE
      [interface = "number", typedDict = "int" ∨ typedDict = "float",
        StartsWith "z.number()" zod] ∧
    List.TFAE [interface = "boolean", typedDict = "bool", zod = "z.boolean()"] := by
  intro interface zod typedDict model
  have hname := field.isName_enumeration? tableName
  have hcapital := field.isCapitalized_enumeration? tableName
  refine ⟨?_, ?_, ?_, ?_⟩
  · have hlist (target : Target) := target.isListText_expression hname hcapital field.valueType
    refine List.tfae_of_forall (field.valueType.isList = true) _ ?_
    simp only [List.forall_mem_cons]
    exact ⟨hlist .interface, hlist .typedDict, hlist .model, hlist .zod, by simp⟩
  · refine List.tfae_of_forall (field.valueType.isOneOrMany Scalar.isWhole = true) _ ?_
    simp only [List.forall_mem_cons]
    exact ⟨Target.isInteger_typedDict hname hcapital _, Target.isInteger_model hname hcapital _,
      Target.isInteger_zod hname hcapital _, by simp⟩
  · refine List.tfae_of_forall (field.valueType.isOne Scalar.isNumber = true) _ ?_
    simp only [List.forall_mem_cons]
    exact ⟨Target.isNumber_interface _ _, Target.isNumber_typedDict _ _,
      Target.isNumber_zod hcapital _, by simp⟩
  · refine List.tfae_of_forall (field.valueType.isOne Scalar.isBoolean = true) _ ?_
    simp only [List.forall_mem_cons]
    exact ⟨Target.isBoolean_interface _ _, Target.isBoolean_typedDict _ _,
      Target.isBoolean_zod hcapital _, by simp⟩

end RecordTypes

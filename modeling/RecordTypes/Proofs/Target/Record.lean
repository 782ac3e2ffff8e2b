import RecordTypes.Proofs.Reading.Field
import RecordTypes.Proofs.Reading.Issues
import RecordTypes.Proofs.Target.Expression
import RecordTypes.Proofs.Target.Names
import RecordTypes.Proofs.Target.Row

/-! The record of a table read back from its lines. The marks that a row adds to a type have to be
told from what the type itself is written as: a schema may end as an optional one does inside, the
type of a model's field may hold any text in its literals. -/

namespace RecordTypes

/-! ## Types without the marks of rows -/

/-- A schema that is not optional at its end, and does not become so in brackets. -/
structure IsRequired (s : List Char) : Prop where
  last : s.getLast? ≠ some '('
  unmarked : ¬ ".optional()".toList <:+ s

instance (s : List Char) : Decidable (IsRequired s) :=
  decidable_of_iff (s.getLast? ≠ some '(' ∧
      ".optional()".toList.reverse.isPrefixOf s.reverse = false) <| by
    rw [Bool.eq_false_iff, ne_eq, ne_eq, List.isPrefixOf_iff_prefix, List.reverse_prefix]
    exact ⟨fun h => ⟨h.1, h.2⟩, fun h => ⟨h.last, h.unmarked⟩⟩

theorem getLast?_append_ne {s t : List Char} {c : Char} (ht : t ≠ []) (h : t.getLast? ≠ some c) :
    (s ++ t).getLast? ≠ some c := by
  rw [List.getLast?_append]
  cases hlast : t.getLast? with
  | none => exact absurd (List.getLast?_eq_none_iff.mp hlast) ht
  | some d => simpa [hlast] using h

theorem IsRequired.of_close {s : List Char} (h : s.getLast? ≠ some '(') :
    IsRequired (s ++ [')']) := by
  refine ⟨getLast?_append_ne (by simp) (by simp), fun hsuffix => h ?_⟩
  have hreverse : ".optional()".toList.reverse <+: ')' :: s.reverse := by
    simpa using List.reverse_prefix.mpr hsuffix
  obtain ⟨rest, hrest⟩ := hreverse
  rw [← List.head?_reverse, ← (List.cons.inj hrest).2]
  rfl

theorem IsRequired.of_isName {s : List Char} (hs : IsName s) : IsRequired s := by
  refine ⟨fun h => hs.not_mem (by decide) (List.mem_of_getLast? h), fun h => ?_⟩
  exact hs.not_mem (by decide : isNameChar ')' = false) (h.subset (by decide))

namespace Target

theorem isRequired_stars (max : Nat) : IsRequired (Number.stars max).zod.toList := by
  have hdigits := (IsRequired.of_isName (isName_toDigits max)).last
  have htext : (Number.stars max).zod =
      "z.number().int().min(0).max(" ++ String.ofList (Nat.toDigits 10 max) ++ ")" := rfl
  simp only [htext, String.toList_append, String.toList_ofList]
  exact IsRequired.of_close (getLast?_append_ne Nat.toDigits_ne_nil hdigits)

theorem isRequired_scalar {enumeration? : Option String}
    (henum : ∀ name ∈ enumeration?, IsName name.toList) (s : Scalar) :
    IsRequired (zod.scalar enumeration? s).toList := by
  cases s with
  | oneOf names =>
    cases enumeration? with
    | some name => exact IsRequired.of_isName (henum name rfl)
    | none =>
      have htext : (zod.scalar none (.oneOf names)).toList = ("z.enum([".toList ++
          (alternativesText typescriptDialect ", " names).toList ++ [']']) ++ [')'] := by
        simp [scalar, Scalar.zod]
      rw [htext]
      exact IsRequired.of_close (getLast?_append_ne (by simp) (by simp))
  | number n =>
    cases n with
    | stars max => exact isRequired_stars max
    | _ =>
      rw [scalar_eq_none zod enumeration?]
      · exact holds_of_chars (P := IsRequired) (by decide)
      · simp
  | _ =>
    rw [scalar_eq_none zod enumeration?]
    · exact holds_of_chars (P := IsRequired) (by decide)
    · simp

theorem isRequired_expression {enumeration? : Option String}
    (henum : ∀ name ∈ enumeration?, IsName name.toList) (v : ValueType) :
    IsRequired (zod.expression enumeration? v).toList := by
  cases v with
  | one s => exact isRequired_scalar henum s
  | many s =>
    have hscalar := isRequired_scalar henum s
    have htext : (zod.expression enumeration? (.many s)).toList =
        ("z.array(".toList ++ (zod.scalar enumeration? s).toList) ++ [')'] := by
      simp [expression, list]
    rw [htext]
    by_cases hempty : (zod.scalar enumeration? s).toList = []
    · rw [hempty]
      decide
    · exact IsRequired.of_close (getLast?_append_ne hempty hscalar.last)
  | mixed => exact holds_of_chars_append (P := IsRequired) (by decide)

theorem typedDict_expression_head (enumeration? : Option String) (v : ValueType) :
    (typedDict.expression enumeration? v).toList.head? ≠ some 'N' := by
  cases v with
  | one s =>
    cases s with
    | oneOf names =>
      have htext :
          typedDict.expression enumeration? (.one (.oneOf names)) = literalText names := rfl
      simp [htext, literalText]
    | number n =>
      have hnumber : n.typedDict = "float" ∨ n.typedDict = "int" := by
        cases n <;> simp [Number.typedDict]
      change n.typedDict.toList.head? ≠ _
      rcases hnumber with h | h <;> rw [h] <;> decide
    | _ =>
      change (typedDict.scalar enumeration? _).toList.head? ≠ _
      rw [scalar_eq_none typedDict enumeration?]
      · exact holds_of_chars (P := fun s => s.head? ≠ some 'N') (by decide)
      · simp
  | many s => simp [expression, list]
  | mixed => exact holds_of_chars (P := fun s => s.head? ≠ some 'N') (by decide)

theorem isMarkless_stars (max : Nat) : IsMarkless (Number.stars max).model.toList := by
  have htext : (Number.stars max).model =
      "Annotated[int, Field(ge=0, le=" ++ String.ofList (Nat.toDigits 10 max) ++ ")]" := rfl
  simp only [htext, String.toList_append, String.toList_ofList]
  have hmark {chars : List Char} (h : IsPlain chars) :=
    (holds_of_chars (P := IsPlain) h).isMarkless
  exact ((hmark (by decide)).append (IsMarkless.of_isName (isName_toDigits max))).append
    (hmark (by decide))

theorem isMarkless_literalText (names : List String) : IsMarkless (literalText names).toList := by
  have hnames : IsMarkless (alternativesText pythonDialect ", " names).toList := by
    simp only [alternativesText, String.toList_intercalate, List.map_map]
    refine (IsPlain.isMarkless (by decide)).intercalate fun piece hpiece => ?_
    obtain ⟨name, -, rfl⟩ := List.mem_map.mp hpiece
    simpa [Dialect.quoted, pythonDialect] using isMarkless_doubleQuoted name.toList
  simp only [literalText, String.toList_append]
  exact ((IsPlain.isMarkless (by decide)).append hnames).append
    (IsPlain.isMarkless (by decide))

theorem isMarkless_scalar {enumeration? : Option String}
    (henum : ∀ name ∈ enumeration?, IsName name.toList) (s : Scalar) :
    IsMarkless (model.scalar enumeration? s).toList := by
  cases s with
  | oneOf names =>
    cases enumeration? with
    | some name => exact IsMarkless.of_isName (henum name rfl)
    | none => exact isMarkless_literalText names
  | number n =>
    cases n with
    | stars max => exact isMarkless_stars max
    | _ =>
      rw [scalar_eq_none model enumeration?]
      · exact (holds_of_chars (P := IsPlain) (by decide)).isMarkless
      · simp
  | _ =>
    rw [scalar_eq_none model enumeration?]
    · exact (holds_of_chars (P := IsPlain) (by decide)).isMarkless
    · simp

theorem isMarkless_bracketed {opening : String} {s : List Char}
    (hopening : IsMarkless opening.toList) (hs : IsMarkless s) :
    IsMarkless (opening.toList ++ s ++ "]".toList) :=
  (hopening.append hs).append (IsPlain.isMarkless (by decide))

theorem isMarkless_expression {enumeration? : Option String}
    (henum : ∀ name ∈ enumeration?, IsName name.toList) (v : ValueType) :
    IsMarkless (model.expression enumeration? v).toList := by
  cases v with
  | one s => exact isMarkless_scalar henum s
  | many s =>
    simp only [expression, list, String.toList_append]
    exact isMarkless_bracketed (IsPlain.isMarkless (by decide))
      (isMarkless_scalar henum s)
  | mixed =>
    exact (holds_of_chars (P := IsPlain) (by decide) : IsPlain model.mixedList.toList).isMarkless

/-! ## Rows -/

theorem readRows_append (target : Target) (lines lines' : List String) :
    target.readRows (lines ++ lines') = target.readRows lines ++ target.readRows lines' :=
  List.filterMap_append

theorem readZodRow_of_isRequired (row : Row) (h : IsRequired row.expression.toList) :
    readZodRow (typescriptDialect.lookupRow false row.name
      (if row.isReadOnly then row.expression else row.expression ++ ".optional()")).toList =
        some (zod.readBack row) := by
  rw [readZodRow_lookupRow]
  cases hreadOnly : row.isReadOnly with
  | true =>
    simp only [if_pos, dropSuffix?_eq_none h.unmarked]
    simp [readBack, hreadOnly, marksReadOnly]
  | false =>
    simp only [Bool.false_eq_true, if_false, String.toList_append, dropSuffix?_append]
    simp [readBack, hreadOnly, marksReadOnly]

theorem readTypedDictRow_of_head (row : Row) (h : row.expression.toList.head? ≠ some 'N') :
    readTypedDictRow (pythonDialect.indented 2 (pythonDialect.quoted row.name ++ ": " ++
      (if row.isReadOnly then row.expression else "NotRequired[" ++ row.expression ++ "]") ++
        ",")).toList = some (typedDict.readBack row) := by
  rw [readTypedDictRow_eq (by
    simp [Dialect.indented, Dialect.quoted, pythonDialect, List.replicate] : _ = _ ++
      (doubleQuoted row.name.toList ++ (": ".toList ++ ((if row.isReadOnly then row.expression
        else "NotRequired[" ++ row.expression ++ "]").toList ++ ",".toList))))]
  cases hreadOnly : row.isReadOnly with
  | true =>
    have hprefix : ¬ "NotRequired[".toList <+: row.expression.toList := by
      rintro ⟨rest, hrest⟩
      rw [← hrest] at h
      exact h rfl
    simp only [if_pos, between?, dropPrefix?_eq_none hprefix, Option.bind_eq_bind, Option.bind_none]
    simp [readBack, hreadOnly, marksReadOnly]
  | false =>
    simp only [Bool.false_eq_true, if_false, String.toList_append, List.append_assoc,
      between?_append]
    simp [readBack, hreadOnly, marksReadOnly]

theorem readModelRow_of_isMarkless (row : Row) (hname : IsName row.property.toList)
    (h : IsMarkless row.expression.toList) :
    readModelRow (if row.isReadOnly then
        propertyLine pythonDialect row.property row.expression
          ("Field(alias=" ++ pythonDialect.quoted row.name ++ ", frozen=True)")
      else
        propertyLine pythonDialect row.property ("Optional[" ++ row.expression ++ "]")
          ("Field(default=None, alias=" ++ pythonDialect.quoted row.name ++ ")")).toList =
      some (model.readBack row) := by
  cases hreadOnly : row.isReadOnly with
  | true =>
    have hdefault (key : String) : "Field(alias=" ++ key ++ ", frozen=True)" =
        "Field(" ++ "" ++ "alias=" ++ key ++ ", frozen=True" ++ ")" := by
      rw [← String.toList_inj]
      simp
    have hread := readModelRow_propertyLine row.property row.expression row.name false true hname h
    rw [if_pos rfl, hdefault]
    exact hread.trans (by simp [readBack, hreadOnly, marksReadOnly])
  | false =>
    have hdefault (key : String) : "Field(default=None, alias=" ++ key ++ ")" =
        "Field(" ++ "default=None, " ++ "alias=" ++ key ++ "" ++ ")" := by
      rw [← String.toList_inj]
      simp
    have hoptional : IsMarkless ("Optional[" ++ row.expression ++ "]").toList := by
      simp only [String.toList_append]
      exact isMarkless_bracketed (IsPlain.isMarkless (by decide)) h
    have hread := readModelRow_propertyLine row.property _ row.name true false hname hoptional
    rw [if_neg Bool.false_ne_true, hdefault]
    refine hread.trans ?_
    simp only [if_pos, String.toList_append, List.append_assoc, between?_append]
    simp [readBack, hreadOnly, marksReadOnly]

/-! ## Lines between the rows -/

theorem readRow_of_unindented (target : Target) {s : List Char} (h : ¬ "  ".toList <+: s) :
    target.readRow s = none := by
  have hfour : ¬ "    ".toList <+: s := fun hh => h (List.IsPrefix.trans ⟨"  ".toList, rfl⟩ hh)
  have height : ¬ "        ".toList <+: s :=
    fun hh => h (List.IsPrefix.trans ⟨"      ".toList, rfl⟩ hh)
  cases target with
  | interface => simp only [readRow, readInterfaceRow, dropPrefix?_eq_none h]; rfl
  | zod => simp only [readRow, readZodRow, dropPrefix?_eq_none h]; rfl
  | typedDict => simp only [readRow, readTypedDictRow, dropPrefix?_eq_none height]; rfl
  | model => simp only [readRow, readModelRow, dropPrefix?_eq_none hfour]; rfl

theorem readRow_of_head (target : Target) {s : List Char} {c : Char} (h : s.head? = some c)
    (hc : c ≠ ' ') : target.readRow s = none := by
  obtain ⟨rest, rfl⟩ := List.head?_eq_some_iff.mp h
  refine target.readRow_of_unindented ?_
  rintro ⟨tail, htail⟩
  exact hc (List.cons.inj htail).1.symm

theorem readSingleQuoted_slash (s : List Char) : readSingleQuoted ('/' :: s) = none := rfl

theorem readDoubleQuoted_hash (s : List Char) : readDoubleQuoted ('#' :: s) = none := rfl

theorem toList_typescriptDocstring (s : String) :
    ∃ rest, (typescriptDialect.docstring 1 s).toList = "  ".toList ++ '/' :: rest :=
  ⟨_, by simp [Dialect.docstring, Dialect.indented, typescriptDialect, List.replicate]; rfl⟩

theorem readInterfaceRow_docstring (s : String) :
    readInterfaceRow (typescriptDialect.docstring 1 s).toList = none := by
  obtain ⟨rest, hline⟩ := toList_typescriptDocstring s
  have hmark : takeMark "readonly ".toList ('/' :: rest) = (false, '/' :: rest) :=
    takeMark_of_head (by decide) _ _
  rw [hline]
  simp only [readInterfaceRow, dropPrefix?_append, hmark, readSingleQuoted_slash,
    Option.bind_eq_bind, Option.bind_some, Option.bind_none]

theorem readZodRow_docstring (s : String) :
    readZodRow (typescriptDialect.docstring 1 s).toList = none := by
  obtain ⟨rest, hline⟩ := toList_typescriptDocstring s
  rw [hline]
  simp only [readZodRow, dropPrefix?_append, readSingleQuoted_slash, Option.bind_eq_bind,
    Option.bind_some, Option.bind_none]

theorem readTypedDictRow_comment (s : String) :
    readTypedDictRow (pythonDialect.indented 2 (pythonDialect.comment s)).toList = none := by
  have hline : (pythonDialect.indented 2 (pythonDialect.comment s)).toList =
      "        ".toList ++ '#' :: ' ' :: s.toList := by
    simp [Dialect.comment, Dialect.indented, pythonDialect, List.replicate]
  rw [hline]
  simp only [readTypedDictRow, dropPrefix?_append, readDoubleQuoted_hash, Option.bind_eq_bind,
    Option.bind_some, Option.bind_none]

theorem readModelRow_docstring (s : String) :
    readModelRow (pythonDialect.docstring 1 s).toList = none := by
  have hline : (pythonDialect.docstring 1 s).toList = "    ".toList ++
      quotationMark :: ("\x22\x22".toList ++ (s.toList ++ "\x22\x22\x22".toList)) := by
    simp [Dialect.docstring, Dialect.indented, pythonDialect, List.replicate, quotationMark]
  have hword (rest : List Char) :
      nameAndRest (quotationMark :: rest) = ([], quotationMark :: rest) :=
    nameAndRest_append IsName.nil (by decide) rest
  rw [hline]
  simp only [readModelRow, dropPrefix?_append, hword, Option.bind_eq_bind, Option.bind_some]
  rfl

theorem readRows_rowLines (target : Target) (row : Row) (hname : IsName row.property.toList)
    {enumeration? : Option String} (henum : ∀ name ∈ enumeration?, IsName name.toList)
    {v : ValueType} (h : row.expression = target.expression enumeration? v) :
    target.readRows (target.rowLines row) = [target.readBack row] := by
  cases target with
  | interface =>
    have hrow :=
      readInterfaceRow_memberLine row.name row.expression (!row.isReadOnly) row.isReadOnly
    simp only [readRows, rowLines, interfaceRow, readRow, List.filterMap_cons,
      readInterfaceRow_docstring, hrow]
    rfl
  | zod =>
    have hrow := readZodRow_of_isRequired row (h ▸ isRequired_expression henum v)
    simp only [readRows, rowLines, zodRow, readRow, List.filterMap_cons, readZodRow_docstring, hrow]
    rfl
  | typedDict =>
    have hrow := readTypedDictRow_of_head row (h ▸ typedDict_expression_head enumeration? v)
    simp only [readRows, rowLines, typedDictRow, readRow, List.filterMap_cons,
      readTypedDictRow_comment, hrow]
    rfl
  | model =>
    have hrow := readModelRow_of_isMarkless row hname (h ▸ isMarkless_expression henum v)
    simp only [readRows, rowLines, modelRow, readRow, List.filterMap_cons, readModelRow_docstring,
      hrow]
    rfl

theorem readRow_empty (target : Target) : target.readRow "".toList = none := by
  cases target <;> rfl

theorem readTypedDictRow_indented {s : String} {c : Char} (h : s.toList.head? = some c)
    (hc : c ≠ ' ') : readTypedDictRow (pythonDialect.indented 1 s).toList = none := by
  obtain ⟨rest, hs⟩ := List.head?_eq_some_iff.mp h
  have hline : (pythonDialect.indented 1 s).toList = "    ".toList ++ c :: rest := by
    simp [Dialect.indented, pythonDialect, List.replicate, hs]
  have hblanks : ¬ "        ".toList <+: "    ".toList ++ c :: rest := by
    have height : "        ".toList = "    ".toList ++ "    ".toList := by simp
    rw [height, List.prefix_append_right_inj]
    rintro ⟨tail, htail⟩
    exact hc (List.cons.inj htail).1.symm
  rw [hline]
  simp only [readTypedDictRow, dropPrefix?_eq_none hblanks]
  rfl

theorem readRow_definition (target : Target) {name : String} (hname : IsName name.toList) :
    target.readRow (name ++ " = TypedDict(").toList = none := by
  cases hchars : name.toList with
  | nil =>
    refine target.readRow_of_unindented ?_
    rw [String.toList_append, hchars, List.nil_append]
    decide
  | cons c cs =>
    refine target.readRow_of_head (c := c) (by simp [hchars]) ?_
    rintro rfl
    exact absurd (hname ' ' (by simp [hchars])) (by decide)

theorem readModelRow_config : readModelRow (pythonDialect.indented 1
    "model_config = ConfigDict(populate_by_name=True)").toList = none := by
  have hline :
      (pythonDialect.indented 1 "model_config = ConfigDict(populate_by_name=True)").toList =
        "    ".toList ++ ("model_config".toList ++ ' ' ::
        "= ConfigDict(populate_by_name=True)".toList) := by
    simp [Dialect.indented, pythonDialect, List.replicate]
  have hword (rest : List Char) : nameAndRest ("model_config".toList ++ ' ' :: rest) =
      ("model_config".toList, ' ' :: rest) := nameAndRest_append (by decide) (by decide) rest
  rw [hline]
  simp only [readModelRow, dropPrefix?_append, hword, Option.bind_eq_bind, Option.bind_some]
  rfl

theorem readRow_recordOpening (target : Target) (table : Table) :
    ∀ line ∈ target.recordOpening table, target.readRow line.toList = none := by
  cases target with
  | interface | zod =>
    refine List.forall_mem_singleton.mpr (readRow_of_head _ (c := 'e') (by simp) (by decide))
  | typedDict =>
    have hname : typedDict.readRow (pythonDialect.indented 1
        (pythonDialect.quoted table.typeName ++ ",")).toList = none :=
      readTypedDictRow_indented (c := quotationMark)
        (by simp [Dialect.quoted, pythonDialect, doubleQuoted]) (by decide)
    have hbrace : typedDict.readRow (pythonDialect.indented 1 "\x7b").toList = none :=
      readTypedDictRow_indented (c := '\x7b') (by simp) (by decide)
    simp only [recordOpening, List.forall_mem_cons]
    exact ⟨readRow_definition _ table.isName_typeName, hname, hbrace, by simp⟩
  | model =>
    have hclass : model.readRow ("class " ++ table.typeName ++ "(BaseModel):").toList = none :=
      readRow_of_head _ (c := 'c') (by simp) (by decide)
    have hremark : model.readRow (pythonDialect.docstring 1 table.remark).toList = none :=
      readModelRow_docstring table.remark
    simp only [recordOpening, List.forall_mem_cons]
    exact ⟨hclass, hremark, readRow_empty _, readModelRow_config, readRow_empty _, by simp⟩

theorem readRow_recordClosing (target : Target) (table : Table) :
    ∀ line ∈ target.recordClosing table, target.readRow line.toList = none := by
  have hempty := target.readRow_empty
  cases target with
  | interface =>
    exact List.forall_mem_cons.mpr ⟨readRow_of_head _ (c := '\x7d') (by simp) (by decide),
      List.forall_mem_singleton.mpr hempty⟩
  | zod =>
    have htype : zod.readRow ("export type " ++ table.typeName ++ " = z.infer<typeof " ++
        table.schemaName ++ ">").toList = none := readRow_of_head _ (c := 'e') (by simp) (by decide)
    simp only [recordClosing, List.forall_mem_cons]
    exact ⟨readRow_of_head _ (c := '\x7d') (by simp) (by decide), htype, hempty, by simp⟩
  | typedDict =>
    have hremark : typedDict.readRow (pythonDialect.docstring 0 table.remark).toList = none :=
      readRow_of_head _ (c := quotationMark)
        (by simp [Dialect.docstring, Dialect.indented, pythonDialect, quotationMark]) (by decide)
    have hbrace : typedDict.readRow (pythonDialect.indented 1 "\x7d,").toList = none :=
      readTypedDictRow_indented (c := '\x7d') (by simp) (by decide)
    simp only [recordClosing, List.forall_mem_cons]
    exact ⟨hbrace, readRow_of_head _ (c := ')') (by simp) (by decide), hremark, hempty, hempty,
      by simp⟩
  | model => exact List.forall_mem_cons.mpr ⟨hempty, List.forall_mem_singleton.mpr hempty⟩

theorem readRows_rowBlock (target : Target) (table : Table) (fields : List Field) :
    target.readRows (fields.flatMap fun field => target.rowLines (target.row table field)) =
      fields.map fun field => target.readBack (target.row table field) := by
  induction fields with
  | nil => rfl
  | cons field fields ih =>
    have hrow : target.readRows (target.rowLines (target.row table field)) =
        [target.readBack (target.row table field)] :=
      target.readRows_rowLines (target.row table field) field.isName_propertyName
        (field.isName_enumeration? table.name) rfl
    rw [List.flatMap_cons, readRows_append, hrow, ih]
    rfl

/-- A record has a row for each field, in the order of the fields, and nothing else that could be
read as one. -/
theorem readRows_recordLines (target : Target) (table : Table) :
    target.readRows (target.recordLines table) =
      table.fields.map fun field => target.readBack (target.row table field) := by
  have hopening : target.readRows (target.recordOpening table) = [] :=
    List.filterMap_eq_nil_iff.mpr (target.readRow_recordOpening table)
  have hclosing : target.readRows (target.recordClosing table) = [] :=
    List.filterMap_eq_nil_iff.mpr (target.readRow_recordClosing table)
  rw [recordLines, readRows_append, readRows_append, hopening, hclosing, readRows_rowBlock,
    List.nil_append, List.append_nil]

structure Describes (target : Target) (table : Table) (row : ReadRow) (field : Field) : Prop where
  key : field.heading.name = some row.key
  expression : row.expression = target.fieldExpression table.name field
  isOptional : row.isOptional = !field.isReadOnly
  isReadOnly : row.isReadOnly = if target.marksReadOnly then some field.isReadOnly else none

/-- The record of a table that was read is read back row by row, and each row describes its
field. -/
theorem describes_of_readTable {raw : Json} {table : Table} (h : readTable raw = .value table)
    (target : Target) :
    List.Forall₂ (target.Describes table) (target.readRows (target.recordLines table))
      table.fields := by
  have hidentified := isIdentified_of_readTable h
  rw [readRows_recordLines, List.forall₂_map_left_iff, List.forall₂_same]
  intro field hfield
  exact ⟨Field.name_eq_label (hidentified field hfield), rfl, rfl, rfl⟩

end Target

def guestFields : List Json :=
  [.obj [("id", .str "fldWho"), ("name", .str "It's \"who\""), ("type", .str "singleLineText")],
   .obj [("id", .str "fldSeat"), ("name", .str "Seat"), ("type", .str "autoNumber")],
   .obj [("id", .str "fldMeal"), ("name", .str "Meal"), ("type", .str "singleSelect"),
     ("options", .obj [("choices", .arr [.obj [("id", .str "selSoup"), ("name", .str "Soup")]])])],
   .obj [("id", .str "fldShare"), ("name", .str "Share, paid"), ("type", .str "formula"),
     ("options", .obj [("result",
       .obj [("type", .str "currency"), ("options", .obj [("precision", .int 2)])])])]]

def guestMembers : Members :=
  [("id", .str "tblGuests"), ("name", .str "Guests"), ("primaryFieldId", .str "fldWho"),
   ("fields", .arr guestFields)]

def guests : Table where
  id := "tblGuests"
  name := "Guests"
  primaryFieldId := "fldWho"
  description := none
  fields :=
    [.plain ⟨some "fldWho", some "It's \"who\"", none⟩ (.basic .singleLineText none),
     .plain ⟨some "fldSeat", some "Seat", none⟩ (.basic .autoNumber none),
     .plain ⟨some "fldMeal", some "Meal", none⟩
       (.choice .singleSelect [⟨"selSoup", "Soup", none⟩]),
     .computed ⟨some "fldShare", some "Share, paid", none⟩ .formula
       (.plain ⟨none, none, none⟩ (.number .currency 2))]
  views := []

theorem readTable_guests : readTable (.obj guestMembers) = .value guests := by
  have hitems : readItems readField 0 guestFields = .value guests.fields := by
    refine readItems_eq_value_iff.mpr (.cons ?_ (.cons ?_ (.cons ?_ (.cons ?_ .nil))))
    · exact FieldFrom.readFieldWith_eq (.plain rfl nofun rfl rfl rfl)
    · exact FieldFrom.readFieldWith_eq (.plain rfl nofun rfl rfl rfl)
    · exact FieldFrom.readFieldWith_eq (.plain rfl nofun rfl rfl rfl)
    · have hshare : FieldFrom Guard.standard.below
          [("type", .str "currency"), ("options", .obj [("precision", .int 2)])]
          (.plain ⟨none, none, none⟩ (.number .currency 2)) := .plain rfl nofun rfl rfl rfl
      exact FieldFrom.readFieldWith_eq (.computed rfl rfl rfl rfl hshare.readFieldWith_eq)
  have hfields : readFields (.arr guestFields) = .value guests.fields := by
    simp only [readFields, readList, hitems]
    rfl
  have hrequired : required "fields" readFields guestMembers = .value guests.fields :=
    congrArg (Reading.under (.key "fields")) hfields
  simp only [readTable, readModel, hrequired]
  rfl

/-- Fields that can be written and others in turn. -/
theorem describes_guests : readTable (.obj guestMembers) = .value guests ∧
    (∀ target : Target, List.Forall₂ (target.Describes guests)
      (target.readRows (target.recordLines guests)) guests.fields) ∧
    (Target.model.readRows (Target.model.recordLines guests)).map (fun row =>
      (row.key, row.isOptional, row.isReadOnly)) =
        [("It's \"who\"", true, some false), ("Seat", false, some true),
         ("Meal", true, some false), ("Share, paid", false, some true)] := by
  refine ⟨readTable_guests, fun target => Target.describes_of_readTable readTable_guests target, ?_⟩
  rw [Target.readRows_recordLines]
  rfl

end RecordTypes

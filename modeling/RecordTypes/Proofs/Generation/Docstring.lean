import RecordTypes.Proofs.Generation.Outcome
import RecordTypes.Proofs.Generation.Remark
import RecordTypes.Proofs.Text.PythonLiteral

/-! Docstrings of Python as string literals. They close where they should, whatever tables and
fields are called, but a backslash in a name begins an escape, and not every escape can be read. -/

namespace RecordTypes

/-! ## Escapes at the end of a name -/

namespace EscapeState

/-- Neither a digit nor a name is missing: a blank or a grave accent may follow. -/
def isSettled : EscapeState → Bool
  | plain | begun | octal .. => true
  | hex .. | nameOpening | name _ => false

end EscapeState

/-- What is said after a name, which neither begins an escape nor ends the name of a character. -/
def isInert (c : Char) : Bool := c != '\x00' && c != backslash && c != '\x7d'

/-- A text whose escapes are all read or may be ended by a blank. -/
def EscapesFit (charNamed : List Char → Option Nat) (s : List Char) : Prop :=
  ∃ p ∈ EscapeState.plain.run? charNamed s, p.2.isSettled = true

namespace EscapeState

theorem exists_run?_append_iff {charNamed : List Char → Option Nat} {P : EscapeState → Prop}
    {state : EscapeState} {s t : List Char} :
    (∃ p ∈ state.run? charNamed (s ++ t), P p.2) ↔
      ∃ p ∈ state.run? charNamed s, ∃ q ∈ p.2.run? charNamed t, P q.2 := by
  rw [run?_append]
  cases state.run? charNamed s with
  | none => simp
  | some p =>
    cases h : p.2.run? charNamed t with
    | none => simp [h]
    | some q => simp only [Option.bind_some, h, Option.map_some, Option.mem_some_iff,
        exists_eq_left', Prod.map_snd, id_eq]

section
variable {charNamed : List Char → Option Nat} {s : List Char} (hs : s.all isInert = true)
include hs

theorem run?_inert (charNamed : List Char → Option Nat) :
    plain.run? charNamed s = some (s.map Char.toNat, plain) := by
  induction s with
  | nil => rfl
  | cons c s ih =>
    simp only [List.all_cons, isInert, Bool.and_eq_true, bne_iff_ne, ne_eq] at hs
    obtain ⟨⟨⟨hnul, hescape⟩, -⟩, hrest⟩ := hs
    rw [← List.singleton_append, run?_append, run?_plain charNamed hnul hescape, Option.bind_some,
      ih hrest]
    rfl

theorem run?_name (read : List Char) :
    (name read).run? charNamed s = some ([], name (read ++ s)) := by
  induction s generalizing read with
  | nil => simp [run?]
  | cons c s ih =>
    simp only [List.all_cons, isInert, Bool.and_eq_true, bne_iff_ne, ne_eq] at hs
    obtain ⟨⟨⟨hnul, -⟩, hclosing⟩, hrest⟩ := hs
    simp [run?, next?, hnul, hclosing, ih hrest]

omit hs in
theorem next?_of_isSettled (charNamed : List Char → Option Nat) {c : Char}
    (hc : c = ' ' ∨ c = '\x60') {state : EscapeState} (h : state.isSettled = true) :
    ∃ codes, state.next? charNamed c = some (codes, plain) := by
  cases state with
  | plain | begun | octal => rcases hc with rfl | rfl <;> exact ⟨_, rfl⟩
  | hex | nameOpening | name => cases h

theorem exists_last_iff_isSettled {c : Char} (hc : c = ' ' ∨ c = '\x60') (state : EscapeState) :
    (∃ p ∈ state.run? charNamed (c :: s), p.2.last?.isSome = true) ↔ state.isSettled = true := by
  constructor
  · rintro ⟨p, hp, hlast⟩
    cases state with
    | plain | begun | octal => rfl
    | hex left value => rcases hc with rfl | rfl <;> cases hp
    | nameOpening => rcases hc with rfl | rfl <;> cases hp
    | name read =>
      -- No brace follows that could end the name of a character.
      have hinert : (c :: s).all isInert = true := by
        rcases hc with rfl | rfl <;> exact hs
      rw [run?_name hinert] at hp
      cases hp
      cases hlast
  · intro h
    obtain ⟨codes, hnext⟩ := next?_of_isSettled charNamed hc h
    exact ⟨_, by rw [run?, hnext, Option.bind_some, run?_inert hs charNamed]; rfl, rfl⟩

end

end EscapeState

/-! ## Docstrings -/

/-- A line that closes at its end, and not before, if it begins as a docstring. -/
def ClosesOnce (line : String) : Prop :=
  ∀ text ∈ Language.python.docText? line.toList, ∃ body, threeQuotes.body? text = some (body, [])

/-- A line that is one string literal, up to the blanks before it. -/
def IsDocLiteral (charNamed : List Char → Option Nat) (line : String) : Prop :=
  ∃ codes, threeQuotes.read? charNamed (line.toList.dropWhile (· == ' ')) = some (codes, [])

theorem docText?_pythonDocstring (level : Nat) (s : String) :
    Language.python.docText? (pythonDialect.docstring level s).toList =
      some (s.toList ++ docQuotes) := Target.model.docText?_docstring level s

theorem not_infix_of_cons {mark s : List Char} {c : Char} (h : ¬ mark <:+: c :: s) :
    ¬ mark <:+: s := fun hs => h (hs.trans (List.suffix_cons c s).isInfix)

/-- An accent at the end keeps the mark apart from what is before, a backslash included. -/
theorem body?_accent : ∀ front : List Char, ¬ docQuotes <:+: front →
    threeQuotes.body? (front ++ '\x60' :: docQuotes) = some (front ++ ['\x60'], [])
  | [], _ => rfl
  | [c], hopen => by
    by_cases hescape : c = backslash
    · subst hescape
      rfl
    · have hmark : ¬ docQuotes <+: [c] ++ '\x60' :: docQuotes := fun h =>
        hopen ((prefix_append_cons_iff (by decide)).mp h).isInfix
      rw [List.singleton_append, Quotes.body?_plain hmark hescape (.inr rfl)]
      rfl
  | c :: d :: front, hopen => by
    -- A backslash takes the next character along, so that both are gone at once.
    have hmark : ¬ docQuotes <+: c :: d :: (front ++ '\x60' :: docQuotes) := fun h =>
      hopen ((prefix_append_cons_iff (s := c :: d :: front) (by decide)).mp h).isInfix
    have hrest : ¬ docQuotes <:+: d :: front := not_infix_of_cons hopen
    by_cases hescape : c = backslash
    · subst hescape
      rw [List.cons_append, List.cons_append, Quotes.body?_backslash hmark,
        body?_accent front (not_infix_of_cons hrest)]
      rfl
    · rw [List.cons_append, List.cons_append, Quotes.body?_plain hmark hescape (.inr rfl),
        ← List.cons_append, body?_accent (d :: front) hrest]
      rfl

theorem body?_docstring {s : List Char} (hs : s.getLast? = some '\x60')
    (hopen : ¬ docQuotes <:+: s) : threeQuotes.body? (s ++ docQuotes) = some (s, []) := by
  obtain ⟨front, rfl⟩ := List.getLast?_eq_some_iff.mp hs
  have hfront : ¬ docQuotes <:+: front := fun h =>
    hopen (h.trans (List.prefix_append front _).isInfix)
  simpa using body?_accent front hfront

section
variable {charNamed : List Char → Option Nat}

theorem isSome_decode?_iff {s : List Char} : (decode? charNamed s).isSome = true ↔
    ∃ p ∈ EscapeState.plain.run? charNamed s, p.2.last?.isSome = true := by
  cases h : EscapeState.plain.run? charNamed s with
  | none => simp [decode?, h]
  | some p => cases hlast : p.2.last? <;> simp [decode?, h, hlast]

theorem isSome_decode?_append_iff {front name tail : List Char} {c : Char}
    (hc : c = ' ' ∨ c = '\x60') (hfront : front.all isInert = true)
    (htail : tail.all isInert = true) :
    (decode? charNamed (front ++ (name ++ c :: tail))).isSome = true ↔
      EscapesFit charNamed name := by
  have hinert := EscapeState.run?_inert hfront charNamed
  calc (decode? charNamed (front ++ (name ++ c :: tail))).isSome = true
      ↔ ∃ p ∈ EscapeState.plain.run? charNamed (front ++ (name ++ c :: tail)),
          p.2.last?.isSome = true := isSome_decode?_iff
    _ ↔ ∃ p ∈ EscapeState.plain.run? charNamed (name ++ c :: tail), p.2.last?.isSome = true := by
      rw [EscapeState.exists_run?_append_iff (P := fun last => last.last?.isSome = true), hinert]
      simp
    _ ↔ ∃ p ∈ EscapeState.plain.run? charNamed name,
          ∃ q ∈ p.2.run? charNamed (c :: tail), q.2.last?.isSome = true :=
      EscapeState.exists_run?_append_iff (P := fun last => last.last?.isSome = true)
    _ ↔ EscapesFit charNamed name := exists_congr fun p => and_congr_right fun _ =>
      EscapeState.exists_last_iff_isSettled htail hc p.2

theorem isDocLiteral_docstring_iff (level : Nat) {s : String}
    (hs : s.toList.getLast? = some '\x60') (hopen : ¬ docQuotes <:+: s.toList) :
    IsDocLiteral charNamed (pythonDialect.docstring level s) ↔
      (decode? charNamed s.toList).isSome = true := by
  have hbody := body?_docstring hs hopen
  have hopened : ((pythonDialect.docstring level s).toList.dropWhile (· == ' ')).dropPrefix?
      threeQuotes.mark = some (s.toList ++ docQuotes) := docText?_pythonDocstring level s
  cases h : decode? charNamed s.toList <;> simp [IsDocLiteral, Quotes.read?, hopened, hbody, h]

end

theorem closesOnce_docstring (level : Nat) {s : String} (hs : s.toList.getLast? = some '\x60')
    (hopen : ¬ docQuotes <:+: s.toList) : ClosesOnce (pythonDialect.docstring level s) := by
  rw [ClosesOnce, docText?_pythonDocstring]
  rintro text ⟨⟩
  exact ⟨s.toList, body?_docstring hs hopen⟩

theorem Language.IsCode.closesOnce {line : String} (h : Language.python.IsCode line) :
    ClosesOnce line := by
  simp [ClosesOnce, h.undocumented]

/-! ## Remarks -/

def IsPlainId (id : String) : Prop := id.toList.all Char.isAlphanum = true

instance (id : String) : Decidable (IsPlainId id) := inferInstanceAs (Decidable (_ = _))

theorem all_of_isPlainId {id : String} (h : IsPlainId id) :
    id.toList.all isInert = true ∧ id.toList.all isHarmless = true := by
  have hchars : ∀ c ∈ id.toList, isInert c = true ∧ isHarmless c = true := by
    intro c hc
    have hc := List.all_eq_true.mp h c hc
    have hne (d : Char) (hd : d.isAlphanum = false) : c ≠ d := by
      rintro rfl
      simp [hd] at hc
    simp [isInert, isHarmless, isLineEnd, backslash, quotationMark, hne]
  exact ⟨List.all_eq_true.mpr fun c hc => (hchars c hc).1,
    List.all_eq_true.mpr fun c hc => (hchars c hc).2⟩

/-- A remark on something that goes by a name. Only in that name can there be an escape. -/
structure IsRemarkOn (name : List Char) (s : String) : Prop where
  closed : s.toList.getLast? = some '\x60'
  unclosed : ¬ docQuotes <:+: s.toList
  parts : ∃ front c tail, s.toList = front ++ (name ++ c :: tail) ∧ (c = ' ' ∨ c = '\x60') ∧
    front.all isInert = true ∧ tail.all isInert = true

theorem IsRemarkOn.isDocLiteral_iff {name : List Char} {s : String} (h : IsRemarkOn name s)
    (charNamed : List Char → Option Nat) (level : Nat) :
    IsDocLiteral charNamed (pythonDialect.docstring level s) ↔ EscapesFit charNamed name := by
  obtain ⟨front, c, tail, hparts, hc, hfront, htail⟩ := h.parts
  rw [isDocLiteral_docstring_iff level h.closed h.unclosed, hparts,
    isSome_decode?_append_iff hc hfront htail]

theorem Table.isRemarkOn {table : Table} (hid : IsPlainId table.id) :
    IsRemarkOn (oneLine table.name.toList) table.remark := by
  obtain ⟨hinert, hharmless⟩ := all_of_isPlainId hid
  have hfits := (table.fits_remark_iff .python).mpr (Language.fits_of_harmless _ hharmless)
  refine ⟨table.getLast?_remark, hfits.unclosed,
    [], ' ', '\x60' :: (table.id.toList ++ ['\x60']), ?_, .inl rfl, rfl, ?_⟩
  · simp [Table.remark, oneLineText]
  · simp only [List.all_cons, List.all_append, hinert]
    decide

theorem inert_remarkEndings : ∀ ending ∈ remarkEndings, ending.toList.all isInert = true := by
  decide

theorem Field.isRemarkOn {field : Field} (hid : IsPlainId field.idText) (table : Table) :
    IsRemarkOn (oneLine field.label.toList) (field.remark table) := by
  obtain ⟨hinert, hharmless⟩ := all_of_isPlainId hid
  have hfits := (field.fits_remark_iff table .python).mpr (Language.fits_of_harmless _ hharmless)
  obtain ⟨ending, hending, hremark⟩ := field.remark_eq table
  have hlast := inert_remarkEndings ending hending
  refine ⟨field.getLast?_remark table, hfits.unclosed,
    [], ' ', '\x60' :: (field.idText.toList ++ '\x60' :: ending.toList), ?_, .inl rfl, rfl, ?_⟩
  · simp [hremark, oneLineText]
  · simp only [List.all_cons, List.all_append, hinert, hlast]
    decide

theorem Field.isRemarkOn_options (field : Field) :
    IsRemarkOn (oneLine field.label.toList) field.optionsRemark := by
  refine ⟨field.getLast?_optionsRemark, (field.fits_optionsRemark .python).unclosed,
    "Select options for ".toList ++ ['\x60'], '\x60', [], ?_, .inr rfl, by decide, rfl⟩
  have hname : (oneLineText field.label).toList = oneLine field.label.toList :=
    String.toList_ofList
  rw [field.toList_optionsRemark, hname, List.append_assoc, List.singleton_append]

/-- Ids of letters and digits, as the service gives them, in the base, its tables and fields. -/
structure HasPlainIds (base : Base) (tables : List Table) : Prop where
  ofBase : IsPlainId base.id
  ofTables : ∀ table ∈ tables, IsPlainId table.id
  ofFields : ∀ table ∈ tables, ∀ field ∈ table.fields, IsPlainId field.idText

namespace Target

theorem isCode_baseRemarkLine (target : Target) {base : Base} (hid : IsPlainId base.id) :
    target.language.IsCode (target.baseRemarkLine base) := by
  have hfits := target.language.fits_of_harmless (all_of_isPlainId hid).2
  exact target.isCode_comment ((isUnbroken_baseRemark_iff base).mpr hfits.unbroken)

theorem isCode_fieldComment {field : Field} (hid : IsPlainId field.idText) (table : Table) :
    Language.python.IsCode (typedDict.fieldRemarkLine table field) := by
  have hfits := Language.python.fits_of_harmless (all_of_isPlainId hid).2
  have hremark := (field.isUnbroken_remark_iff table).mpr hfits.unbroken
  exact (Language.isCode_indented_iff _ _ 2 _).mpr (typedDict.isCode_comment hremark)

section
variable {P : String → Prop} {Q : List Char → Prop}
variable (hP : ∀ line, Language.python.IsCode line → P line)
variable (hQ : ∀ level name s, IsRemarkOn name s → (P (pythonDialect.docstring level s) ↔ Q name))
include hP hQ

theorem forall_remarkLines_iff_names {target : Target} (hpython : target.language = .python)
    {table : Table} (hid : IsPlainId table.id)
    (hids : ∀ field ∈ table.fields, IsPlainId field.idText) :
    (∀ line ∈ target.remarkLines table, P line) ↔ Q (oneLine table.name.toList) ∧
      (target = .model → ∀ field ∈ table.fields, Q (oneLine field.label.toList)) := by
  have htable (level : Nat) := hQ level _ _ (Table.isRemarkOn hid)
  rw [forall_remarkLines_iff]
  cases target with
  | interface | zod => cases hpython
  | typedDict =>
    have hcomments : ∀ field ∈ table.fields, P (typedDict.fieldRemarkLine table field) :=
      fun field hfield => hP _ (isCode_fieldComment (hids field hfield) table)
    simp only [enumerationRemarkLines, tableRemarkLines, List.forall_mem_singleton, htable]
    exact ⟨fun h => ⟨h.2.1, by simp⟩, fun h => ⟨by simp, h.1, hcomments⟩⟩
  | model =>
    have hfields : (∀ field ∈ table.fields, P (model.fieldRemarkLine table field)) ↔
        ∀ field ∈ table.fields, Q (oneLine field.label.toList) :=
      forall₂_congr fun field hfield => hQ 1 _ _ (Field.isRemarkOn (hids field hfield) table)
    have hoptions (field : Field) := hQ 0 _ _ field.isRemarkOn_options
    simp only [enumerationRemarkLines, tableRemarkLines, List.forall_mem_singleton, htable, hfields,
      hoptions]
    exact ⟨fun h => ⟨h.2.1, fun _ => h.2.2⟩,
      fun h => ⟨fun field hfield _ => h.2 trivial field hfield, h.1, h.2 trivial⟩⟩

theorem forall_assemble_iff_names {target : Target} (hpython : target.language = .python)
    (fieldIds : Bool) {base : Base} {tables : List Table} (hids : HasPlainIds base tables) :
    (∀ line ∈ (assemble target fieldIds base tables).lines, P line) ↔
      ∀ table ∈ tables, Q (oneLine table.name.toList) ∧
        (target = .model → ∀ field ∈ table.fields, Q (oneLine field.label.toList)) := by
  have hbase := hP _ (hpython ▸ target.isCode_baseRemarkLine hids.ofBase)
  rw [forall_assemble_iff (by rwa [hpython]), and_iff_right hbase]
  exact forall₂_congr fun table htable => forall_remarkLines_iff_names hP hQ hpython
    (hids.ofTables table htable) (hids.ofFields table htable)

end

/-- Names whose escapes can be read, in tables and, where those are models, in their fields. -/
structure NamesDecode (charNamed : List Char → Option Nat) (target : Target)
    (tables : List Table) : Prop where
  ofTables : ∀ table ∈ tables, EscapesFit charNamed (oneLine table.name.toList)
  ofFields : target = .model → ∀ table ∈ tables, ∀ field ∈ table.fields,
    EscapesFit charNamed (oneLine field.label.toList)

section
variable {target : Target} (hpython : target.language = .python) (fieldIds : Bool) {base : Base}
variable {tables : List Table} (hids : HasPlainIds base tables)
include hpython hids

theorem forall_closesOnce :
    ∀ line ∈ (assemble target fieldIds base tables).lines, ClosesOnce line := by
  rw [forall_assemble_iff_names (Q := fun _ => True) (fun _ h => h.closesOnce)
    (fun level _ s h => iff_true_intro (closesOnce_docstring level h.closed h.unclosed))
    hpython fieldIds hids]
  simp

theorem forall_isDocLiteral_iff (charNamed : List Char → Option Nat) :
    (∀ line ∈ (assemble target fieldIds base tables).lines,
      Language.python.docText? line.toList ≠ none → IsDocLiteral charNamed line) ↔
    NamesDecode charNamed target tables := by
  have hnames := forall_assemble_iff_names (Q := EscapesFit charNamed)
    (P := fun line => Language.python.docText? line.toList ≠ none → IsDocLiteral charNamed line)
    (fun line h hdoc => absurd h.undocumented hdoc)
    (fun level _ s h => by
      rw [← h.isDocLiteral_iff charNamed level, docText?_pythonDocstring]
      exact forall_prop_of_true (Option.some_ne_none _))
    hpython fieldIds hids
  rw [hnames]
  constructor
  · intro h
    exact ⟨fun table htable => (h table htable).1,
      fun hmodel table htable => (h table htable).2 hmodel⟩
  · intro h table htable
    exact ⟨h.ofTables table htable, fun hmodel => h.ofFields hmodel table htable⟩

end

end Target

/-- Every docstring of Python closes at its end and not before, whatever the names hold. It is a
string literal in which every escape can be read exactly if this is so of the names. -/
theorem docstrings_are_literals_iff (charNamed : List Char → Option Nat) {target : Target}
    (hpython : target.language = .python) (fieldIds : Bool) {base : Base} {tables : List Table}
    (hids : HasPlainIds base tables) :
    (∀ line ∈ (assemble target fieldIds base tables).lines, ClosesOnce line) ∧
    ((∀ line ∈ (assemble target fieldIds base tables).lines,
        Language.python.docText? line.toList ≠ none → IsDocLiteral charNamed line) ↔
      target.NamesDecode charNamed tables) :=
  ⟨Target.forall_closesOnce hpython fieldIds hids,
    Target.forall_isDocLiteral_iff hpython fieldIds hids charNamed⟩

def usersBase : Base := ⟨"appU", "Users", .create⟩

def usersTable (name : String) : Table where
  id := "tblU"
  name := name
  primaryFieldId := "fldN"
  description := none
  fields := [.plain ⟨some "fldN", some "Name", none⟩ (.basic .singleLineText none)]
  views := []

theorem hasPlainIds_users (name : String) : HasPlainIds usersBase [usersTable name] := by
  have hids : IsPlainId usersBase.id ∧ IsPlainId "tblU" ∧ IsPlainId "fldN" := by decide
  refine ⟨hids.1, List.forall_mem_singleton.mpr hids.2.1, List.forall_mem_singleton.mpr ?_⟩
  exact List.forall_mem_singleton.mpr hids.2.2

def bulletNamed (name : List Char) : Option Nat :=
  if name = "BULLET".toList then some 0x2022 else none

/-- Escapes that can be read do no harm in the name of a table. -/
theorem bullet_docstrings_are_literals :
    HasPlainIds usersBase [usersTable "\\N\x7bBULLET\x7d \\x41"] ∧
    ∀ line ∈ (assemble .typedDict false usersBase [usersTable "\\N\x7bBULLET\x7d \\x41"]).lines,
      Language.python.docText? line.toList ≠ none → IsDocLiteral bulletNamed line := by
  have hids := hasPlainIds_users "\\N\x7bBULLET\x7d \\x41"
  refine ⟨hids, (docstrings_are_literals_iff bulletNamed rfl false hids).2.mpr ⟨?_, by simp⟩⟩
  have hname : oneLine "\\N\x7bBULLET\x7d \\x41".toList = "\\N\x7bBULLET\x7d \\x41".toList := by
    decide
  refine List.forall_mem_singleton.mpr ?_
  change EscapesFit bulletNamed (oneLine "\\N\x7bBULLET\x7d \\x41".toList)
  rw [hname]
  exact ⟨([0x2022, 0x20, 0x41], .plain), by decide, rfl⟩

/-- A path with a folder of users in it is no text that can be read. -/
theorem users_docstring_is_no_literal :
    generate usersBase [usersTable "C:\\users"] ⟨.python, .types, false, none⟩ =
      .ok (assemble .typedDict false usersBase [usersTable "C:\\users"]).text ∧
    ∀ charNamed, ¬ ∀ line ∈ (assemble .typedDict false usersBase [usersTable "C:\\users"]).lines,
      Language.python.docText? line.toList ≠ none → IsDocLiteral charNamed line := by
  refine ⟨generate_of_nodup _ _ _ rfl (by decide +kernel), fun charNamed h => ?_⟩
  have hdecode := (Target.forall_isDocLiteral_iff rfl false
    (hasPlainIds_users "C:\\users") charNamed).mp h
  have hname : oneLine "C:\\users".toList = "C:\\users".toList := by decide
  obtain ⟨p, hp, -⟩ := hdecode.ofTables _ List.mem_cons_self
  rw [show (usersTable "C:\\users").name = "C:\\users" from rfl, hname] at hp
  cases hp

end RecordTypes

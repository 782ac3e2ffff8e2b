import RecordTypes.Proofs.Code.Line
import RecordTypes.Proofs.Code.Token

/-! Code whose brackets are nested. Brackets count outside string literals alone, so whatever is
quoted may hold any of them, and pieces of code that are nested stay so side by side and within each
other. -/

namespace RecordTypes

/-- The bracket that closes what an opening bracket opens. -/
def closingBracket? : Char → Option Char
  | '(' => some ')'
  | '[' => some ']'
  | '\x7b' => some '\x7d'
  | '<' => some '>'
  | _ => none

def isBracket (c : Char) : Bool := "()[]\x7b\x7d<>".toList.contains c

/-- Brackets that are properly nested: each is opened and closed by two of a kind, and what stands
between and behind the two is nested by itself. -/
inductive Nested : List Char → Prop where
  | nil : Nested []
  | enclosed {c d : Char} {inner rest : List Char} (hpair : closingBracket? c = some d)
      (hinner : Nested inner) (hrest : Nested rest) : Nested (c :: (inner ++ d :: rest))

/-- The brackets that remain to be closed, the next one first, after some text behind others. -/
def unclosed : List Char → List Char → Option (List Char)
  | stack, [] => some stack
  | stack, c :: rest =>
    match closingBracket? c with
    | some d => unclosed (d :: stack) rest
    | none =>
      match stack with
      | [] => none
      | d :: stack => if c = d then unclosed stack rest else none

theorem unclosed_append (stack s t : List Char) :
    unclosed stack (s ++ t) = (unclosed stack s).bind fun stack => unclosed stack t := by
  induction s generalizing stack with
  | nil => rfl
  | cons c rest ih =>
    simp only [List.cons_append, unclosed]
    cases closingBracket? c with
    | some d => exact ih (d :: stack)
    | none =>
      cases stack with
      | nil => rfl
      | cons d stack =>
        by_cases hcd : c = d
        · simp only [hcd, if_true, ih stack]
        · simp only [hcd, if_false, Option.bind_none]

theorem closingBracket?_of_closing {c d : Char} (h : closingBracket? c = some d) :
    closingBracket? d = none := by
  unfold closingBracket? at h
  split at h <;> cases h <;> rfl

theorem unclosed_opening {c d : Char} (h : closingBracket? c = some d) (stack rest : List Char) :
    unclosed stack (c :: rest) = unclosed (d :: stack) rest := by
  simp only [unclosed, h]

theorem unclosed_closing {c d : Char} (h : closingBracket? c = some d) (stack rest : List Char) :
    unclosed (d :: stack) (d :: rest) = unclosed stack rest := by
  simp only [unclosed, closingBracket?_of_closing h, if_true]

theorem Nested.unclosed_eq {s : List Char} (h : Nested s) (stack : List Char) :
    unclosed stack s = some stack := by
  induction h generalizing stack with
  | nil => rfl
  | enclosed hpair hinner hrest ihinner ihrest =>
    rw [unclosed_opening hpair, unclosed_append, ihinner, Option.bind_some,
      unclosed_closing hpair, ihrest]

/-- The brackets close some that were opened before, from the last one to the first, and are nested
between any two of those. -/
def Closes : List Char → List Char → Prop
  | [], s => Nested s
  | d :: stack, s => ∃ inner rest, s = inner ++ d :: rest ∧ Nested inner ∧ Closes stack rest

theorem Closes.enclosed {c d : Char} (hpair : closingBracket? c = some d) {inner rest : List Char}
    (hinner : Nested inner) {stack : List Char} (h : Closes stack rest) :
    Closes stack (c :: (inner ++ d :: rest)) := by
  cases stack with
  | nil => exact Nested.enclosed hpair hinner h
  | cons e stack =>
    obtain ⟨between, later, rfl, hbetween, hlater⟩ := h
    exact ⟨c :: (inner ++ d :: between), later, by simp, .enclosed hpair hinner hbetween, hlater⟩

theorem closes_of_unclosed {stack s : List Char} (h : unclosed stack s = some []) :
    Closes stack s := by
  induction s generalizing stack with
  | nil =>
    cases h
    exact .nil
  | cons c rest ih =>
    cases hpair : closingBracket? c with
    | some d =>
      -- the rest first closes this bracket, and then what was open before
      rw [unclosed_opening hpair] at h
      obtain ⟨inner, later, rfl, hinner, hlater⟩ := ih h
      exact hlater.enclosed hpair hinner
    | none =>
      cases stack with
      | nil => simp [unclosed, hpair] at h
      | cons d stack =>
        simp only [unclosed, hpair] at h
        by_cases hcd : c = d
        · rw [if_pos hcd] at h
          exact ⟨[], rest, by rw [hcd]; rfl, .nil, ih h⟩
        · rw [if_neg hcd] at h
          cases h

theorem nested_iff {s : List Char} : Nested s ↔ unclosed [] s = some [] :=
  ⟨fun h => h.unclosed_eq [], fun h => closes_of_unclosed h⟩

instance (s : List Char) : Decidable (Nested s) := decidable_of_iff _ nested_iff.symm

theorem Nested.append {s t : List Char} (hs : Nested s) (ht : Nested t) : Nested (s ++ t) := by
  rw [nested_iff, unclosed_append, hs.unclosed_eq, Option.bind_some, ht.unclosed_eq]

/-! ## The brackets of code -/

def CodeToken.bracket? : CodeToken → Option Char
  | .mark c => if isBracket c then some c else none
  | _ => none

def brackets (s : List Char) : List Char := (codeTokens s).filterMap CodeToken.bracket?

example : brackets "Array<'a>' | Record<string, unknown>>".toList = ['<', '<', '>', '>'] := by
  decide

theorem bracket?_wordTokens (afterPoint : Bool) (word : List Char) (next : Option Char) :
    (wordTokens afterPoint word next).filterMap CodeToken.bracket? = [] := by
  unfold wordTokens wordToken
  repeat' split
  all_goals rfl

theorem bracket?_last (state : CodeState) : state.last.filterMap CodeToken.bracket? = [] := by
  cases state with
  | code afterPoint word => exact bracket?_wordTokens afterPoint word none
  | literal | escape => rfl

theorem brackets_eq (s : List Char) :
    brackets s = (CodeState.start.tokens s).filterMap CodeToken.bracket? := by
  rw [brackets, codeTokens, List.filterMap_append, bracket?_last, List.append_nil]

theorem CodeState.code_apart (p p' : Bool) (w w' : List Char) (s : List Char) :
    ((code p w).after s).isCode = ((code p' w').after s).isCode ∧
      ((code p w).tokens s).filterMap CodeToken.bracket? =
        ((code p' w').tokens s).filterMap CodeToken.bracket? := by
  induction s generalizing p p' w w' with
  | nil => exact ⟨rfl, rfl⟩
  | cons c rest ih =>
    change (((code p w).next c).after rest).isCode = (((code p' w').next c).after rest).isCode ∧ _
    simp only [tokens, List.filterMap_append]
    by_cases hname : isNameChar c = true
    · have hnext : ∀ p w, (code p w).next c = code p (w ++ [c]) ∧ (code p w).completed c = [] := by
        simp [next, completed, hname]
      simp only [hnext, List.filterMap_nil, List.nil_append]
      exact ih p p' (w ++ [c]) (w' ++ [c])
    · have hnext : ∀ p w, (code p w).next c = start.next c := by simp [next, start, hname]
      have hcompleted : ∀ p w, ((code p w).completed c).filterMap CodeToken.bracket? =
          (if opensLiteral c || c == ' ' then [] else [CodeToken.mark c]).filterMap
            CodeToken.bracket? := by
        simp [completed, hname, bracket?_wordTokens]
      simp only [hnext, hcompleted]
      exact ⟨trivial, trivial⟩

/-! ## Well-formed code -/

/-- Code on one line with closed literals and nested brackets. -/
structure IsWellFormedCode (s : List Char) : Prop where
  closed : (CodeState.start.after s).isCode = true
  nested : Nested (brackets s)
  unbroken : IsUnbroken s

instance (s : List Char) : Decidable (IsWellFormedCode s) :=
  decidable_of_iff ((CodeState.start.after s).isCode = true ∧ Nested (brackets s) ∧ IsUnbroken s)
    ⟨fun h => ⟨h.1, h.2.1, h.2.2⟩, fun h => ⟨h.closed, h.nested, h.unbroken⟩⟩

section
variable {s t : List Char}

theorem code_append (hs : (CodeState.start.after s).isCode = true) (t : List Char) :
    (CodeState.start.after (s ++ t)).isCode = (CodeState.start.after t).isCode ∧
      brackets (s ++ t) = brackets s ++ brackets t := by
  obtain ⟨p, w, hcode⟩ : ∃ p w, CodeState.start.after s = .code p w := by
    cases hstate : CodeState.start.after s with
    | code p w => exact ⟨p, w, rfl⟩
    | literal | escape => simp [hstate, CodeState.isCode] at hs
  obtain ⟨hclosed, hbrackets⟩ := CodeState.code_apart p false w [] t
  simp only [brackets_eq, CodeState.after_append, CodeState.tokens_append, List.filterMap_append,
    hcode]
  exact ⟨hclosed, congrArg _ hbrackets⟩

theorem IsWellFormedCode.append (hs : IsWellFormedCode s) (ht : IsWellFormedCode t) :
    IsWellFormedCode (s ++ t) := by
  obtain ⟨hclosed, hbrackets⟩ := code_append hs.closed t
  refine ⟨hclosed.trans ht.closed, ?_, isUnbroken_append_iff.mpr ⟨hs.unbroken, ht.unbroken⟩⟩
  rw [hbrackets]
  exact hs.nested.append ht.nested

/-- Between two pieces that are well formed side by side there is room for well-formed code. -/
theorem IsWellFormedCode.within (h : IsWellFormedCode s) {opening closing : List Char}
    (hopening : (CodeState.start.after opening).isCode = true)
    (hmarks : IsWellFormedCode (opening ++ closing)) :
    IsWellFormedCode (opening ++ s ++ closing) := by
  obtain ⟨hmarksClosed, hmarksBrackets⟩ := code_append hopening closing
  obtain ⟨hfront, hfrontBrackets⟩ := code_append hopening s
  obtain ⟨hclosed, hbrackets⟩ := code_append (hfront.trans h.closed) closing
  obtain ⟨hline, hline'⟩ := isUnbroken_append_iff.mp hmarks.unbroken
  refine ⟨hclosed.trans (hmarksClosed.symm.trans hmarks.closed), nested_iff.mpr ?_, ?_⟩
  · -- the code between leaves open what the opening piece opens, and the closing piece closes it
    have hnested := nested_iff.mp hmarks.nested
    rw [hmarksBrackets, unclosed_append] at hnested
    obtain ⟨stack, hopens, hcloses⟩ := Option.bind_eq_some_iff.mp hnested
    rw [hbrackets, hfrontBrackets, unclosed_append, unclosed_append, hopens, Option.bind_some,
      h.nested.unclosed_eq, Option.bind_some, hcloses]
  · exact isUnbroken_append_iff.mpr ⟨isUnbroken_append_iff.mpr ⟨hline, h.unbroken⟩, hline'⟩

theorem IsName.isWellFormedCode (h : IsName s) : IsWellFormedCode s := by
  obtain ⟨hafter, htokens⟩ := CodeState.code_name h false []
  refine ⟨?_, ?_, h.isUnbroken⟩
  · rw [CodeState.start, hafter]
    rfl
  · rw [brackets_eq, CodeState.start, htokens]
    exact .nil

theorem isWellFormedCode_quotes {quote : Char} {escape : Char → List Char}
    (hquote : opensLiteral quote = true ∧ isNameChar quote = false ∧ isLineEnd quote = false)
    (hstays : ∀ c, StaysQuoted quote (escape c)) (hline : ∀ c, IsUnbroken (escape c))
    (s : List Char) : IsWellFormedCode (quote :: (s.flatMap escape ++ [quote])) := by
  obtain ⟨hopens, hname, hend⟩ := hquote
  obtain ⟨hafter, htokens⟩ :=
    CodeState.tokens_quoted hopens hname (StaysQuoted.flatMap hstays s)
  refine ⟨?_, ?_, isUnbroken_quotes hend hline s⟩
  · rw [hafter]
    rfl
  · rw [brackets_eq, htokens]
    exact .nil

end

theorem isWellFormedCode_quoted (target : Target) (s : String) :
    IsWellFormedCode (target.dialect.quoted s).toList := by
  rw [Dialect.quoted, String.toList_ofList]
  cases target with
  | interface | zod =>
    exact isWellFormedCode_quotes (by decide) staysQuoted_escapeSingle isUnbroken_escapeSingle _
  | typedDict | model =>
    exact isWellFormedCode_quotes (by decide) staysQuoted_escapeDouble isUnbroken_escapeDouble _

end RecordTypes

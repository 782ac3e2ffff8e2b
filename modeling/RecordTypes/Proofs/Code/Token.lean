import RecordTypes.Proofs.Text.Literal
import RecordTypes.Proofs.Text.NameChar

/-! Code read from left to right, one character at a time. A word that follows a point is a member,
one before a colon, a question mark or an equals sign is a key, and one that begins with a digit is
a number; every other word outside string literals is the use of a name. -/

namespace RecordTypes

inductive CodeToken where
  | name (s : List Char)
  | member (s : List Char)
  | key (s : List Char)
  | numeral (s : List Char)
  | literal (quote : Char) (raw : List Char)
  | mark (c : Char)
  deriving DecidableEq

inductive CodeState where
  | code (afterPoint : Bool) (word : List Char)
  | literal (quote : Char) (raw : List Char)
  | escape (quote : Char) (raw : List Char)
  deriving DecidableEq

def opensLiteral (c : Char) : Bool := c == apostrophe || c == quotationMark

def isKeyMark (c : Char) : Bool := c == ':' || c == '?' || c == '='

def wordToken (afterPoint : Bool) (word : List Char) (next : Option Char) : CodeToken :=
  if (word.head?.any Char.isDigit) then .numeral word
  else if afterPoint then .member word
  else if next.any isKeyMark then .key word
  else .name word

def wordTokens (afterPoint : Bool) (word : List Char) (next : Option Char) : List CodeToken :=
  if word.isEmpty then [] else [wordToken afterPoint word next]

namespace CodeState

def start : CodeState := .code false []

def next : CodeState → Char → CodeState
  | .code afterPoint word, c =>
    if isNameChar c then .code afterPoint (word ++ [c])
    else if opensLiteral c then .literal c []
    else .code (c == '.') []
  | .literal quote raw, c =>
    if c == quote then start
    else if c == backslash then .escape quote (raw ++ [c])
    else .literal quote (raw ++ [c])
  | .escape quote raw, c => .literal quote (raw ++ [c])

def completed : CodeState → Char → List CodeToken
  | .code afterPoint word, c =>
    if isNameChar c then []
    else
      wordTokens afterPoint word (some c) ++ if opensLiteral c || c == ' ' then [] else [.mark c]
  | .literal quote raw, c => if c == quote then [.literal quote raw] else []
  | .escape .., _ => []

def last : CodeState → List CodeToken
  | .code afterPoint word => wordTokens afterPoint word none
  | .literal .. | .escape .. => []

def after (state : CodeState) (s : List Char) : CodeState := s.foldl next state

def tokens (state : CodeState) : List Char → List CodeToken
  | [] => []
  | c :: rest => state.completed c ++ (state.next c).tokens rest

theorem after_append (state : CodeState) (s t : List Char) :
    state.after (s ++ t) = (state.after s).after t := List.foldl_append

theorem tokens_append (state : CodeState) (s t : List Char) :
    state.tokens (s ++ t) = state.tokens s ++ (state.after s).tokens t := by
  induction s generalizing state with
  | nil => rfl
  | cons c rest ih =>
    simp only [List.cons_append, tokens, ih, List.append_assoc]
    rfl

end CodeState

def codeTokens (s : List Char) : List CodeToken :=
  CodeState.start.tokens s ++ (CodeState.start.after s).last

def CodeToken.usedName? : CodeToken → Option String
  | .name s => some (String.ofList s)
  | _ => none

/-- The names that a piece of code uses outside its string literals. -/
def usedNames (s : List Char) : List String := (codeTokens s).filterMap CodeToken.usedName?

example : usedNames "z.object(\x7b text: z.string(), of: f(3, 'a.b') \x7d)".toList =
    ["z", "z", "f"] := by decide

/-! ## Names and literals -/

theorem CodeState.code_name {w : List Char} (hw : IsName w) (afterPoint : Bool) (word : List Char) :
    (CodeState.code afterPoint word).after w = .code afterPoint (word ++ w) ∧
      (CodeState.code afterPoint word).tokens w = [] := by
  induction w generalizing word with
  | nil => simp [after, tokens]
  | cons c rest ih =>
    have hc := hw c List.mem_cons_self
    have hrest := ih (hw.mono fun d hd => List.mem_cons_of_mem _ hd) (word ++ [c])
    constructor
    · simpa [after, next, hc] using hrest.1
    · simpa [tokens, next, completed, hc] using hrest.2

theorem usedNames_name {w : String} (hw : IsName w.toList) :
    ∀ name ∈ usedNames w.toList, name = w := by
  intro name hname
  have hread := CodeState.code_name hw false []
  simp only [usedNames, codeTokens, CodeState.start, hread.1, hread.2, CodeState.last,
    List.nil_append, wordTokens] at hname
  split at hname
  · simp at hname
  · simp only [wordToken] at hname
    -- a digit at the front makes it a number, which uses no name
    split at hname
    · simp [CodeToken.usedName?] at hname
    · simpa [CodeToken.usedName?] using hname

theorem usedNames_of_not_startsWithDigit {w : String} (hw : IsName w.toList) (hne : w ≠ "")
    (hdigit : startsWithDigit w.toList = false) : usedNames w.toList = [w] := by
  have hfront : (w.toList.head?.any Char.isDigit) = false := by
    cases hchars : w.toList with
    | nil => rfl
    | cons c rest =>
      rw [hchars] at hdigit
      rw [startsWithDigit] at hdigit
      refine Bool.eq_false_iff.mpr fun hc => ?_
      rw [isDigitChar_of_isDigit hc] at hdigit
      cases hdigit
  have hread := CodeState.code_name hw false []
  simp only [usedNames, codeTokens, CodeState.start, hread.1, hread.2, CodeState.last]
  simp [wordTokens, wordToken, hne, hfront, CodeToken.usedName?]

theorem usedNames_digits {w : List Char} (hw : ∀ c ∈ w, c.isDigit = true) : usedNames w = [] := by
  have hread := CodeState.code_name (isName_of_digits hw) false []
  simp only [usedNames, codeTokens, CodeState.start, hread.1, hread.2, CodeState.last,
    List.nil_append, wordTokens]
  cases w with
  | nil => rfl
  | cons c rest => simp [wordToken, hw c List.mem_cons_self, CodeToken.usedName?]

/-- Characters that leave a reader inside the literal that it is in. -/
def StaysQuoted (quote : Char) (s : List Char) : Prop :=
  ∀ raw, (CodeState.literal quote raw).after s = .literal quote (raw ++ s) ∧
    (CodeState.literal quote raw).tokens s = []

theorem StaysQuoted.append {quote : Char} {s t : List Char} (hs : StaysQuoted quote s)
    (ht : StaysQuoted quote t) : StaysQuoted quote (s ++ t) := by
  intro raw
  rw [CodeState.after_append, CodeState.tokens_append, (hs raw).1, (hs raw).2, (ht _).1, (ht _).2]
  simp

theorem StaysQuoted.flatMap {quote : Char} {f : Char → List Char}
    (hf : ∀ c, StaysQuoted quote (f c)) (s : List Char) : StaysQuoted quote (s.flatMap f) := by
  induction s with
  | nil => intro raw; simp [CodeState.after, CodeState.tokens]
  | cons c rest ih => exact (hf c).append ih

theorem staysQuoted_plain {quote c : Char} (hquote : c ≠ quote) (hescape : c ≠ backslash) :
    StaysQuoted quote [c] := by
  intro raw
  simp [CodeState.after, CodeState.tokens, CodeState.next, CodeState.completed, hquote, hescape]

theorem staysQuoted_escape {quote : Char} (hquote : backslash ≠ quote) (letter : Char) :
    StaysQuoted quote [backslash, letter] := by
  intro raw
  simp [CodeState.after, CodeState.tokens, CodeState.next, CodeState.completed, hquote]

theorem staysQuoted_escapeSingle (c : Char) : StaysQuoted apostrophe (escapeSingle c) := by
  have hquote : backslash ≠ apostrophe := by decide
  unfold escapeSingle
  split
  · exact staysQuoted_escape hquote _
  · split
    · exact staysQuoted_escape hquote _
    · split
      · exact staysQuoted_escape hquote _
      · split
        · exact staysQuoted_escape hquote _
        · rename_i hb ha _ _
          exact staysQuoted_plain (by simpa using ha) (by simpa using hb)

theorem staysQuoted_verbatim {c : Char} (h : IsVerbatim c) : StaysQuoted quotationMark [c] :=
  staysQuoted_plain h.notQuote h.notEscape

theorem staysQuoted_hexDigit (n : Nat) : StaysQuoted quotationMark [hexDigit (n % 16)] :=
  staysQuoted_verbatim (isVerbatim_hexDigit n)

theorem staysQuoted_escapeDouble (c : Char) : StaysQuoted quotationMark (escapeDouble c) := by
  have hquote : backslash ≠ quotationMark := by decide
  rcases escapeDouble_cases c with ⟨letter, -, hc⟩ | ⟨-, hc⟩ | ⟨hverbatim, hc⟩
  · rw [hc]
    exact staysQuoted_escape hquote letter
  · rw [hc]
    exact (staysQuoted_escape hquote 'u').append ((staysQuoted_hexDigit _).append
      ((staysQuoted_hexDigit _).append
        ((staysQuoted_hexDigit _).append (staysQuoted_hexDigit _))))
  · rw [hc]
    exact staysQuoted_verbatim hverbatim

theorem CodeState.tokens_quoted {quote : Char} {body : List Char}
    (hquote : opensLiteral quote = true) (hname : isNameChar quote = false)
    (hbody : StaysQuoted quote body) :
    start.after (quote :: (body ++ [quote])) = start ∧
      start.tokens (quote :: (body ++ [quote])) = [.literal quote body] := by
  have hopen : start.next quote = .literal quote [] := by
    simp [start, next, hquote, hname]
  have hcompleted : start.completed quote = [] := by
    simp [start, completed, hquote, hname, wordTokens]
  constructor
  · change (start.next quote).after (body ++ [quote]) = start
    rw [hopen, after_append, (hbody []).1]
    simp [after, next]
  · change start.completed quote ++ (start.next quote).tokens (body ++ [quote]) = _
    rw [hcompleted, hopen, tokens_append, (hbody []).1, (hbody []).2]
    simp [tokens, completed]

/-! ## Pieces of code -/

/-- What holds of pieces and separators, and stays true when two texts are joined, holds of all of
them joined. -/
theorem intercalate_of_append {P : List Char → Prop} (hnil : P [])
    (happend : ∀ s t, P s → P t → P (s ++ t)) {separator : List Char} (hsep : P separator)
    {pieces : List (List Char)} (h : ∀ piece ∈ pieces, P piece) :
    P (separator.intercalate pieces) := by
  induction pieces with
  | nil => exact hnil
  | cons piece rest ih =>
    have hrest := ih fun p hp => h p (List.mem_cons_of_mem _ hp)
    cases rest with
    | nil => simpa using h piece List.mem_cons_self
    | cons next rest =>
      rw [List.intercalate_cons_cons]
      exact happend _ _ (happend _ _ (h piece List.mem_cons_self) hsep) hrest

/-- A piece after which a reader is where it was before, and which uses no name. -/
def IsNameless (s : List Char) : Prop :=
  CodeState.start.after s = CodeState.start ∧
    (CodeState.start.tokens s).filterMap CodeToken.usedName? = []

instance (s : List Char) : Decidable (IsNameless s) := inferInstanceAs (Decidable (_ ∧ _))

theorem IsNameless.append {s t : List Char} (hs : IsNameless s) (ht : IsNameless t) :
    IsNameless (s ++ t) := by
  constructor
  · rw [CodeState.after_append, hs.1, ht.1]
  · rw [CodeState.tokens_append, List.filterMap_append, hs.1, hs.2, ht.2, List.nil_append]

theorem IsNameless.intercalate {separator : List Char} (hsep : IsNameless separator)
    {pieces : List (List Char)} (h : ∀ piece ∈ pieces, IsNameless piece) :
    IsNameless (separator.intercalate pieces) :=
  intercalate_of_append ⟨rfl, rfl⟩ (fun _ _ => IsNameless.append) hsep h

theorem isNameless_quoted {quote : Char} {body : List Char} (hquote : opensLiteral quote = true)
    (hname : isNameChar quote = false) (hbody : StaysQuoted quote body) :
    IsNameless (quote :: (body ++ [quote])) := by
  obtain ⟨hstart, htokens⟩ := CodeState.tokens_quoted hquote hname hbody
  refine ⟨hstart, ?_⟩
  rw [htokens]
  rfl

theorem isNameless_singleQuoted (s : List Char) : IsNameless (singleQuoted s) :=
  isNameless_quoted (by decide) (by decide) (StaysQuoted.flatMap staysQuoted_escapeSingle s)

theorem isNameless_doubleQuoted (s : List Char) : IsNameless (doubleQuoted s) :=
  isNameless_quoted (by decide) (by decide) (StaysQuoted.flatMap staysQuoted_escapeDouble s)

theorem IsNameless.usedNames_eq {s : List Char} (h : IsNameless s) : usedNames s = [] := by
  rw [usedNames, codeTokens, List.filterMap_append, h.1, h.2]
  rfl

theorem wordToken_before_mark (afterPoint : Bool) (word : List Char) {c : Char}
    (hc : isKeyMark c = false) :
    wordToken afterPoint word (some c) = wordToken afterPoint word none := by
  simp [wordToken, hc]

def CodeState.isCode : CodeState → Bool
  | .code .. => true
  | .literal .. | .escape .. => false

/-- A character that ends a word and does not make a key of it. -/
def endsWord (c : Char) : Bool := !isNameChar c && !isKeyMark c

theorem usedNames_enclosed {opening body : List Char} {c : Char} (closing : List Char)
    (hopening : CodeState.start.after opening = CodeState.start)
    (hbody : (CodeState.start.after body).isCode = true) (hc : endsWord c = true) :
    CodeState.start.after (opening ++ body ++ c :: closing) = CodeState.start.after (c :: closing) ∧
      usedNames (opening ++ body ++ c :: closing) =
        usedNames opening ++ usedNames body ++ usedNames (c :: closing) := by
  simp only [endsWord, Bool.and_eq_true, Bool.not_eq_true'] at hc
  obtain ⟨hname, hkey⟩ := hc
  obtain ⟨afterPoint, word, hword⟩ :
      ∃ afterPoint word, CodeState.start.after body = .code afterPoint word := by
    cases hstate : CodeState.start.after body with
    | code afterPoint word => exact ⟨afterPoint, word, rfl⟩
    | literal => simp [hstate, CodeState.isCode] at hbody
    | escape => simp [hstate, CodeState.isCode] at hbody
  -- A word that the body leaves open is ended by the character, which goes on as from the start.
  have hnext : (CodeState.code afterPoint word).next c = CodeState.start.next c := by
    simp [CodeState.start, CodeState.next, hname]
  have hcompleted : (CodeState.code afterPoint word).completed c =
      (CodeState.code afterPoint word).last ++ CodeState.start.completed c := by
    simp [CodeState.start, CodeState.completed, CodeState.last, hname, wordTokens,
      wordToken_before_mark _ _ hkey]
  have hafter : CodeState.start.after (opening ++ body ++ c :: closing) =
      CodeState.start.after (c :: closing) := by
    rw [CodeState.after_append, CodeState.after_append, hopening, hword]
    change ((CodeState.code afterPoint word).next c).after closing = _
    rw [hnext]
    rfl
  have htokens : CodeState.start.tokens (opening ++ body ++ c :: closing) =
      CodeState.start.tokens opening ++ (CodeState.start.tokens body ++
        (CodeState.code afterPoint word).last ++ CodeState.start.tokens (c :: closing)) := by
    rw [CodeState.tokens_append, CodeState.tokens_append, CodeState.after_append, hopening, hword]
    simp only [CodeState.tokens, hcompleted, hnext, List.append_assoc]
  have hlast : CodeState.start.last = [] := rfl
  refine ⟨hafter, ?_⟩
  rw [usedNames, codeTokens, hafter, htokens]
  simp only [usedNames, codeTokens, hopening, hlast, hword, List.filterMap_append, List.append_nil,
    List.append_assoc]

/-! ## Code that uses known names only -/

/-- Every literal in the code is closed, and every name that it uses is one of those given. -/
structure UsesOnly (known : List String) (s : List Char) : Prop where
  closed : (CodeState.start.after s).isCode = true
  names : ∀ name ∈ usedNames s, name ∈ known

instance (known : List String) (s : List Char) : Decidable (UsesOnly known s) :=
  decidable_of_iff ((CodeState.start.after s).isCode = true ∧ ∀ name ∈ usedNames s, name ∈ known)
    ⟨fun h => ⟨h.1, h.2⟩, fun h => ⟨h.closed, h.names⟩⟩

theorem UsesOnly.mono {known more : List String} {s : List Char} (h : UsesOnly known s)
    (hmore : ∀ name ∈ known, name ∈ more) : UsesOnly more s :=
  ⟨h.closed, fun name hname => hmore name (h.names name hname)⟩

theorem UsesOnly.of_isNameless {s : List Char} (h : IsNameless s) (known : List String) :
    UsesOnly known s := by
  constructor
  · rw [h.1]
    rfl
  · simp [h.usedNames_eq]

theorem UsesOnly.of_isName {w : String} (h : IsName w.toList) : UsesOnly [w] w.toList := by
  constructor
  · rw [CodeState.start, (CodeState.code_name h false []).1]
    rfl
  · intro name hname
    rw [usedNames_name h name hname]
    exact List.mem_cons_self

theorem UsesOnly.of_digits {w : List Char} (h : ∀ c ∈ w, c.isDigit = true) (known : List String) :
    UsesOnly known w := by
  constructor
  · rw [CodeState.start, (CodeState.code_name (isName_of_digits h) false []).1]
    rfl
  · simp [usedNames_digits h]

theorem UsesOnly.enclosed {known : List String} {opening body : List Char}
    (hbody : UsesOnly known body) (c : Char) (closing : List Char)
    (hopening : UsesOnly known opening) (hstart : CodeState.start.after opening = CodeState.start)
    (hclosing : UsesOnly known (c :: closing)) (hc : endsWord c = true) :
    UsesOnly known (opening ++ body ++ c :: closing) := by
  obtain ⟨hafter, hnames⟩ := usedNames_enclosed closing hstart hbody.closed hc
  constructor
  · rw [hafter]
    exact hclosing.closed
  · intro name h
    rw [hnames, List.mem_append, List.mem_append] at h
    rcases h with (h | h) | h
    · exact hopening.names name h
    · exact hbody.names name h
    · exact hclosing.names name h

theorem mem_usedNames_enclosed_iff {known : List String} {opening body closing : List Char}
    {c : Char} (hopening : UsesOnly known opening)
    (hstart : CodeState.start.after opening = CodeState.start)
    (hbody : (CodeState.start.after body).isCode = true)
    (hclosing : UsesOnly known (c :: closing)) (hc : endsWord c = true) {name : String}
    (hname : name ∉ known) :
    name ∈ usedNames (opening ++ body ++ c :: closing) ↔ name ∈ usedNames body := by
  have hbefore : name ∉ usedNames opening := fun h => hname (hopening.names name h)
  have hafter : name ∉ usedNames (c :: closing) := fun h => hname (hclosing.names name h)
  rw [(usedNames_enclosed closing hstart hbody hc).2]
  simp [hbefore, hafter]

end RecordTypes

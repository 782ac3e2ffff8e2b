import Mathlib.Tactic.IntervalCases
import RecordTypes.Proofs.Text.OneLine

/-! String literals as Python reads them: where a literal ends, and what its escapes stand for. The
names that characters go by in escapes are looked up in a table which is left open. -/

namespace RecordTypes

/-! ## Where a literal ends -/

/-- The mark at both ends of a literal, and whether line ends may stand between them. -/
structure Quotes where
  mark : List Char
  spansLines : Bool

def oneQuote : Quotes := ⟨[quotationMark], false⟩

def threeQuotes : Quotes := ⟨docQuotes, true⟩

/-- What stands before the first mark, and what follows on it. A backslash takes the next character
along, so that no mark begins there. -/
def Quotes.body? (quotes : Quotes) : List Char → Option (List Char × List Char)
  | [] => none
  | c :: rest =>
    match (c :: rest).dropPrefix? quotes.mark with
    | some rest => some ([], rest)
    | none =>
      if c == backslash then
        match rest with
        | [] => none
        | d :: rest => (quotes.body? rest).map (withFirst c ∘ withFirst d)
      else if isLineEnd c && !quotes.spansLines then none
      else (quotes.body? rest).map (withFirst c)

/-! ## Escapes -/

/-- How far an escape has been read, if one has been begun. -/
inductive EscapeState where
  | plain
  | begun
  /-- This many more digits may follow, after the first that may. -/
  | octal (left value : Nat)
  /-- This many more digits must follow, after the first that must. -/
  | hex (left value : Nat)
  | nameOpening
  | name (read : List Char)
  deriving DecidableEq

/-- The characters that a backslash and a single character stand for. -/
def shortEscapes : List (Char × Char) :=
  [(backslash, backslash), (apostrophe, apostrophe), (quotationMark, quotationMark),
   ('a', '\x07'), ('b', '\x08'), ('f', '\x0c'), ('n', '\n'), ('r', '\r'), ('t', '\t'),
   ('v', '\x0b')]

def octalValue? (c : Char) : Option Nat :=
  if 48 ≤ c.toNat && c.toNat ≤ 55 then some (c.toNat - 48) else none

namespace EscapeState

/-- What is written by a character outside of escapes, and the state after it. -/
def outside (c : Char) : List Nat × EscapeState :=
  if c == backslash then ([], .begun) else ([c.toNat], .plain)

/-- A backslash that begins no escape stands for itself, and one before a line end for nothing. -/
def behindBackslash (c : Char) : List Nat × EscapeState :=
  if c == '\n' then ([], .plain)
  else if c == 'x' then ([], .hex 1 0)
  else if c == 'u' then ([], .hex 3 0)
  else if c == 'U' then ([], .hex 7 0)
  else if c == 'N' then ([], .nameOpening)
  else match octalValue? c, shortEscapes.lookup c with
    | some digit, _ => ([], .octal 1 digit)
    | none, some meant => ([meant.toNat], .plain)
    | none, none => ([backslash.toNat, c.toNat], .plain)

/-- The greatest number of a character is `0x10ffff`. -/
def hexStep? (left value digit : Nat) : Option (List Nat × EscapeState) :=
  match left with
  | 0 => if value * 16 + digit < 0x110000 then some ([value * 16 + digit], .plain) else none
  | left + 1 => some ([], .hex left (value * 16 + digit))

def octalStep (left value digit : Nat) : List Nat × EscapeState :=
  match left with
  | 0 => ([value * 8 + digit], .plain)
  | left + 1 => ([], .octal left (value * 8 + digit))

/-- No source text may hold the character with number zero, not even between quotes. -/
def next? (charNamed : List Char → Option Nat) (state : EscapeState) (c : Char) :
    Option (List Nat × EscapeState) :=
  if c == '\x00' then none
  else match state with
    | plain => some (outside c)
    | begun => some (behindBackslash c)
    | octal left value =>
      match octalValue? c with
      | some digit => some (octalStep left value digit)
      | none => some (value :: (outside c).1, (outside c).2)
    | hex left value => (hexValue? c).bind (hexStep? left value)
    | nameOpening => if c == '\x7b' then some ([], name []) else none
    | name read =>
      if c == '\x7d' then
        if read.isEmpty then none else (charNamed read).map fun code => ([code], plain)
      else some ([], name (read ++ [c]))

/-- The numbers of the characters that are written by a text, and the state after it. -/
def run? (charNamed : List Char → Option Nat) :
    EscapeState → List Char → Option (List Nat × EscapeState)
  | state, [] => some ([], state)
  | state, c :: rest =>
    (state.next? charNamed c).bind fun p =>
      (p.2.run? charNamed rest).map (Prod.map (p.1 ++ ·) id)

/-- What is still to be written where the text ends, if it may end there. -/
def last? : EscapeState → Option (List Nat)
  | plain => some []
  | octal _ value => some [value]
  | begun | hex .. | nameOpening | name _ => none

end EscapeState

/-- The numbers of the characters that the body of a literal stands for. -/
def decode? (charNamed : List Char → Option Nat) (body : List Char) : Option (List Nat) := do
  let (codes, last) ← EscapeState.plain.run? charNamed body
  let final ← last.last?
  return codes ++ final

/-- What a literal at the front of a text stands for, and what follows it. -/
def Quotes.read? (quotes : Quotes) (charNamed : List Char → Option Nat) (s : List Char) :
    Option (List Nat × List Char) := do
  let opened ← s.dropPrefix? quotes.mark
  let (body, rest) ← quotes.body? opened
  let codes ← decode? charNamed body
  return (codes, rest)

/-! ## Reading on -/

namespace Quotes

variable {quotes : Quotes} {rest : List Char}

theorem body?_mark (hmark : quotes.mark ≠ []) (rest : List Char) :
    quotes.body? (quotes.mark ++ rest) = some ([], rest) := by
  obtain ⟨c, mark, hcons⟩ := List.exists_cons_of_ne_nil hmark
  have hdrop := dropPrefix?_append quotes.mark rest
  rw [hcons, List.cons_append] at hdrop ⊢
  rw [body?.eq_def]
  simp only [hcons, hdrop]

theorem body?_plain {c : Char} (hmark : ¬ quotes.mark <+: c :: rest) (hescape : c ≠ backslash)
    (hline : isLineEnd c = false ∨ quotes.spansLines = true) :
    quotes.body? (c :: rest) = (quotes.body? rest).map (withFirst c) := by
  have hspan : (isLineEnd c && !quotes.spansLines) = false := by
    rcases hline with h | h <;> simp [h]
  rw [body?.eq_def]
  simp only [dropPrefix?_eq_none hmark]
  simp [hescape, hspan]

theorem body?_backslash {d : Char} (hmark : ¬ quotes.mark <+: backslash :: d :: rest) :
    quotes.body? (backslash :: d :: rest) =
      (quotes.body? rest).map (withFirst backslash ∘ withFirst d) := by
  rw [body?.eq_def]
  simp only [dropPrefix?_eq_none hmark]
  simp

end Quotes

namespace EscapeState

variable (charNamed : List Char → Option Nat)

theorem run?_append (state : EscapeState) (s t : List Char) :
    state.run? charNamed (s ++ t) = (state.run? charNamed s).bind fun p =>
      (p.2.run? charNamed t).map (Prod.map (p.1 ++ ·) id) := by
  induction s generalizing state with
  | nil =>
    change state.run? charNamed t = (state.run? charNamed t).map (Prod.map id id)
    simp
  | cons c s ih =>
    simp only [List.cons_append, run?]
    cases state.next? charNamed c with
    | none => rfl
    | some p =>
      simp only [Option.bind_some, ih]
      cases p.2.run? charNamed s with
      | none => rfl
      | some q =>
        simp only [Option.bind_some, Option.map_some, Option.map_map]
        congr 1
        funext r
        simp [Prod.map]

theorem run?_plain {c : Char} (hnul : c ≠ '\x00') (hescape : c ≠ backslash) :
    plain.run? charNamed [c] = some ([c.toNat], plain) := by
  simp [run?, next?, outside, hnul, hescape]

end EscapeState

/-! ## Quoted text -/

section
variable (rest : List Char)

theorem body?_verbatim {c : Char} (h : IsVerbatim c) :
    oneQuote.body? (c :: rest) = (oneQuote.body? rest).map (withFirst c) :=
  Quotes.body?_plain (by simpa [oneQuote] using h.notQuote.symm) h.notEscape
    (.inl h.notLineEnd)

theorem body?_oneQuote_backslash (d : Char) :
    oneQuote.body? (backslash :: d :: rest) =
      (oneQuote.body? rest).map (withFirst backslash ∘ withFirst d) :=
  Quotes.body?_backslash (by simp [oneQuote, quotationMark, backslash])

theorem body?_hexDigit (n : Nat) : oneQuote.body? (hexDigit (n % 16) :: rest) =
    (oneQuote.body? rest).map (withFirst (hexDigit (n % 16))) :=
  body?_verbatim rest (isVerbatim_hexDigit n)

theorem body?_escapeDouble (c : Char) : oneQuote.body? (escapeDouble c ++ rest) =
    (oneQuote.body? rest).map (Prod.map (escapeDouble c ++ ·) id) := by
  rcases escapeDouble_cases c with ⟨letter, -, hc⟩ | ⟨-, hc⟩ | ⟨hverbatim, hc⟩
  · rw [hc]
    exact body?_oneQuote_backslash rest letter
  · rw [hc, unicodeEscape, hexQuad]
    simp only [List.cons_append, List.nil_append, body?_oneQuote_backslash, body?_hexDigit,
      Option.map_map]
    rfl
  · rw [hc]
    exact body?_verbatim rest hverbatim

theorem body?_escaped (s : List Char) :
    oneQuote.body? (s.flatMap escapeDouble ++ quotationMark :: rest) =
      some (s.flatMap escapeDouble, rest) := by
  induction s with
  | nil => exact Quotes.body?_mark (by decide : oneQuote.mark ≠ []) rest
  | cons c s ih =>
    rw [List.flatMap_cons, List.append_assoc, body?_escapeDouble, ih]
    rfl

end

section
variable (charNamed : List Char → Option Nat)

theorem run?_letter : ∀ p ∈ letterEscapes,
    EscapeState.plain.run? charNamed [backslash, p.2] = some ([p.1.toNat], .plain) := by
  simp only [letterEscapes, List.forall_mem_cons]
  exact ⟨rfl, rfl, rfl, rfl, rfl, rfl, rfl, by simp⟩

theorem run?_unicodeEscape : ∀ n < 0x20,
    EscapeState.plain.run? charNamed (unicodeEscape n) = some ([n], .plain) := by
  intro n hn
  interval_cases n <;> rfl

theorem run?_escapeDouble (c : Char) :
    EscapeState.plain.run? charNamed (escapeDouble c) = some ([c.toNat], .plain) := by
  rcases escapeDouble_cases c with ⟨letter, hletter, hc⟩ | ⟨hcontrol, hc⟩ | ⟨hverbatim, hc⟩
  · rw [hc]
    exact run?_letter charNamed _ hletter
  · rw [hc]
    exact run?_unicodeEscape charNamed _ hcontrol
  · have hnul : c ≠ '\x00' := by rintro rfl; exact absurd hverbatim.printed (by decide)
    rw [hc]
    exact EscapeState.run?_plain charNamed hnul hverbatim.notEscape

theorem run?_escaped (s : List Char) :
    EscapeState.plain.run? charNamed (s.flatMap escapeDouble) =
      some (s.map Char.toNat, .plain) := by
  induction s with
  | nil => rfl
  | cons c s ih =>
    rw [List.flatMap_cons, EscapeState.run?_append, run?_escapeDouble, Option.bind_some, ih]
    rfl

theorem read?_doubleQuoted (s rest : List Char) :
    oneQuote.read? charNamed (doubleQuoted s ++ rest) = some (s.map Char.toNat, rest) := by
  have hopened : (doubleQuoted s ++ rest).dropPrefix? oneQuote.mark =
      some (s.flatMap escapeDouble ++ quotationMark :: rest) := by
    have hquoted : doubleQuoted s ++ rest =
        oneQuote.mark ++ (s.flatMap escapeDouble ++ quotationMark :: rest) := by
      simp [doubleQuoted, oneQuote]
    rw [hquoted, dropPrefix?_append]
  simp [Quotes.read?, decode?, hopened, body?_escaped, run?_escaped, EscapeState.last?]

end

end RecordTypes

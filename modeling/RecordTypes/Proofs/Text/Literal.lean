import Mathlib.Data.List.Basic
import RecordTypes.Code.Dialect
import RecordTypes.Json.Token

/-! String literals read back. A reader stops at the first bare quote, takes an escape for the
character that it stands for and refuses a line end, so what follows a literal is never taken for a
part of it. -/

namespace RecordTypes

def withFirst (c : Char) (p : List Char × List Char) : List Char × List Char := (c :: p.1, p.2)

def isLineEnd (c : Char) : Bool := c == '\n' || c == '\r'

/-- A text that stands in code is taken for the characters that it is written as, without being
decoded. -/
theorem holds_of_chars {P : List Char → Prop} {chars : List Char} (h : P chars) :
    P (String.ofList chars).toList := by
  rwa [String.toList_ofList]

theorem holds_of_chars_append {P : List Char → Prop} {s t : List Char} (h : P (s ++ t)) :
    P (String.ofList s ++ String.ofList t).toList := by
  rwa [String.toList_append, String.toList_ofList, String.toList_ofList]

/-! ## A mark at the front -/

theorem dropPrefix?_append (p s : List Char) : (p ++ s).dropPrefix? p = some s :=
  List.dropPrefix?_append_of_beq s (beq_self_eq_true p)

theorem dropPrefix?_eq_none {s p : List Char} (h : ¬ p <+: s) : s.dropPrefix? p = none := by
  rw [Option.eq_none_iff_forall_ne_some]
  intro rest hrest
  obtain ⟨p', hs, hp⟩ := List.dropPrefix?_eq_some_iff.mp hrest
  exact h ⟨rest, by rw [hs, beq_iff_eq.mp hp]⟩

/-! ## Literals of each kind of quote -/

/-- The character that a letter after a backslash stands for, between apostrophes. -/
def singleEscape? (letter : Char) : Option Char :=
  if letter == backslash || letter == apostrophe then some letter
  else if letter == 'n' then some '\n'
  else if letter == 'r' then some '\r'
  else none

/-- The rest of a literal after its opening apostrophe, and what follows the literal. -/
def readSingleBody : List Char → Option (List Char × List Char)
  | [] => none
  | c :: rest =>
    if c == apostrophe then some ([], rest)
    else if c == backslash then
      match rest with
      | [] => none
      | letter :: rest => do
        let d ← singleEscape? letter
        (readSingleBody rest).map (withFirst d)
    else if isLineEnd c then none
    else (readSingleBody rest).map (withFirst c)

def doubleEscape? (letter : Char) : Option Char :=
  if letter == backslash || letter == quotationMark then some letter
  else if letter == 'n' then some '\n'
  else if letter == 'r' then some '\r'
  else if letter == 't' then some '\t'
  else if letter == 'b' then some '\x08'
  else if letter == 'f' then some '\x0c'
  else none

def hexChar? (a b c d : Char) : Option Char := do
  let a ← hexValue? a
  let b ← hexValue? b
  let c ← hexValue? c
  let d ← hexValue? d
  return Char.ofNat (a * 4096 + b * 256 + c * 16 + d)

/-- The rest of a literal after its opening quotation mark, and what follows the literal. -/
def readDoubleBody : List Char → Option (List Char × List Char)
  | [] => none
  | c :: rest =>
    if c == quotationMark then some ([], rest)
    else if c == backslash then
      match rest with
      | 'u' :: h₁ :: h₂ :: h₃ :: h₄ :: rest => do
        let d ← hexChar? h₁ h₂ h₃ h₄
        (readDoubleBody rest).map (withFirst d)
      | letter :: rest => do
        let d ← doubleEscape? letter
        (readDoubleBody rest).map (withFirst d)
      | [] => none
    else if isLineEnd c then none
    else (readDoubleBody rest).map (withFirst c)

def readSingleQuoted : List Char → Option (List Char × List Char)
  | [] => none
  | c :: rest => if c == apostrophe then readSingleBody rest else none

def readDoubleQuoted : List Char → Option (List Char × List Char)
  | [] => none
  | c :: rest => if c == quotationMark then readDoubleBody rest else none

theorem readSingleBody_plain {c : Char} (hquote : c ≠ apostrophe) (hescape : c ≠ backslash)
    (hline : isLineEnd c = false) (rest : List Char) :
    readSingleBody (c :: rest) = (readSingleBody rest).map (withFirst c) := by
  rw [readSingleBody.eq_def]
  simp [hquote, hescape, hline]

theorem readSingleBody_escapeSingle (c : Char) (rest : List Char) :
    readSingleBody (escapeSingle c ++ rest) = (readSingleBody rest).map (withFirst c) := by
  by_cases hescape : c = backslash
  · subst hescape
    rfl
  by_cases hquote : c = apostrophe
  · subst hquote
    rfl
  by_cases hfeed : c = '\n'
  · subst hfeed
    rfl
  by_cases hreturn : c = '\r'
  · subst hreturn
    rfl
  have hline : isLineEnd c = false := by simp [isLineEnd, hfeed, hreturn]
  have hplain : escapeSingle c = [c] := by
    simp [escapeSingle, hescape, hquote, hfeed, hreturn]
  rw [hplain, List.singleton_append, readSingleBody_plain hquote hescape hline]

theorem readSingleQuoted_append (s rest : List Char) :
    readSingleQuoted (singleQuoted s ++ rest) = some (s, rest) := by
  have hbody : readSingleBody (s.flatMap escapeSingle ++ apostrophe :: rest) = some (s, rest) := by
    induction s with
    | nil =>
      rw [List.flatMap_nil, List.nil_append, readSingleBody.eq_def]
      rfl
    | cons c s ih =>
      rw [List.flatMap_cons, List.append_assoc, readSingleBody_escapeSingle, ih]
      rfl
  simpa [singleQuoted, readSingleQuoted] using hbody

theorem readDoubleBody_plain {c : Char} (hquote : c ≠ quotationMark) (hescape : c ≠ backslash)
    (hline : isLineEnd c = false) (rest : List Char) :
    readDoubleBody (c :: rest) = (readDoubleBody rest).map (withFirst c) := by
  rw [readDoubleBody.eq_def]
  simp [hquote, hescape, hline]

theorem readDoubleBody_unicode (h₁ h₂ h₃ h₄ : Char) (rest : List Char) :
    readDoubleBody (backslash :: 'u' :: h₁ :: h₂ :: h₃ :: h₄ :: rest) =
      (hexChar? h₁ h₂ h₃ h₄).bind fun d => (readDoubleBody rest).map (withFirst d) := rfl

theorem hexChar?_hexQuad : ∀ n < 0x20,
    hexChar? (hexDigit (n / 4096 % 16)) (hexDigit (n / 256 % 16)) (hexDigit (n / 16 % 16))
      (hexDigit (n % 16)) = some (Char.ofNat n) := by
  decide

/-- The characters that a letter after a backslash is written for, with the letter. -/
def letterEscapes : List (Char × Char) :=
  [(quotationMark, quotationMark), (backslash, backslash), ('\n', 'n'), ('\r', 'r'), ('\t', 't'),
   ('\x08', 'b'), ('\x0c', 'f')]

theorem mem_letterEscapes {c letter : Char} (h : escapeLetter? c = some letter) :
    (c, letter) ∈ letterEscapes := by
  unfold escapeLetter? at h
  repeat'
    split at h
    · rename_i hc
      cases h
      rw [beq_iff_eq.mp hc]
      decide
  cases h

/-- A character that is written as it is between quotation marks. -/
structure IsVerbatim (c : Char) : Prop where
  printed : 0x20 ≤ c.toNat
  notQuote : c ≠ quotationMark
  notEscape : c ≠ backslash

theorem IsVerbatim.notLineEnd {c : Char} (h : IsVerbatim c) : isLineEnd c = false := by
  have hfeed : c ≠ '\n' := by rintro rfl; exact absurd h.printed (by decide)
  have hreturn : c ≠ '\r' := by rintro rfl; exact absurd h.printed (by decide)
  simp [isLineEnd, hfeed, hreturn]

theorem isVerbatim_hexDigit (n : Nat) : IsVerbatim (hexDigit (n % 16)) := by
  have hdigits : ∀ n < 16, 0x20 ≤ (hexDigit n).toNat ∧ hexDigit n ≠ quotationMark ∧
      hexDigit n ≠ backslash := by decide
  obtain ⟨hprinted, hquote, hescape⟩ := hdigits (n % 16) (Nat.mod_lt n (by decide))
  exact ⟨hprinted, hquote, hescape⟩

theorem escapeDouble_cases (c : Char) :
    (∃ letter, (c, letter) ∈ letterEscapes ∧ escapeDouble c = [backslash, letter]) ∨
    (c.toNat < 0x20 ∧ escapeDouble c = unicodeEscape c.toNat) ∨
    (IsVerbatim c ∧ escapeDouble c = [c]) := by
  cases hletter : escapeLetter? c with
  | some letter => exact .inl ⟨letter, mem_letterEscapes hletter, by simp [escapeDouble, hletter]⟩
  | none =>
    have hquote : c ≠ quotationMark := by rintro rfl; cases hletter
    have hescape : c ≠ backslash := by rintro rfl; cases hletter
    by_cases hcontrol : c.toNat < 0x20
    · exact .inr (.inl ⟨hcontrol, by simp [escapeDouble, hletter, hcontrol]⟩)
    · exact .inr (.inr ⟨⟨Nat.le_of_not_lt hcontrol, hquote, hescape⟩,
        by simp [escapeDouble, hletter, hcontrol]⟩)

theorem readDoubleBody_letter (rest : List Char) : ∀ p ∈ letterEscapes,
    readDoubleBody (backslash :: p.2 :: rest) = (readDoubleBody rest).map (withFirst p.1) := by
  simp only [letterEscapes, List.forall_mem_cons]
  exact ⟨rfl, rfl, rfl, rfl, rfl, rfl, rfl, by simp⟩

theorem readDoubleBody_escapeDouble (c : Char) (rest : List Char) :
    readDoubleBody (escapeDouble c ++ rest) = (readDoubleBody rest).map (withFirst c) := by
  rcases escapeDouble_cases c with ⟨letter, hletter, hc⟩ | ⟨hcontrol, hc⟩ | ⟨hverbatim, hc⟩
  · rw [hc]
    exact readDoubleBody_letter rest _ hletter
  · rw [hc, unicodeEscape, hexQuad]
    simp only [List.cons_append, List.nil_append]
    rw [readDoubleBody_unicode, hexChar?_hexQuad _ hcontrol, Char.ofNat_toNat]
    rfl
  · rw [hc, List.singleton_append,
      readDoubleBody_plain hverbatim.notQuote hverbatim.notEscape hverbatim.notLineEnd]

theorem readDoubleQuoted_append (s rest : List Char) :
    readDoubleQuoted (doubleQuoted s ++ rest) = some (s, rest) := by
  have hbody :
      readDoubleBody (s.flatMap escapeDouble ++ quotationMark :: rest) = some (s, rest) := by
    induction s with
    | nil =>
      rw [List.flatMap_nil, List.nil_append, readDoubleBody.eq_def]
      rfl
    | cons c s ih =>
      rw [List.flatMap_cons, List.append_assoc, readDoubleBody_escapeDouble, ih]
      rfl
  simpa [doubleQuoted, readDoubleQuoted] using hbody

end RecordTypes

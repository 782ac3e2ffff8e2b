import RecordTypes.Proofs.Text.OneLine
import RecordTypes.Target.Basic

/-! Lines of code that stay what they were begun as. A line that is begun as a docstring is one up
to its last character, so that nothing that was put into it is read as code. -/

namespace RecordTypes

/-- The mark stands at the end of the text and nowhere before. -/
def ClosesAtEnd (mark s : List Char) : Prop := mark <:+ s ∧ ¬ mark <:+: s.dropLast

instance (mark s : List Char) : Decidable (ClosesAtEnd mark s) :=
  inferInstanceAs (Decidable (_ ∧ _))

namespace Language

def docStart : Language → List Char
  | .typescript => ['/', '*']
  | .python => docQuotes

def docEnd : Language → List Char
  | .typescript => commentEnd
  | .python => docQuotes

/-- The rest of a line after the mark that begins a docstring, if the line has it at its front. The
mark is taken first, as it is by readers of the language: a quotation mark behind it is text. -/
def docText? (language : Language) (line : List Char) : Option (List Char) :=
  (line.dropWhile (· == ' ')).dropPrefix? language.docStart

/-- A line without a line end in it that is closed at its end only, if it is a docstring. -/
structure IsIntact (language : Language) (line : String) : Prop where
  unbroken : IsUnbroken line.toList
  closed : ∀ text ∈ language.docText? line.toList, ClosesAtEnd language.docEnd text

/-- An intact line in which the mark that ends a docstring does not reach back into the one that
begins it, so that it stands at the two ends of the line and nowhere between. -/
structure IsSealed (language : Language) (line : String) : Prop extends
    IsIntact language line where
  apart : ∀ text ∈ language.docText? line.toList, text.head? ≠ language.docEnd.getLast?

/-- A line without a line end in it that does not begin as a docstring. -/
structure IsCode (language : Language) (line : String) : Prop where
  unbroken : IsUnbroken line.toList
  undocumented : language.docText? line.toList = none

instance (language : Language) (line : String) : Decidable (language.IsCode line) :=
  decidable_of_iff (IsUnbroken line.toList ∧ language.docText? line.toList = none)
    ⟨fun h => ⟨h.1, h.2⟩, fun h => ⟨h.unbroken, h.undocumented⟩⟩

/-- Text that neither ends the line of a docstring nor the docstring. -/
structure Fits (language : Language) (s : List Char) : Prop where
  unbroken : IsUnbroken s
  unclosed : ¬ language.docEnd <:+: s

end Language

/-! ## Text without line ends -/

theorem isUnbroken_append_iff {s t : List Char} :
    IsUnbroken (s ++ t) ↔ IsUnbroken s ∧ IsUnbroken t := List.forall_mem_append

theorem IsName.isUnbroken {s : List Char} (h : IsName s) : IsUnbroken s := by
  intro c hc
  by_contra hend
  simp only [isLineEnd, Bool.not_eq_false, Bool.or_eq_true, beq_iff_eq] at hend
  rcases hend with rfl | rfl <;> exact absurd (h _ hc) (by decide)

theorem isUnbroken_quotes {quote : Char} (hquote : isLineEnd quote = false)
    {escape : Char → List Char} (hescape : ∀ c, IsUnbroken (escape c)) (s : List Char) :
    IsUnbroken (quote :: (s.flatMap escape ++ [quote])) := by
  have hbody : IsUnbroken (s.flatMap escape) := by
    intro c hc
    obtain ⟨d, -, hc⟩ := List.mem_flatMap.mp hc
    exact hescape d c hc
  exact List.forall_mem_cons.mpr
    ⟨hquote, List.forall_mem_append.mpr ⟨hbody, List.forall_mem_singleton.mpr hquote⟩⟩

theorem isUnbroken_escapeSingle (c : Char) : IsUnbroken (escapeSingle c) := by
  unfold escapeSingle
  repeat' split
  · decide
  · decide
  · decide
  · decide
  · rename_i _ _ hfeed hreturn
    simpa [IsUnbroken, isLineEnd] using ⟨by simpa using hfeed, by simpa using hreturn⟩

theorem isUnbroken_unicodeEscape : ∀ n < 0x20, IsUnbroken (unicodeEscape n) := by decide

theorem isUnbroken_letterEscapes : ∀ p ∈ letterEscapes, IsUnbroken [backslash, p.2] := by decide

theorem isUnbroken_escapeDouble (c : Char) : IsUnbroken (escapeDouble c) := by
  rcases escapeDouble_cases c with ⟨letter, hletter, hc⟩ | ⟨hcontrol, hc⟩ | ⟨hverbatim, hc⟩
  · rw [hc]
    exact isUnbroken_letterEscapes _ hletter
  · rw [hc]
    exact isUnbroken_unicodeEscape _ hcontrol
  · rw [hc]
    exact List.forall_mem_singleton.mpr hverbatim.notLineEnd

theorem isUnbroken_quoted (target : Target) (s : String) :
    IsUnbroken (target.dialect.quoted s).toList := by
  cases target with
  | interface | zod =>
    simpa [Dialect.quoted, Target.dialect, Target.language, typescriptDialect, singleQuoted] using
      isUnbroken_quotes (by decide) isUnbroken_escapeSingle s.toList
  | typedDict | model =>
    simpa [Dialect.quoted, Target.dialect, Target.language, pythonDialect, doubleQuoted] using
      isUnbroken_quotes (by decide) isUnbroken_escapeDouble s.toList

theorem isUnbroken_indented_iff (d : Dialect) (level : Nat) (s : String) :
    IsUnbroken (d.indented level s).toList ↔ IsUnbroken s.toList := by
  have hblanks : IsUnbroken (List.replicate (d.indentWidth * level) ' ') := by
    intro c hc
    rw [List.eq_of_mem_replicate hc]
    rfl
  simp only [Dialect.indented, String.toList_append, String.toList_ofList, isUnbroken_append_iff]
  exact and_iff_right hblanks

/-! ## Docstrings -/

theorem exists_escapeDouble_eq_cons (c : Char) :
    ∃ d ds, escapeDouble c = d :: ds ∧ d ≠ quotationMark := by
  rcases escapeDouble_cases c with ⟨letter, -, hc⟩ | ⟨-, hc⟩ | ⟨hverbatim, hc⟩
  · exact ⟨backslash, [letter], hc, by decide⟩
  · exact ⟨backslash, 'u' :: hexQuad c.toNat, hc, by decide⟩
  · exact ⟨c, [], hc, hverbatim.notQuote⟩

theorem docQuotes_prefix_doubleQuoted_iff (s rest : List Char) :
    docQuotes <+: doubleQuoted s ++ rest ↔ s = [] ∧ rest.head? = some quotationMark := by
  cases s with
  | nil => cases rest <;> simp [docQuotes, doubleQuoted, eq_comm]
  | cons c s =>
    -- what is written for a character begins with no quotation mark
    obtain ⟨d, ds, hd, hne⟩ := exists_escapeDouble_eq_cons c
    simp [docQuotes, doubleQuoted, hd, hne.symm]

theorem Language.fits_append_cons_iff (language : Language) {s t : List Char} {c : Char}
    (hc : c ∉ language.docEnd) (hline : isLineEnd c = false) :
    language.Fits (s ++ c :: t) ↔ language.Fits s ∧ language.Fits t := by
  have hunbroken : IsUnbroken (s ++ c :: t) ↔ IsUnbroken s ∧ IsUnbroken t := by
    rw [isUnbroken_append_iff]
    exact and_congr_right fun _ => List.forall_mem_cons.trans (and_iff_right hline)
  have hwithin := infix_append_cons_iff (s := s) (t := t) hc
  constructor
  · rintro ⟨hlines, hopen⟩
    rw [hwithin, not_or] at hopen
    rw [hunbroken] at hlines
    exact ⟨⟨hlines.1, hopen.1⟩, hlines.2, hopen.2⟩
  · rintro ⟨⟨hs, hsopen⟩, ht, htopen⟩
    exact ⟨hunbroken.mpr ⟨hs, ht⟩, fun h => (hwithin.mp h).elim hsopen htopen⟩

theorem Language.fits_accent_iff (language : Language) {s t : List Char} :
    language.Fits (s ++ '\x60' :: t) ↔ language.Fits s ∧ language.Fits t :=
  language.fits_append_cons_iff (by cases language <;> decide) (by decide)

namespace Language

variable (language : Language)

theorem docText?_indented (d : Dialect) (level : Nat) (s : String) :
    language.docText? (d.indented level s).toList = language.docText? s.toList := by
  simp only [docText?, Dialect.indented, String.toList_append, String.toList_ofList]
  rw [List.dropWhile_append_of_pos]
  intro c hc
  rw [List.eq_of_mem_replicate hc]
  rfl

theorem isCode_indented_iff (d : Dialect) (level : Nat) (s : String) :
    language.IsCode (d.indented level s) ↔ language.IsCode s := by
  constructor
  · rintro ⟨hunbroken, hcode⟩
    rw [isUnbroken_indented_iff] at hunbroken
    rw [docText?_indented] at hcode
    exact ⟨hunbroken, hcode⟩
  · rintro ⟨hunbroken, hcode⟩
    refine ⟨(isUnbroken_indented_iff d level s).mpr hunbroken, ?_⟩
    rw [docText?_indented]
    exact hcode

variable {language}

theorem IsCode.isSealed {line : String} (h : language.IsCode line) : language.IsSealed line :=
  ⟨⟨h.unbroken, by simp [h.undocumented]⟩, by simp [h.undocumented]⟩

theorem docText?_of_head {c : Char} (hblank : c ≠ ' ') (hstart : language.docStart.head? ≠ some c)
    (s : List Char) : language.docText? (c :: s) = none := by
  cases language with
  | typescript =>
    have hc : c ≠ '/' := by rintro rfl; exact hstart rfl
    simp [docText?, hblank, docStart, List.dropPrefix?, hc]
  | python =>
    have hc : c ≠ quotationMark := by rintro rfl; exact hstart rfl
    simp [docText?, hblank, docStart, docQuotes, List.dropPrefix?, hc]

theorem IsCode.of_head {line : String} {c : Char} (hline : IsUnbroken line.toList)
    (hhead : line.toList.head? = some c) (hblank : c ≠ ' ')
    (hstart : language.docStart.head? ≠ some c) : language.IsCode line := by
  obtain ⟨rest, hrest⟩ := List.head?_eq_some_iff.mp hhead
  refine ⟨hline, ?_⟩
  rw [hrest]
  exact docText?_of_head hblank hstart rest

theorem docText?_of_nameChar {c : Char} (hc : isNameChar c = true) (s : List Char) :
    language.docText? (c :: s) = none := by
  refine docText?_of_head ?_ ?_ s
  · rintro rfl
    exact absurd hc (by decide)
  · intro hhead
    cases language <;> cases hhead <;> exact absurd hc (by decide)

theorem IsCode.of_nameChar {line : String} {c : Char} (hline : IsUnbroken line.toList)
    (hhead : line.toList.head? = some c) (hc : isNameChar c = true) : language.IsCode line := by
  obtain ⟨rest, hrest⟩ := List.head?_eq_some_iff.mp hhead
  refine ⟨hline, ?_⟩
  rw [hrest]
  exact docText?_of_nameChar hc rest

theorem IsCode.of_chars {chars : List Char}
    (h : IsUnbroken chars ∧ language.docText? chars = none) :
    language.IsCode (String.ofList chars) :=
  ⟨holds_of_chars (P := IsUnbroken) h.1,
    holds_of_chars (P := fun s => language.docText? s = none) h.2⟩

theorem IsCode.named {name rest : String} (hname : IsName name.toList)
    (h : language.IsCode rest) : language.IsCode (name ++ rest) := by
  have hline : IsUnbroken (name ++ rest).toList := by
    rw [String.toList_append, isUnbroken_append_iff]
    exact ⟨hname.isUnbroken, h.unbroken⟩
  cases hchars : name.toList with
  | nil =>
    rw [String.toList_eq_nil_iff.mp hchars, String.empty_append]
    exact h
  | cons c tail =>
    exact .of_nameChar (c := c) hline (by simp [hchars]) (hname c (by simp [hchars]))

end Language

theorem closesAtEnd_comment_iff (s : List Char) :
    ClosesAtEnd commentEnd (['*'] ++ ' ' :: (s ++ ' ' :: commentEnd)) ↔ ¬ commentEnd <:+: s := by
  have hblank : ' ' ∉ commentEnd := by decide
  have hstar : ¬ commentEnd <:+: ['*'] := by decide
  have hlast : (['*'] ++ ' ' :: (s ++ ' ' :: commentEnd)).dropLast =
      ['*'] ++ ' ' :: (s ++ ' ' :: ['*']) := by
    have hend : ['*'] ++ ' ' :: (s ++ ' ' :: commentEnd) =
        (['*'] ++ ' ' :: (s ++ ' ' :: ['*'])) ++ ['/'] := by simp [commentEnd]
    rw [hend, List.dropLast_concat]
  simp only [ClosesAtEnd, hlast, infix_append_cons_iff hblank, hstar, false_or, or_false]
  exact and_iff_right ⟨['*'] ++ ' ' :: (s ++ [' ']), by simp⟩

namespace Target

theorem docText?_docstring (target : Target) (level : Nat) (s : String) :
    target.language.docText? (target.dialect.docstring level s).toList =
      some (match target.language with
        | .typescript => ['*'] ++ ' ' :: (s.toList ++ ' ' :: commentEnd)
        | .python => s.toList ++ docQuotes) := by
  rw [Dialect.docstring, Language.docText?_indented]
  cases target <;>
    simp [Language.docText?, language, dialect, typescriptDialect, pythonDialect,
      Language.docStart, commentEnd, docQuotes, quotationMark, List.dropPrefix?]

theorem isUnbroken_docstring_iff (target : Target) (level : Nat) (s : String) :
    IsUnbroken (target.dialect.docstring level s).toList ↔ IsUnbroken s.toList := by
  have hmarks : IsUnbroken target.dialect.docOpening.toList ∧
      IsUnbroken target.dialect.docClosing.toList := by
    cases target <;> decide
  rw [Dialect.docstring, isUnbroken_indented_iff]
  simp only [String.toList_append, isUnbroken_append_iff, hmarks, true_and, and_true]

theorem isIntact_docstring_iff (target : Target) (level : Nat) {s : String}
    (hs : s.toList.getLast? = some '\x60') :
    target.language.IsIntact (target.dialect.docstring level s) ↔
      target.language.Fits s.toList := by
  have hclosed : ClosesAtEnd target.language.docEnd (match target.language with
      | .typescript => ['*'] ++ ' ' :: (s.toList ++ ' ' :: commentEnd)
      | .python => s.toList ++ docQuotes) ↔ ¬ target.language.docEnd <:+: s.toList := by
    cases target.language with
    | typescript => exact closesAtEnd_comment_iff s.toList
    | python =>
      -- No mark reaches across the accent, so those in the text and the closing one stay apart.
      obtain ⟨front, hfront⟩ := List.getLast?_eq_some_iff.mp hs
      have haccent : '\x60' ∉ docQuotes := by decide
      have hquotes : ¬ docQuotes <:+: [quotationMark, quotationMark] := by decide
      have hlast : (s.toList ++ docQuotes).dropLast =
          front ++ '\x60' :: [quotationMark, quotationMark] := by
        simp [hfront, docQuotes, List.dropLast_append_of_ne_nil]
      have htext : docQuotes <:+: s.toList ↔ docQuotes <:+: front := by
        rw [hfront, infix_append_cons_iff haccent]
        exact or_iff_left (by decide)
      simp only [ClosesAtEnd, Language.docEnd, hlast, htext, infix_append_cons_iff haccent, hquotes,
        or_false]
      exact and_iff_right (List.suffix_append _ _)
  constructor
  · rintro ⟨hunbroken, hdoc⟩
    exact ⟨(target.isUnbroken_docstring_iff level s).mp hunbroken,
      hclosed.mp (hdoc _ (target.docText?_docstring level s))⟩
  · rintro ⟨hunbroken, hopen⟩
    refine ⟨(target.isUnbroken_docstring_iff level s).mpr hunbroken, ?_⟩
    rw [docText?_docstring]
    rintro text ⟨⟩
    exact hclosed.mpr hopen

theorem isSealed_docstring_iff (target : Target) (level : Nat) {s : String}
    (hs : s.toList.getLast? = some '\x60') :
    target.language.IsSealed (target.dialect.docstring level s) ↔
      target.language.Fits s.toList ∧
        (target.language = .python → s.toList.head? ≠ some quotationMark) := by
  have hintact := target.isIntact_docstring_iff level hs
  obtain ⟨front, hfront⟩ := List.getLast?_eq_some_iff.mp hs
  have hapart : (∀ text ∈ target.language.docText? (target.dialect.docstring level s).toList,
        text.head? ≠ target.language.docEnd.getLast?) ↔
      (target.language = .python → s.toList.head? ≠ some quotationMark) := by
    rw [docText?_docstring]
    cases target.language with
    | typescript => simp [Language.docEnd, commentEnd]
    | python => cases front <;> simp [Language.docEnd, docQuotes, hfront]
  rw [← hintact, ← hapart]
  exact ⟨fun h => ⟨h.toIsIntact, h.apart⟩, fun h => ⟨h.1, h.2⟩⟩

end Target

end RecordTypes

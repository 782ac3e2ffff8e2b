import RecordTypes.Naming
import RecordTypes.Proofs.Code.IdentifierTable
import RecordTypes.Proofs.Text.Case
import RecordTypes.Target.Basic

/-! Where a character may stand in an identifier of a language, and what becomes of that when its
case is changed. A letter or number that has another form is a letter that both languages take
anywhere, and so is its other form; all others are left as they are. -/

namespace RecordTypes

def isStableStart (c : Char) : Bool :=
  identifierLetters.contains c.toNat && !unstableChars.contains c.toNat &&
    !unstableStarts.contains c.toNat

def isStablePart (c : Char) : Bool :=
  (identifierLetters.contains c.toNat || identifierMarks.contains c.toNat) &&
    !unstableChars.contains c.toNat

namespace Language

def isIdentifierStart (language : Language) (c : Char) : Bool :=
  match language with
  | .typescript => identifierLetters.contains c.toNat || c == '$' || c == '_'
  | .python => isStableStart c || c == '_'

/-- TypeScript lets two characters of no width stand inside an identifier. -/
def isIdentifierPart (language : Language) (c : Char) : Bool :=
  match language with
  | .typescript =>
    identifierLetters.contains c.toNat || identifierMarks.contains c.toNat || c == '$' ||
      c == '\u200C' || c == '\u200D'
  | .python => isStablePart c

theorem isIdentifierStart_of_stable (language : Language) {c : Char}
    (h : isStableStart c = true) : language.isIdentifierStart c = true := by
  cases language with
  | typescript =>
    simp only [isStableStart, Bool.and_eq_true] at h
    simp [isIdentifierStart, h.1.1]
  | python => simp [isIdentifierStart, h]

theorem isIdentifierPart_of_stable (language : Language) {c : Char} (h : isStablePart c = true) :
    language.isIdentifierPart c = true := by
  cases language with
  | typescript =>
    simp only [isStablePart, Bool.and_eq_true] at h
    simp [isIdentifierPart, h.1]
  | python => exact h

theorem isIdentifierStart_underscore (language : Language) :
    language.isIdentifierStart '_' = true := by
  cases language <;> decide

theorem isIdentifierPart_underscore (language : Language) :
    language.isIdentifierPart '_' = true := by
  cases language <;> rfl

end Language

theorem isStablePart_of_start {c : Char} (h : isStableStart c = true) : isStablePart c = true := by
  simp only [isStableStart, Bool.and_eq_true] at h
  simp [isStablePart, h.1.1, h.1.2]

/-! ## Digits -/

theorem digitRanges_apart_letters :
    digitRanges.isAscending = true ∧ identifierLetters.isAscending = true ∧
      digitRanges.apart identifierLetters = true := by
  decide +kernel

theorem Language.isIdentifierStart_digit (language : Language) {c : Char}
    (h : isDigitChar c = true) : language.isIdentifierStart c = false := by
  obtain ⟨hdigits, hletters, hapart⟩ := digitRanges_apart_letters
  have hletter := Ranges.not_contains_of_apart hdigits hletters hapart h
  have hdollar : c ≠ '$' := by
    rintro rfl
    cases h
  have hunderscore : c ≠ '_' := by
    rintro rfl
    cases h
  cases language with
  | typescript => simp [isIdentifierStart, hletter, hdollar, hunderscore]
  | python => simp [isIdentifierStart, isStableStart, hletter, hunderscore]

theorem Language.not_isDigitChar_of_start (language : Language) {c : Char}
    (h : language.isIdentifierStart c = true) : isDigitChar c = false := by
  rw [Bool.eq_false_iff]
  intro hdigit
  rw [language.isIdentifierStart_digit hdigit] at h
  cases h

/-! ## Other forms of letters -/

/-- The form of a letter is spelled out in letters and marks, a letter first. -/
def isSpelling (s : List Char) : Bool :=
  match s with
  | [] => false
  | c :: rest => isStableStart c && rest.all isStablePart

theorem isStablePart_of_isSpelling {s : List Char} (h : isSpelling s = true) :
    ∀ c ∈ s, isStablePart c = true := by
  cases s with
  | nil => cases h
  | cons c rest =>
    simp only [isSpelling, Bool.and_eq_true, List.all_eq_true] at h
    exact List.forall_mem_cons.mpr ⟨isStablePart_of_start h.1, h.2⟩

theorem casedLetters_stable :
    casedLetters.isAscending = true ∧ identifierLetters.isAscending = true ∧
      unstableChars.isAscending = true ∧ unstableStarts.isAscending = true ∧
      identifierLetters.coverAll casedLetters = true ∧
      casedLetters.apart unstableChars = true ∧ casedLetters.apart unstableStarts = true := by
  decide +kernel

theorem isStableStart_of_covers {c : Char} {a b : Nat} (hcovers : casedLetters.covers a b = true)
    (ha : a ≤ c.toNat) (hb : c.toNat ≤ b) : isStableStart c = true := by
  obtain ⟨hcased, hletters, hchars, hstarts, hcover, hapartChars, hapartStarts⟩ :=
    casedLetters_stable
  have h := Ranges.contains_of_covers hcovers ha hb
  have hletter := Ranges.contains_of_coverAll hletters hcover h
  have hchar := Ranges.not_contains_of_apart hcased hchars hapartChars h
  have hstart := Ranges.not_contains_of_apart hcased hstarts hapartStarts h
  simp [isStableStart, hletter, hchar, hstart]

def isCasedLetter (n : Nat) : Bool := casedLetters.covers n n

theorem isStableStart_of_cased {c : Char} (h : isCasedLetter c.toNat = true) :
    isStableStart c = true :=
  isStableStart_of_covers h (Nat.le_refl _) (Nat.le_refl _)

def CaseRow.keepsLetter (row : CaseRow) (n : Nat) : Bool :=
  isCasedLetter n && isCasedLetter (n + row.shift).toNat

/-- Whether a row takes letters to letters, as far as it is about characters of words. Only where
there are gaps between its characters are these looked at one by one. -/
def CaseRow.keepsLetters (row : CaseRow) : Bool :=
  Nat.blt row.last 128 ||
    (casedLetters.covers row.first row.last &&
      casedLetters.covers (row.first + row.shift).toNat (row.last + row.shift).toNat) ||
    wordRanges.avoids row.first row.last || row.points.all row.keepsLetter

/-- Letters with case are looked for first, for most of a spelling is made of them. -/
def isCasedSpelling (s : List Char) : Bool :=
  match s with
  | [] => false
  | c :: rest =>
    (isCasedLetter c.toNat || isStableStart c) &&
      rest.all fun d => isCasedLetter d.toNat || isStablePart d

theorem isSpelling_of_isCasedSpelling {s : List Char} (h : isCasedSpelling s = true) :
    isSpelling s = true := by
  cases s with
  | nil => cases h
  | cons c rest =>
    simp only [isCasedSpelling, Bool.and_eq_true, Bool.or_eq_true, List.all_eq_true] at h
    simp only [isSpelling, Bool.and_eq_true, List.all_eq_true]
    refine ⟨h.1.elim isStableStart_of_cased id, fun d hd => ?_⟩
    exact (h.2 d hd).elim (fun hcased => isStablePart_of_start (isStableStart_of_cased hcased)) id

def expansionsKeepLetters (expansions : List (Nat × List Nat)) : Bool :=
  expansions.all fun (n, ns) => isCasedLetter n && isCasedSpelling (ns.map Char.ofNat)

theorem CaseRow.Holds.cased {row : CaseRow} {c : Char} (h : row.Holds c)
    (hvalid : row.isValid = true) (hkeeps : row.keepsLetters = true)
    (hword : wordRanges.contains c.toNat = true) (hbeyond : 128 ≤ c.toNat) :
    isStableStart c = true ∧ isStableStart (row.image c) = true := by
  have himage := h.toNat_image hvalid
  have hfirst := h.first_le
  have hlast := h.le_last
  simp only [keepsLetters, Bool.or_eq_true, Bool.and_eq_true, Nat.blt_eq] at hkeeps
  rcases hkeeps with ((hascii | ⟨hdomain, hrange⟩) | havoids) | hpoints
  · omega
  · exact ⟨isStableStart_of_covers hdomain hfirst hlast,
      isStableStart_of_covers hrange (by omega) (by omega)⟩
  · rw [Ranges.not_contains_of_avoids havoids hfirst hlast] at hword
    cases hword
  · have hpoint := List.all_eq_true.mp hpoints _ h.mem_points
    have hd : (c.toNat + row.shift).toNat = (row.image c).toNat := by omega
    rw [keepsLetter, Bool.and_eq_true, hd] at hpoint
    exact ⟨isStableStart_of_cased hpoint.1, isStableStart_of_cased hpoint.2⟩

theorem wordRanges_of_isLetterOrNumber {c : Char} (h : isLetterOrNumber c = true)
    (hbeyond : 128 ≤ c.toNat) : wordRanges.contains c.toNat = true := by
  simp only [isLetterOrNumber, isWordChar, Bool.and_eq_true] at h
  rw [if_neg (by omega)] at h
  exact h.1

theorem caseTables_keepLetters :
    (upperRows.all CaseRow.keepsLetters = true ∧ expansionsKeepLetters upperExpansions = true) ∧
      lowerRows.all CaseRow.keepsLetters = true ∧
        expansionsKeepLetters lowerExpansions = true := by
  decide +kernel

/-- A character is left as it is, or it is a letter and its other form is spelled in letters. -/
inductive IsLetterChange (c : Char) (s : List Char) : Prop
  | same (h : s = [c])
  | respelled (hc : isStableStart c = true) (hs : isSpelling s = true)

/-- The other form of a character begins an identifier, or a number, just where the character does.
-/
theorem IsLetterChange.exists_cons {c : Char} {s : List Char} (h : IsLetterChange c s) :
    ∃ d rest, s = d :: rest ∧ isDigitChar d = isDigitChar c ∧ (c ≠ '_' → d ≠ '_') ∧
      ∀ language : Language, language.isIdentifierStart d = language.isIdentifierStart c := by
  rcases h with rfl | ⟨hc, hs⟩
  · exact ⟨c, [], rfl, rfl, id, fun _ => rfl⟩
  · cases s with
    | nil => cases hs
    | cons d rest =>
      simp only [isSpelling, Bool.and_eq_true] at hs
      have hstart (language : Language) := language.isIdentifierStart_of_stable hc
      have hstart' (language : Language) := language.isIdentifierStart_of_stable hs.1
      refine ⟨d, rest, rfl, ?_, fun _ => ?_, fun language => ?_⟩
      · rw [Language.python.not_isDigitChar_of_start (hstart' _),
          Language.python.not_isDigitChar_of_start (hstart _)]
      · rintro rfl
        cases hs.1
      · rw [hstart', hstart]

theorem isLetterChange_mapCase {rows : List CaseRow} {expansions : List (Nat × List Nat)}
    (hvalid : rows.all CaseRow.isValid = true)
    (hkeeps : rows.all CaseRow.keepsLetters = true ∧ expansionsKeepLetters expansions = true)
    {c : Char} (hc : isLetterOrNumber c = true) (hbeyond : 128 ≤ c.toNat) :
    IsLetterChange c (mapCase rows expansions c) := by
  rcases mapCase_cases rows expansions c with h | ⟨ns, hmem, h⟩ | ⟨row, hrow, hholds, h⟩
  · exact .same h
  · have hletters := List.all_eq_true.mp hkeeps.2 _ hmem
    simp only [Bool.and_eq_true] at hletters
    rw [h]
    exact .respelled (isStableStart_of_cased hletters.1) (isSpelling_of_isCasedSpelling hletters.2)
  · have hcased := hholds.cased (List.all_eq_true.mp hvalid row hrow)
      (List.all_eq_true.mp hkeeps.1 row hrow) (wordRanges_of_isLetterOrNumber hc hbeyond) hbeyond
    rw [h]
    exact .respelled hcased.1 (by simp [isSpelling, hcased.2])

theorem isLetterChange_singleton {c d : Char}
    (h : d = c ∨ (isStableStart c = true ∧ isStableStart d = true)) : IsLetterChange c [d] := by
  rcases h with rfl | ⟨hc, hd⟩
  · exact .same rfl
  · exact .respelled hc (by simp [isSpelling, hd])

theorem isLetterChange_ascii : ∀ n < 128, isLetterOrNumber (Char.ofNat n) = true →
    ((Char.ofNat n).toUpper = Char.ofNat n ∨
      (isStableStart (Char.ofNat n) = true ∧ isStableStart (Char.ofNat n).toUpper = true)) ∧
    ((Char.ofNat n).toLower = Char.ofNat n ∨
      (isStableStart (Char.ofNat n) = true ∧ isStableStart (Char.ofNat n).toLower = true)) := by
  decide +kernel

theorem isLetterChange_upperChar {c : Char} (hc : isLetterOrNumber c = true) :
    IsLetterChange c (upperChar c) := by
  unfold upperChar
  split
  · rename_i hascii
    obtain ⟨n, hn, rfl⟩ := exists_ascii hascii
    exact isLetterChange_singleton (isLetterChange_ascii n hn hc).1
  · exact isLetterChange_mapCase caseRows_valid.1 caseTables_keepLetters.1 hc (by omega)

theorem isLetterChange_lowerChar {c : Char} (hc : isLetterOrNumber c = true) :
    IsLetterChange c (lowerChar c) := by
  unfold lowerChar
  split
  · rename_i hascii
    obtain ⟨n, hn, rfl⟩ := exists_ascii hascii
    exact isLetterChange_singleton (isLetterChange_ascii n hn hc).2
  · exact isLetterChange_mapCase caseRows_valid.2 caseTables_keepLetters.2 hc (by omega)

theorem isLetterChange_sigma {c : Char} (hc : c = 'σ' ∨ c = 'ς') :
    IsLetterChange capitalSigma [c] := by
  have hcapital : isStableStart capitalSigma = true := rfl
  rcases hc with rfl | rfl
  · exact .respelled hcapital rfl
  · exact .respelled hcapital rfl

end RecordTypes

import Mathlib.Data.List.Basic
import RecordTypes.Naming
import RecordTypes.Proofs.Text.Case

/-! Characters of names in code. A reader of code takes ASCII letters, digits and underscores for
such characters, and all that lies beyond ASCII. Whatever people call their tables and fields, the
names made from that have no other characters. -/

namespace RecordTypes

def isNameChar (c : Char) : Bool := c.isAlphanum || c == '_' || 128 ≤ c.toNat

/-- A name may be empty: a text without words yields one. -/
def IsName (s : List Char) : Prop := ∀ c ∈ s, isNameChar c = true

instance (s : List Char) : Decidable (IsName s) :=
  decidable_of_iff (s.all isNameChar = true) List.all_eq_true

theorem IsName.nil : IsName [] := by
  intro c hc
  cases hc

theorem IsName.append {s t : List Char} (hs : IsName s) (ht : IsName t) : IsName (s ++ t) := by
  intro c hc
  rcases List.mem_append.mp hc with h | h
  · exact hs c h
  · exact ht c h

theorem IsName.cons {c : Char} {s : List Char} (hc : isNameChar c = true) (hs : IsName s) :
    IsName (c :: s) := by
  intro d hd
  rcases List.mem_cons.mp hd with rfl | h
  · exact hc
  · exact hs d h

theorem IsName.mono {s t : List Char} (ht : IsName t) (h : ∀ c ∈ s, c ∈ t) : IsName s :=
  fun c hc => ht c (h c hc)

theorem IsName.not_mem {s : List Char} (h : IsName s) {c : Char} (hc : isNameChar c = false) :
    c ∉ s := by
  intro hs
  rw [h c hs] at hc
  cases hc

theorem isName_of_digits {s : List Char} (h : ∀ c ∈ s, c.isDigit = true) : IsName s := by
  intro c hc
  simp [isNameChar, Char.isAlphanum, h c hc]

theorem isDigit_of_mem_toDigits {n : Nat} {c : Char} (h : c ∈ Nat.toDigits 10 n) :
    c.isDigit = true :=
  Nat.isDigit_of_mem_toDigits (by decide) (by decide) h

theorem isName_toDigits (n : Nat) : IsName (Nat.toDigits 10 n) :=
  isName_of_digits fun _ => isDigit_of_mem_toDigits

theorem isDigitChar_of_isDigit {c : Char} (h : c.isDigit = true) : isDigitChar c = true := by
  have hrange : 48 ≤ c.toNat ∧ c.toNat ≤ 57 := by
    simpa [Char.isDigit, UInt32.le_iff_toNat_le] using h
  have hdigits : ∀ n ≤ 57, 48 ≤ n → digitRanges.contains n = true := by decide
  exact hdigits c.toNat hrange.2 hrange.1

theorem isNameChar_of_beyond {c : Char} (h : 128 ≤ c.toNat) : isNameChar c = true := by
  simp [isNameChar, h]

theorem isNameChar_of_isWordChar {c : Char} (h : isWordChar c = true) : isNameChar c = true := by
  unfold isWordChar at h
  split at h
  · simp only [Bool.or_eq_true] at h
    simp only [isNameChar, Bool.or_eq_true]
    exact Or.inl h
  · exact isNameChar_of_beyond (by omega)

/-! ## Case mapping -/

/-- A row of a case mapping that takes no character beyond ASCII to a sign of ASCII. -/
def CaseRow.keepsNames (row : CaseRow) : Bool :=
  row.last < 128 || 128 ≤ row.first + row.shift ||
    (row.first == row.last && isNameChar (Char.ofNat (row.first + row.shift).toNat))

def expansionsKeepNames (expansions : List (Nat × List Nat)) : Bool :=
  expansions.all fun (_, ns) => ns.all fun n => isNameChar (Char.ofNat n)

theorem CaseRow.Holds.isNameChar_image {row : CaseRow} {c : Char} (h : row.Holds c)
    (hvalid : row.isValid = true) (hkeeps : row.keepsNames = true) (hc : 128 ≤ c.toNat) :
    isNameChar (row.image c) = true := by
  have hfirst := h.first_le
  have hlast := h.le_last
  simp only [keepsNames, Bool.or_eq_true, Bool.and_eq_true, decide_eq_true_eq, beq_iff_eq]
    at hkeeps
  rcases hkeeps with (hascii | hbeyond) | ⟨hone, hname⟩
  · omega
  · have himage := h.toNat_image hvalid
    exact isNameChar_of_beyond (by omega)
  · have hc : row.first = c.toNat := by omega
    rwa [hc] at hname

theorem isName_mapCase {rows : List CaseRow} {expansions : List (Nat × List Nat)}
    (hvalid : rows.all CaseRow.isValid = true)
    (hkeeps : rows.all CaseRow.keepsNames = true ∧ expansionsKeepNames expansions = true) {c : Char}
    (hc : 128 ≤ c.toNat) :
    IsName (mapCase rows expansions c) := by
  refine forall_mem_mapCase (isNameChar_of_beyond hc) (fun ns hns => ?_) fun row hrow hholds => ?_
  · exact List.all_eq_true.mp (List.all_eq_true.mp hkeeps.2 _ hns)
  · exact hholds.isNameChar_image (List.all_eq_true.mp hvalid row hrow)
      (List.all_eq_true.mp hkeeps.1 row hrow) hc

theorem caseTables_keepNames :
    (upperRows.all CaseRow.keepsNames = true ∧ expansionsKeepNames upperExpansions = true) ∧
      lowerRows.all CaseRow.keepsNames = true ∧ expansionsKeepNames lowerExpansions = true := by
  decide +kernel

theorem isNameChar_changeCase : ∀ n < 128, isNameChar (Char.ofNat n) = true →
    isNameChar (Char.ofNat n).toUpper = true ∧ isNameChar (Char.ofNat n).toLower = true := by
  decide +kernel

theorem isName_upperChar {c : Char} (hc : isNameChar c = true) : IsName (upperChar c) := by
  unfold upperChar
  split
  · rename_i hascii
    obtain ⟨n, hn, rfl⟩ := exists_ascii hascii
    simpa [IsName] using (isNameChar_changeCase n hn hc).1
  · exact isName_mapCase caseRows_valid.1 caseTables_keepNames.1 (by omega)

theorem isName_lowerChar {c : Char} (hc : isNameChar c = true) : IsName (lowerChar c) := by
  unfold lowerChar
  split
  · rename_i hascii
    obtain ⟨n, hn, rfl⟩ := exists_ascii hascii
    simpa [IsName] using (isNameChar_changeCase n hn hc).2
  · exact isName_mapCase caseRows_valid.2 caseTables_keepNames.2 (by omega)

theorem isName_lower {s : List Char} (hs : IsName s) : IsName (lower s) :=
  forall_mem_lowerFrom ⟨by decide, by decide⟩ (fun c hc => isName_lowerChar (hs c hc)) false

/-! ## Words and the names made from them -/

theorem openRuns_all (p : Char → Bool) (s : List Char) :
    (∀ c ∈ (openRuns p s).1, p c = true) ∧ ∀ run ∈ (openRuns p s).2, ∀ c ∈ run, p c = true := by
  induction s with
  | nil => simp [openRuns]
  | cons c rest ih =>
    obtain ⟨hfront, hlater⟩ := ih
    simp only [openRuns]
    split
    · rename_i hc
      exact ⟨List.forall_mem_cons.mpr ⟨hc, hfront⟩, hlater⟩
    · refine ⟨by simp, fun run hrun => ?_⟩
      split at hrun
      · exact hlater run hrun
      · rcases List.mem_cons.mp hrun with rfl | h
        · exact hfront
        · exact hlater run h

theorem runs_all {p : Char → Bool} {s run : List Char} (h : run ∈ runs p s) :
    ∀ c ∈ run, p c = true := by
  have hall := openRuns_all p s
  unfold runs at h
  dsimp only at h
  split at h
  · exact hall.2 run h
  · rcases List.mem_cons.mp h with rfl | h
    · exact hall.1
    · exact hall.2 run h

theorem isName_of_mem_splitWords {s word : List Char} (h : word ∈ splitWords s) : IsName word := by
  intro c hc
  have := runs_all h c hc
  simp only [isLetterOrNumber, Bool.and_eq_true] at this
  exact isNameChar_of_isWordChar this.1

theorem isName_capitalized {word : List Char} (h : IsName word) : IsName (capitalized word) := by
  cases word with
  | nil => exact IsName.nil
  | cons c rest =>
    exact (isName_upperChar (h c List.mem_cons_self)).append
      (isName_lower (h.mono fun d hd => List.mem_cons_of_mem _ hd))

theorem isName_pascalCase (s : List Char) : IsName (pascalCase s) := by
  have h : IsName ((splitWords s).flatMap capitalized) := by
    intro c hc
    obtain ⟨word, hword, hc⟩ := List.mem_flatMap.mp hc
    exact isName_capitalized (isName_of_mem_splitWords hword) c hc
  unfold pascalCase
  dsimp only
  split
  · exact h.cons (by decide)
  · exact h

theorem mem_joinWith {separator : List Char} {pieces : List (List Char)} {c : Char}
    (h : c ∈ joinWith separator pieces) : c ∈ separator ∨ ∃ piece ∈ pieces, c ∈ piece := by
  induction pieces with
  | nil => simp [joinWith] at h
  | cons piece pieces ih =>
    cases pieces with
    | nil =>
      simp only [joinWith, List.intercalate_singleton] at h
      exact Or.inr ⟨piece, List.mem_cons_self, h⟩
    | cons next rest =>
      simp only [joinWith, List.intercalate_cons_cons, List.mem_append] at h
      rcases h with (h | h) | h
      · exact Or.inr ⟨piece, List.mem_cons_self, h⟩
      · exact Or.inl h
      · rcases ih h with h | ⟨p, hp, h⟩
        · exact Or.inl h
        · exact Or.inr ⟨p, List.mem_cons_of_mem _ hp, h⟩

theorem isName_spelledOut {s : List Char} : IsName (replaceChar ' ' ['_'] (spelledOut s)) := by
  intro c hc
  obtain ⟨d, hd, hc⟩ := List.mem_flatMap.mp hc
  split at hc
  · rw [List.mem_singleton.mp hc]
    decide
  · rename_i hblank
    rw [List.mem_singleton.mp hc]
    rcases mem_joinWith hd with h | ⟨word, hword, h⟩
    · exact absurd (by simpa using h) hblank
    · exact isName_of_mem_splitWords hword d h

theorem mem_collapseUnderscores {s : List Char} {c : Char} :
    c ∈ collapseUnderscores s ↔ c ∈ s := by
  induction s using collapseUnderscores.induct with
  | case1 a b rest hab ih =>
    have hsame : a = b := by
      simp only [Bool.and_eq_true, beq_iff_eq] at hab
      rw [hab.1, hab.2]
    rw [collapseUnderscores, if_pos hab, ih, hsame]
    simp
  | case2 a b rest hab ih =>
    rw [collapseUnderscores, if_neg hab, List.mem_cons, ih, List.mem_cons (a := c) (b := a)]
  | case3 s hs =>
    rw [collapseUnderscores]
    exact hs

theorem isName_snakeCase_spelledOut (s : List Char) : IsName (snakeCase (spelledOut s)) :=
  isName_lower (isName_spelledOut.mono fun _ => mem_collapseUnderscores.mp)

theorem mem_trimmedName {s : List Char} {c : Char} (h : c ∈ trimmedName s) :
    c ∈ ['n', '_'] ∨ c ∈ s := by
  have htrim {d : Char}
      (hd : d ∈ ((s.dropWhile (· == '_')).reverse.dropWhile (· == '_')).reverse) : d ∈ s :=
    (List.dropWhile_suffix _).subset
      (List.mem_reverse.mp ((List.dropWhile_suffix _).subset (List.mem_reverse.mp hd)))
  unfold trimmedName at h
  dsimp only at h
  split at h
  · exact (List.mem_append (s := ['n', '_']).mp h).imp id htrim
  · exact .inr (htrim h)

theorem isName_trimmedName {s : List Char} (h : IsName s) : IsName (trimmedName s) := by
  have hfront : IsName ['n', '_'] := by decide
  exact fun c hc => (mem_trimmedName hc).elim (hfront c) (h c)

theorem mem_unreserved {s : List Char} {c : Char} (h : c ∈ unreserved s) :
    c ∈ "field_".toList ∨ c ∈ s := by
  unfold unreserved at h
  split at h
  · have hsub : "field".toList ⊆ "field_".toList := by decide
    exact .inl (hsub h)
  · split at h
    · exact List.mem_append.mp h
    · split at h
      · have hsub : ['_'] ⊆ "field_".toList := by decide
        exact (List.mem_append.mp h).symm.imp (hsub ·) id
      · exact .inr h

theorem isName_unreserved {s : List Char} (h : IsName s) : IsName (unreserved s) := by
  have hfront : IsName "field_".toList := by decide
  exact fun c hc => (mem_unreserved hc).elim (hfront c) (h c)

theorem isName_propertyName (s : List Char) : IsName (propertyName s) :=
  isName_unreserved (isName_trimmedName (isName_snakeCase_spelledOut s))

end RecordTypes

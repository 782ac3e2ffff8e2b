import RecordTypes.Proofs.Code.Identifier
import RecordTypes.Proofs.Text.WordCut
import RecordTypes.Text.Blank

/-! Words of file names. They are put in small letters, which spells some characters out in several;
still no sign of ASCII and no white space is among what comes out, and no word is empty. -/

namespace RecordTypes

/-- Letters and digits among the characters of ASCII, and all beyond it that are no white space. -/
def isFileNameChar (c : Char) : Bool := !isBlank c && (c.isAlphanum || 128 ≤ c.toNat)

theorem isBlank_of_isFileNameChar {c : Char} (h : isFileNameChar c = true) : isBlank c = false := by
  simp only [isFileNameChar, Bool.and_eq_true, Bool.not_eq_true'] at h
  exact h.1

theorem isFileNameChar_of_beyond {c : Char} (hblank : isBlank c = false) (h : 128 ≤ c.toNat) :
    isFileNameChar c = true := by
  simp [isFileNameChar, hblank, h]

theorem wordRanges_apart_blanks :
    wordRanges.isAscending = true ∧ Ranges.isAscending blankRanges = true ∧
      wordRanges.apart blankRanges = true := by
  decide +kernel

theorem isFileNameChar_ascii : ∀ n < 128, isLetterOrNumber (Char.ofNat n) = true →
    isFileNameChar (Char.ofNat n) = true := by
  decide +kernel

theorem isFileNameChar_of_isLetterOrNumber {c : Char} (h : isLetterOrNumber c = true) :
    isFileNameChar c = true := by
  by_cases hascii : c.toNat < 128
  · obtain ⟨n, hn, rfl⟩ := exists_ascii hascii
    exact isFileNameChar_ascii n hn h
  · obtain ⟨hwords, hblanks, hapart⟩ := wordRanges_apart_blanks
    have hword := wordRanges_of_isLetterOrNumber h (by omega)
    exact isFileNameChar_of_beyond (Ranges.not_contains_of_apart hwords hblanks hapart hword)
      (by omega)

/-- A row that takes no character beyond ASCII to white space or to a sign of ASCII. -/
def CaseRow.keepsFileNames (row : CaseRow) : Bool :=
  Nat.blt row.last 128 ||
    (Nat.ble 128 (row.first + row.shift).toNat &&
      Ranges.avoids blankRanges (row.first + row.shift).toNat (row.last + row.shift).toNat) ||
    row.points.all fun n => isFileNameChar (Char.ofNat (n + row.shift).toNat)

theorem lowerTables_keepFileNames :
    lowerRows.all CaseRow.keepsFileNames = true ∧
      (lowerExpansions.all fun (_, ns) =>
        ns.all fun n => isFileNameChar (Char.ofNat n)) = true := by
  decide +kernel

theorem CaseRow.Holds.isFileNameChar_image {row : CaseRow} {c : Char} (h : row.Holds c)
    (hvalid : row.isValid = true) (hkeeps : row.keepsFileNames = true) (hbeyond : 128 ≤ c.toNat) :
    isFileNameChar (row.image c) = true := by
  have himage := h.toNat_image hvalid
  have hfirst := h.first_le
  have hlast := h.le_last
  simp only [keepsFileNames, Bool.or_eq_true, Bool.and_eq_true, Nat.blt_eq, Nat.ble_eq] at hkeeps
  rcases hkeeps with (hascii | ⟨hmoved, havoids⟩) | hpoints
  · omega
  · exact isFileNameChar_of_beyond
      (Ranges.not_contains_of_avoids havoids (by omega) (by omega)) (by omega)
  · exact List.all_eq_true.mp hpoints _ h.mem_points

theorem isFileNameChar_toLower : ∀ n < 128, isFileNameChar (Char.ofNat n) = true →
    isFileNameChar (Char.ofNat n).toLower = true := by
  decide +kernel

theorem isFileNameChar_lowerChar {c : Char} (hc : isFileNameChar c = true) :
    ∀ d ∈ lowerChar c, isFileNameChar d = true := by
  unfold lowerChar
  split
  · rename_i hascii
    obtain ⟨n, hn, rfl⟩ := exists_ascii hascii
    exact List.forall_mem_singleton.mpr (isFileNameChar_toLower n hn hc)
  · refine forall_mem_mapCase hc (fun ns hns => ?_) fun row hrow hholds => ?_
    · exact List.all_eq_true.mp (List.all_eq_true.mp lowerTables_keepFileNames.2 _ hns)
    · exact hholds.isFileNameChar_image (List.all_eq_true.mp caseRows_valid.2 row hrow)
        (List.all_eq_true.mp lowerTables_keepFileNames.1 row hrow) (by omega)

structure IsFileWord (word : List Char) : Prop where
  filled : word ≠ []
  chars : ∀ c ∈ word, isFileNameChar c = true

theorem isFileWord_lower {s word : List Char} (h : word ∈ splitWords s) :
    IsFileWord (lower word) := by
  have hletters : ∀ c ∈ word, isLetterOrNumber c = true := runs_all h
  refine ⟨?_, ?_⟩
  · cases word with
    | nil => exact absurd h (nil_not_mem_splitWords s)
    | cons c rest =>
      have hchange := isLetterChange_lowerChar (hletters c List.mem_cons_self)
      obtain ⟨form, later, hlower, hform⟩ := exists_lowerFrom_cons hchange false rest
      obtain ⟨d, more, rfl, -⟩ := hform.exists_cons
      rw [lower, hlower]
      exact List.cons_ne_nil _ _
  · have hsigma : isFileNameChar 'ς' = true ∧ isFileNameChar 'σ' = true := by decide +kernel
    refine forall_mem_lowerFrom hsigma (fun c hc => ?_) false
    exact isFileNameChar_lowerChar (isFileNameChar_of_isLetterOrNumber (hletters c hc))

/-- The words are told by the positions of the characters; a stand-in is there for none. -/
theorem fileWords_eq (s : List Char) : fileWords s =
    if positionedWords s = [] then ["airtable".toList] else (positionedWords s).map lower := by
  have hwords : positionedWords s = splitWords s := positionedWords_eq s
  rw [hwords, fileWords]
  cases splitWords s <;> simp

theorem fileWords_ne_nil (s : List Char) : fileWords s ≠ [] := by
  rw [fileWords_eq]
  split
  · exact List.cons_ne_nil _ _
  · rename_i hne
    exact fun hnil => hne (List.map_eq_nil_iff.mp hnil)

theorem isFileWord_of_mem_fileWords {s word : List Char} (h : word ∈ fileWords s) :
    IsFileWord word := by
  rw [fileWords_eq] at h
  split at h
  · rw [List.mem_singleton.mp h]
    exact ⟨by decide, List.all_eq_true.mp (by decide)⟩
  · obtain ⟨word, hword, rfl⟩ := List.mem_map.mp h
    rw [positionedWords_eq] at hword
    exact isFileWord_lower hword

end RecordTypes

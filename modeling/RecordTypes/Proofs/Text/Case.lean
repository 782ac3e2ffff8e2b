import Mathlib.Data.List.Basic
import RecordTypes.Text.Case
import RecordTypes.Text.Words

/-! What the tables of a case mapping make of a character. They leave it alone, spell it out, or
move it along with the row that it is in, so that what holds of every row holds of every result. -/

namespace RecordTypes

theorem toNat_ofNat_of_valid {n : Nat} (h : n.isValidChar) : (Char.ofNat n).toNat = n := by
  rw [Char.ofNat, dif_pos h]
  rfl

theorem exists_ascii {c : Char} (h : c.toNat < 128) : ∃ n < 128, Char.ofNat n = c :=
  ⟨c.toNat, h, Char.ofNat_toNat c⟩

/-! ## Ranges as a whole

These are worked out for whole tables, which is why numbers are compared without detours. -/

/-- Whether one of the ranges holds all of another. -/
def Ranges.covers : Ranges → Nat → Nat → Bool
  | [], _, _ => false
  | (first, last) :: rest, a, b => Nat.ble first a && (Nat.ble b last || Ranges.covers rest a b)

/-- Whether none of the ranges holds anything of another. -/
def Ranges.avoids : Ranges → Nat → Nat → Bool
  | [], _, _ => true
  | (first, last) :: rest, a, b => Nat.blt b first || (Nat.blt last a && Ranges.avoids rest a b)

theorem Ranges.contains_of_covers {ranges : Ranges} {a b n : Nat} (h : ranges.covers a b = true)
    (ha : a ≤ n) (hb : n ≤ b) : ranges.contains n = true := by
  induction ranges with
  | nil => cases h
  | cons range rest ih =>
    obtain ⟨first, last⟩ := range
    simp only [covers, Bool.and_eq_true, Bool.or_eq_true, Nat.ble_eq] at h
    simp only [contains, Bool.and_eq_true, Bool.or_eq_true, decide_eq_true_eq]
    refine ⟨by omega, ?_⟩
    rcases h.2 with hlast | hrest
    · exact Or.inl (by omega)
    · exact Or.inr (ih hrest)

theorem Ranges.not_contains_of_avoids {ranges : Ranges} {a b n : Nat}
    (h : ranges.avoids a b = true) (ha : a ≤ n) (hb : n ≤ b) : ranges.contains n = false := by
  induction ranges with
  | nil => rfl
  | cons range rest ih =>
    obtain ⟨first, last⟩ := range
    simp only [avoids, Bool.or_eq_true, Bool.and_eq_true, Nat.blt_eq] at h
    simp only [contains, Bool.and_eq_false_iff, Bool.or_eq_false_iff, decide_eq_false_iff_not]
    rcases h with hbefore | ⟨hafter, hrest⟩
    · exact Or.inl (by omega)
    · exact Or.inr ⟨by omega, ih hrest⟩

theorem Ranges.exists_of_contains {ranges : Ranges} {n : Nat} (h : ranges.contains n = true) :
    ∃ range ∈ ranges, range.1 ≤ n ∧ n ≤ range.2 := by
  induction ranges with
  | nil => cases h
  | cons range rest ih =>
    simp only [contains, Bool.and_eq_true, Bool.or_eq_true, decide_eq_true_eq] at h
    obtain ⟨hfirst, hlast | hrest⟩ := h
    · exact ⟨range, List.mem_cons_self, hfirst, hlast⟩
    · obtain ⟨other, hother, hbounds⟩ := ih hrest
      exact ⟨other, List.mem_cons_of_mem _ hother, hbounds⟩

/-! ## Two tables side by side

Tables in ascending order are walked through together: what comes before a range of the one is left
behind in the other. -/

/-- Whether every range begins after the end of the one before. -/
def Ranges.isAscending : Ranges → Bool
  | [] => true
  | (first, last) :: rest =>
    Nat.ble first last && rest.head?.all (fun next => Nat.blt last next.1) && isAscending rest

theorem Ranges.lt_of_head? {ranges : Ranges} (h : isAscending ranges = true) {last : Nat}
    (hhead : (ranges.head?.all fun next => Nat.blt last next.1) = true) :
    ∀ other ∈ ranges, last < other.1 := by
  induction ranges generalizing last with
  | nil => simp
  | cons next rest ih =>
    simp only [isAscending, Bool.and_eq_true, Nat.ble_eq] at h
    have hnext : last < next.1 := by simpa using hhead
    refine List.forall_mem_cons.mpr ⟨hnext, fun other hother => ?_⟩
    have hafter := ih h.2 h.1.2 other hother
    omega

theorem Ranges.isAscending_cons {range : Nat × Nat} {rest : Ranges}
    (h : isAscending (range :: rest) = true) :
    isAscending rest = true ∧ range.1 ≤ range.2 ∧ ∀ other ∈ rest, range.2 < other.1 := by
  simp only [isAscending, Bool.and_eq_true, Nat.ble_eq] at h
  exact ⟨h.2, h.1.1, lt_of_head? h.2 h.1.2⟩

theorem Ranges.isAscending_dropWhile {ranges : Ranges} (h : isAscending ranges = true)
    (p : Nat × Nat → Bool) : isAscending (ranges.dropWhile p) = true := by
  induction ranges with
  | nil => rfl
  | cons range rest ih =>
    rw [List.dropWhile_cons]
    split
    · exact ih (isAscending_cons h).1
    · exact h

theorem Ranges.contains_of_mem {ranges : Ranges} (hascending : isAscending ranges = true)
    {range : Nat × Nat} (h : range ∈ ranges) {n : Nat} (hfirst : range.1 ≤ n)
    (hlast : n ≤ range.2) : ranges.contains n = true := by
  induction ranges with
  | nil => cases h
  | cons head rest ih =>
    obtain ⟨hrest, hbounds, hlater⟩ := isAscending_cons hascending
    simp only [contains, Bool.and_eq_true, Bool.or_eq_true, decide_eq_true_eq]
    rcases List.mem_cons.mp h with rfl | hmem
    · exact ⟨hfirst, Or.inl hlast⟩
    · have hafter := hlater range hmem
      exact ⟨by omega, Or.inr (ih hrest hmem)⟩

/-- Whether no range of the one meets a range of the other. -/
def Ranges.apart : Ranges → Ranges → Bool
  | [], _ => true
  | (first, last) :: rest, others =>
    let ahead := others.dropWhile fun other => Nat.blt other.2 first
    ahead.head?.all (fun other => Nat.blt last other.1) && apart rest ahead

theorem Ranges.lt_or_lt_of_apart {ranges others : Ranges} (hranges : isAscending ranges = true)
    (hothers : isAscending others = true) (h : apart ranges others = true) :
    ∀ range ∈ ranges, ∀ other ∈ others, range.2 < other.1 ∨ other.2 < range.1 := by
  induction ranges generalizing others with
  | nil => simp
  | cons head rest ih =>
    obtain ⟨hrest, hbounds, hlater⟩ := isAscending_cons hranges
    rw [apart, Bool.and_eq_true] at h
    have hahead := isAscending_dropWhile hothers fun other => Nat.blt other.2 head.1
    intro range hrange other hother
    rw [← List.takeWhile_append_dropWhile (l := others) (p := fun other => Nat.blt other.2 head.1),
      List.mem_append] at hother
    rcases hother with hbefore | hother
    · have hlt := List.all_eq_true.mp List.all_takeWhile other hbefore
      rw [Nat.blt_eq] at hlt
      rcases List.mem_cons.mp hrange with rfl | hmem
      · exact Or.inr hlt
      · have hafter := hlater range hmem
        exact Or.inr (by omega)
    · rcases List.mem_cons.mp hrange with rfl | hmem
      · exact Or.inl (lt_of_head? hahead h.1 other hother)
      · exact ih hrest hahead h.2 range hmem other hother

theorem Ranges.not_contains_of_apart {ranges others : Ranges} (hranges : isAscending ranges = true)
    (hothers : isAscending others = true) (h : apart ranges others = true) {n : Nat}
    (hn : ranges.contains n = true) : others.contains n = false := by
  obtain ⟨range, hrange, hfirst, hlast⟩ := exists_of_contains hn
  by_contra hcontains
  obtain ⟨other, hother, hotherFirst, hotherLast⟩ :=
    exists_of_contains (eq_true_of_ne_false hcontains)
  have hmeet := lt_or_lt_of_apart hranges hothers h range hrange other hother
  omega

/-- Whether every range of the other lies within a range of the one. -/
def Ranges.coverAll : Ranges → Ranges → Bool
  | [], others => others.isEmpty
  | (first, last) :: rest, others =>
    coverAll rest (others.dropWhile fun other => Nat.ble first other.1 && Nat.ble other.2 last)

theorem Ranges.exists_of_coverAll {ranges others : Ranges} (h : coverAll ranges others = true) :
    ∀ other ∈ others, ∃ range ∈ ranges, range.1 ≤ other.1 ∧ other.2 ≤ range.2 := by
  induction ranges generalizing others with
  | nil =>
    intro other hother
    rw [List.isEmpty_iff.mp h] at hother
    cases hother
  | cons head rest ih =>
    intro other hother
    rw [← List.takeWhile_append_dropWhile (l := others)
      (p := fun other => Nat.ble head.1 other.1 && Nat.ble other.2 head.2), List.mem_append] at hother
    rcases hother with hwithin | hleft
    · have hbounds := List.all_eq_true.mp List.all_takeWhile other hwithin
      simp only [Bool.and_eq_true, Nat.ble_eq] at hbounds
      exact ⟨head, List.mem_cons_self, hbounds⟩
    · obtain ⟨range, hrange, hbounds⟩ := ih h other hleft
      exact ⟨range, List.mem_cons_of_mem _ hrange, hbounds⟩

theorem Ranges.contains_of_coverAll {ranges others : Ranges} (hranges : isAscending ranges = true)
    (h : coverAll ranges others = true) {n : Nat} (hn : others.contains n = true) :
    ranges.contains n = true := by
  obtain ⟨other, hother, hfirst, hlast⟩ := exists_of_contains hn
  obtain ⟨range, hrange, hbounds⟩ := exists_of_coverAll h other hother
  exact contains_of_mem hranges hrange (by omega) (by omega)

/-! ## Rows -/

/-- A row that takes characters to characters: none of the gap that Unicode leaves is met. -/
def CaseRow.isValid (row : CaseRow) : Bool :=
  (0 ≤ row.first + row.shift && row.last + row.shift < 0xD800) ||
    (0xE000 ≤ row.first + row.shift && row.last + row.shift < 0x110000)

def CaseRow.image (row : CaseRow) (c : Char) : Char := Char.ofNat (c.toNat + row.shift).toNat

/-- The character is one of those that the row moves. -/
structure CaseRow.Holds (row : CaseRow) (c : Char) : Prop where
  first_le : row.first ≤ c.toNat
  le_last : c.toNat ≤ row.last
  on_step : (c.toNat - row.first) % row.step = 0

def CaseRow.points (row : CaseRow) : List Nat :=
  List.range' row.first ((row.last - row.first) / row.step + 1) row.step

theorem CaseRow.Holds.mem_points {row : CaseRow} {c : Char} (h : row.Holds c) :
    c.toNat ∈ row.points := by
  have hfirst := h.first_le
  have hlast := h.le_last
  have hsteps := Nat.div_add_mod (c.toNat - row.first) row.step
  rw [h.on_step] at hsteps
  have hle : (c.toNat - row.first) / row.step ≤ (row.last - row.first) / row.step :=
    Nat.div_le_div_right (by omega)
  exact List.mem_range'.mpr ⟨(c.toNat - row.first) / row.step, by omega, by omega⟩

theorem CaseRow.Holds.toNat_image {row : CaseRow} {c : Char} (h : row.Holds c)
    (hvalid : row.isValid = true) : ((row.image c).toNat : Int) = c.toNat + row.shift := by
  have hfirst := h.first_le
  have hlast := h.le_last
  simp only [isValid, Bool.or_eq_true, Bool.and_eq_true, decide_eq_true_eq] at hvalid
  have hchar : (c.toNat + row.shift).toNat.isValidChar := by
    rcases hvalid with ⟨hlow, hhigh⟩ | ⟨hlow, hhigh⟩
    · exact Or.inl (by omega)
    · exact Or.inr ⟨by omega, by omega⟩
  rw [image, toNat_ofNat_of_valid hchar]
  omega

theorem CaseRow.shift?_eq_some {row : CaseRow} {c : Char} {m : Nat}
    (h : row.shift? c.toNat = some m) : row.Holds c ∧ Char.ofNat m = row.image c := by
  unfold shift? at h
  split at h
  · rename_i hin
    simp only [Bool.and_eq_true, decide_eq_true_eq, beq_iff_eq] at hin
    obtain ⟨⟨hfirst, hlast⟩, hstep⟩ := hin
    exact ⟨⟨hfirst, hlast, hstep⟩, by rw [image, Option.some.inj h]⟩
  · cases h

theorem mapCase_cases (rows : List CaseRow) (expansions : List (Nat × List Nat)) (c : Char) :
    mapCase rows expansions c = [c] ∨
      (∃ ns, (c.toNat, ns) ∈ expansions ∧ mapCase rows expansions c = ns.map Char.ofNat) ∨
      ∃ row ∈ rows, row.Holds c ∧ mapCase rows expansions c = [row.image c] := by
  unfold mapCase
  cases hlook : expansions.lookup c.toNat with
  | some ns =>
    obtain ⟨before, after, hsplit, -⟩ := List.lookup_eq_some_iff.mp hlook
    exact Or.inr (Or.inl ⟨ns, by simp [hsplit], rfl⟩)
  | none =>
    cases hshift : rows.findSome? (·.shift? c.toNat) with
    | some m =>
      obtain ⟨row, hrow, hm⟩ := List.exists_of_findSome?_eq_some hshift
      obtain ⟨hholds, himage⟩ := CaseRow.shift?_eq_some hm
      exact Or.inr (Or.inr ⟨row, hrow, hholds, congrArg (fun d => [d]) himage⟩)
    | none => exact Or.inl rfl

/-- What holds of a character, of its expansion and of its images holds of all that it is mapped to.
-/
theorem forall_mem_mapCase {P : Char → Prop} {rows : List CaseRow}
    {expansions : List (Nat × List Nat)} {c : Char} (hsame : P c)
    (hexpansions : ∀ ns, (c.toNat, ns) ∈ expansions → ∀ n ∈ ns, P (Char.ofNat n))
    (hrows : ∀ row ∈ rows, row.Holds c → P (row.image c)) :
    ∀ d ∈ mapCase rows expansions c, P d := by
  rcases mapCase_cases rows expansions c with h | ⟨ns, hns, h⟩ | ⟨row, hrow, hholds, h⟩
  · rw [h]
    exact List.forall_mem_singleton.mpr hsame
  · rw [h, List.forall_mem_map]
    exact hexpansions ns hns
  · rw [h]
    exact List.forall_mem_singleton.mpr (hrows row hrow hholds)

theorem forall_mem_lowerFrom {P : Char → Prop} (hsigma : P 'ς' ∧ P 'σ') {s : List Char}
    (hs : ∀ c ∈ s, ∀ d ∈ lowerChar c, P d) (afterCased : Bool) :
    ∀ d ∈ lowerFrom afterCased s, P d := by
  induction s generalizing afterCased with
  | nil => simp [lowerFrom]
  | cons c rest ih =>
    obtain ⟨hc, hrest⟩ := List.forall_mem_cons.mp hs
    refine List.forall_mem_append.mpr ⟨?_, ih hrest _⟩
    split
    · split
      · exact List.forall_mem_singleton.mpr hsigma.1
      · exact List.forall_mem_singleton.mpr hsigma.2
    · exact hc

theorem caseRows_valid :
    upperRows.all CaseRow.isValid = true ∧ lowerRows.all CaseRow.isValid = true := by
  decide +kernel

/-! ## Capitals -/

/-- Whether a row gives no small letter of ASCII. -/
def CaseRow.givesNoSmall (row : CaseRow) : Bool :=
  row.last + row.shift < 97 || 122 < row.first + row.shift

theorem upperTables_giveNoSmall :
    upperRows.all CaseRow.givesNoSmall = true ∧
      (upperExpansions.all fun (_, ns) =>
        !ns.isEmpty && ns.all fun n => !isSmall (Char.ofNat n)) = true := by
  decide +kernel

theorem toUpper_not_small : ∀ n < 128, isSmall (Char.ofNat n).toUpper = false := by decide

theorem isSmall_iff (c : Char) : isSmall c = true ↔ 97 ≤ c.toNat ∧ c.toNat ≤ 122 := by
  simp only [isSmall, Bool.and_eq_true, decide_eq_true_eq]
  exact Iff.rfl

theorem upperChar_capital (c : Char) :
    upperChar c ≠ [] ∧ ∀ d ∈ upperChar c, isSmall d = false := by
  unfold upperChar
  split
  · rename_i hascii
    obtain ⟨n, hn, rfl⟩ := exists_ascii hascii
    simpa using toUpper_not_small n hn
  · rename_i hbeyond
    have hsmall {d : Char} (h : ¬(97 ≤ d.toNat ∧ d.toNat ≤ 122)) : isSmall d = false := by
      rw [Bool.eq_false_iff, ne_eq, isSmall_iff]
      exact h
    -- beyond ASCII a character stays, or has an expansion, or is moved by a row
    rcases mapCase_cases upperRows upperExpansions c with h | ⟨ns, hmem, h⟩ | ⟨row, hrow, hc, h⟩
    · have := hsmall (d := c) (by omega)
      simpa [h] using this
    · have hns := List.all_eq_true.mp upperTables_giveNoSmall.2 _ hmem
      simp only [Bool.and_eq_true, Bool.not_eq_true', List.isEmpty_eq_false_iff,
        List.all_eq_true] at hns
      simpa [h] using hns
    · have himage := hc.toNat_image (List.all_eq_true.mp caseRows_valid.1 row hrow)
      have hgives := List.all_eq_true.mp upperTables_giveNoSmall.1 row hrow
      have hfirst := hc.first_le
      have hlast := hc.le_last
      simp only [CaseRow.givesNoSmall, Bool.or_eq_true, decide_eq_true_eq] at hgives
      have := hsmall (d := row.image c) (by omega)
      simpa [h] using this

end RecordTypes

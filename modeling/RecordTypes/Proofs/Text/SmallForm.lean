import RecordTypes.Proofs.Text.NameChar

/-! Small forms. What comes out when a text is put in small letters stays as it is when that is done
again, and the names of properties are made of such characters alone. -/

namespace RecordTypes

/-- The character is its own small form. -/
def IsSmallForm (c : Char) : Prop := lowerChar c = [c]

instance (c : Char) : Decidable (IsSmallForm c) := inferInstanceAs (Decidable (_ = _))

def AreSmallForms (s : List Char) : Prop := ∀ c ∈ s, IsSmallForm c

-- Characters are many, so that the text is gone through and not all of them.
instance (s : List Char) : Decidable (AreSmallForms s) :=
  decidable_of_iff ((s.all fun c => decide (IsSmallForm c)) = true)
    (by simp [AreSmallForms, List.all_eq_true])

/-! ## Small forms of characters -/

/-- Whether another row moves none of the characters that the row gives. Only where their ranges
meet are these looked at one by one. -/
def CaseRow.isLeftAlone (row other : CaseRow) : Bool :=
  Nat.blt (row.last + row.shift).toNat other.first ||
    Nat.blt other.last (row.first + row.shift).toNat ||
    row.points.all fun n => (other.shift? (n + row.shift).toNat).isNone

theorem lowerRows_leftAlone :
    (lowerRows.all fun row => lowerRows.all row.isLeftAlone) = true := by
  decide +kernel

theorem CaseRow.Holds.shift?_image {row : CaseRow} {c : Char} (h : row.Holds c)
    (hvalid : row.isValid = true) {other : CaseRow} (halone : row.isLeftAlone other = true) :
    other.shift? (row.image c).toNat = none := by
  have himage := h.toNat_image hvalid
  have hfirst := h.first_le
  have hlast := h.le_last
  have hoff : other.last < (row.image c).toNat ∨ (row.image c).toNat < other.first →
      other.shift? (row.image c).toNat = none := by
    intro hout
    rw [shift?, if_neg]
    simp only [Bool.and_eq_true, decide_eq_true_eq]
    omega
  simp only [isLeftAlone, Bool.or_eq_true, Nat.blt_eq] at halone
  rcases halone with (hbefore | hafter) | hpoints
  · exact hoff (.inr (by omega))
  · exact hoff (.inl (by omega))
  · have hpoint := List.all_eq_true.mp hpoints _ h.mem_points
    rwa [Option.isNone_iff_eq_none, show (c.toNat + row.shift).toNat = (row.image c).toNat by omega]
      at hpoint

theorem lowerExpansions_leftAlone :
    (lowerRows.all fun row => Nat.blt (row.last + row.shift).toNat 0x130 ||
      Nat.blt 0x130 (row.first + row.shift).toNat ||
      row.points.all fun n => (n + row.shift).toNat != 0x130) = true := by
  decide +kernel

theorem CaseRow.Holds.lookup_image {row : CaseRow} {c : Char} (h : row.Holds c)
    (hrow : row ∈ lowerRows) : lowerExpansions.lookup (row.image c).toNat = none := by
  have himage := h.toNat_image (List.all_eq_true.mp caseRows_valid.2 row hrow)
  have hfirst := h.first_le
  have hlast := h.le_last
  have hne : (row.image c).toNat ≠ 0x130 := by
    have halone := List.all_eq_true.mp lowerExpansions_leftAlone row hrow
    simp only [Bool.or_eq_true, Nat.blt_eq] at halone
    rcases halone with (hbefore | hafter) | hpoints
    · omega
    · omega
    · have hpoint := List.all_eq_true.mp hpoints _ h.mem_points
      rwa [bne_iff_ne, show (c.toNat + row.shift).toNat = (row.image c).toNat by omega] at hpoint
  simp [lowerExpansions, hne]

theorem toLower_of_unmoved : ∀ n < 128, (⟨0x41, 0x5A, 1, 32⟩ : CaseRow).shift? n = none →
    (Char.ofNat n).toLower = Char.ofNat n := by
  decide +kernel

theorem isSmallForm_of_unmoved {c : Char} (hlookup : lowerExpansions.lookup c.toNat = none)
    (hrows : ∀ row ∈ lowerRows, row.shift? c.toNat = none) : IsSmallForm c := by
  unfold IsSmallForm lowerChar
  split
  · rename_i hascii
    have hlower := toLower_of_unmoved c.toNat hascii (hrows _ List.mem_cons_self)
    rw [Char.ofNat_toNat] at hlower
    rw [hlower]
  · have hnone := List.findSome?_eq_none_iff.mpr hrows
    simp only [mapCase, hlookup, hnone]

theorem isSmallForm_toLower : ∀ n < 128, IsSmallForm (Char.ofNat n).toLower := by
  decide +kernel

theorem isSmallForm_expansions :
    ∀ p ∈ lowerExpansions, ∀ n ∈ p.2, IsSmallForm (Char.ofNat n) := by
  decide +kernel

theorem isSmallForm_of_mem_lowerChar {c d : Char} (h : d ∈ lowerChar c) : IsSmallForm d := by
  by_cases hascii : c.toNat < 128
  · rw [lowerChar, if_pos hascii] at h
    obtain ⟨n, hn, rfl⟩ := exists_ascii hascii
    rw [List.mem_singleton.mp h]
    exact isSmallForm_toLower n hn
  · rw [lowerChar, if_neg hascii] at h
    rcases mapCase_cases lowerRows lowerExpansions c with
      hc | ⟨ns, hns, hc⟩ | ⟨row, hrow, hholds, hc⟩
    · rw [hc, List.mem_singleton] at h
      rw [h, IsSmallForm, lowerChar, if_neg hascii, hc]
    · rw [hc] at h
      obtain ⟨n, hn, rfl⟩ := List.mem_map.mp h
      exact isSmallForm_expansions _ hns n hn
    · rw [hc, List.mem_singleton] at h
      have hvalid := List.all_eq_true.mp caseRows_valid.2 row hrow
      have halone := List.all_eq_true.mp
        (List.all_eq_true.mp lowerRows_leftAlone row hrow)
      rw [h]
      exact isSmallForm_of_unmoved (hholds.lookup_image hrow)
        fun other hother => hholds.shift?_image hvalid (halone other hother)

/-! ## Small forms of texts -/

theorem areSmallForms_lowerFrom (s : List Char) (afterCased : Bool) :
    AreSmallForms (lowerFrom afterCased s) := by
  have hsigma : IsSmallForm 'ς' ∧ IsSmallForm 'σ' := by decide +kernel
  exact forall_mem_lowerFrom hsigma (fun c _ d => isSmallForm_of_mem_lowerChar) afterCased

theorem areSmallForms_propertyName (s : List Char) : AreSmallForms (propertyName s) := by
  have hfield : AreSmallForms "field_".toList := by decide
  have htrimmed : AreSmallForms ['n', '_'] := by decide
  intro c hc
  rcases mem_unreserved hc with h | h
  · exact hfield c h
  · rcases mem_trimmedName h with h | h
    · exact htrimmed c h
    · exact areSmallForms_lowerFrom _ _ c h

end RecordTypes

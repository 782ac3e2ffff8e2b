import Mathlib
import RecordTypes.Json.ToText
import RecordTypes.Json.Token

/-! Words that stand for numbers, and what is read from them: a whole number is read from its
digits, and an infinite one from its name. -/

namespace RecordTypes

/-! ## Words -/

/-- Nothing in a text ends a word. -/
def IsBare (s : List Char) : Prop := ∀ c ∈ s, isBareChar c = true

theorem isBareChar_of_isDigit {c : Char} (h : c.isDigit = true) : isBareChar c = true := by
  simp [isBareChar, Char.isAlphanum, h]

/-- What stands before the rest of a text does not end a word. -/
def BareBefore (s rest : List Char) : Prop := ∃ taken, s = taken ++ rest ∧ IsBare taken

theorem BareBefore.refl (s : List Char) : BareBefore s s := ⟨[], rfl, nofun⟩

theorem BareBefore.cons {c : Char} (hc : isBareChar c = true) {s rest : List Char}
    (h : BareBefore s rest) : BareBefore (c :: s) rest := by
  obtain ⟨taken, rfl, htaken⟩ := h
  exact ⟨c :: taken, rfl, List.forall_mem_cons.mpr ⟨hc, htaken⟩⟩

theorem BareBefore.trans {s t rest : List Char} (h : BareBefore s t) (h' : BareBefore t rest) :
    BareBefore s rest := by
  obtain ⟨taken, rfl, htaken⟩ := h
  obtain ⟨taken', rfl, htaken'⟩ := h'
  exact ⟨taken ++ taken', (List.append_assoc ..).symm,
    List.forall_mem_append.mpr ⟨htaken, htaken'⟩⟩

theorem BareBefore.isBare {s : List Char} (h : BareBefore s []) : IsBare s := by
  obtain ⟨taken, rfl, htaken⟩ := h
  rwa [List.append_nil]

/-! ## The parts of a numeral -/

theorem bareBefore_someDigits {s digits rest : List Char}
    (h : someDigits? s = some (digits, rest)) : BareBefore s rest := by
  unfold someDigits? at h
  dsimp only at h
  split at h
  · cases h
  · cases h
    exact ⟨s.takeWhile Char.isDigit, (List.takeWhile_append_dropWhile ..).symm,
      fun c hc => isBareChar_of_isDigit (List.mem_takeWhile_imp hc)⟩

theorem bareBefore_wholePart {s digits rest : List Char}
    (h : wholePart? s = some (digits, rest)) : BareBefore s rest := by
  unfold wholePart? at h
  split at h
  · cases h
    exact (BareBefore.refl rest).cons (by decide)
  · exact bareBefore_someDigits h

theorem bareBefore_fractionPart {s digits rest : List Char}
    (h : fractionPart? s = some (digits, rest)) : BareBefore s rest := by
  unfold fractionPart? at h
  split at h
  · exact (bareBefore_someDigits h).cons (by decide)
  · cases h
    exact BareBefore.refl s

theorem bareBefore_exponentPart {s rest : List Char} {exponent : Int}
    (h : exponentPart? s = some (exponent, rest)) : BareBefore s rest := by
  have hmap {digits : List Char} {value : List Char × List Char → Int × List Char}
      (hvalue : ∀ p, (value p).2 = p.2)
      (h : (someDigits? digits).map value = some (exponent, rest)) : BareBefore digits rest := by
    obtain ⟨p, hp, heq⟩ := Option.map_eq_some_iff.mp h
    have hrest : p.2 = rest := by rw [← hvalue p, heq]
    exact hrest ▸ bareBefore_someDigits hp
  unfold exponentPart? at h
  split at h
  · cases h
    exact BareBefore.refl []
  · split at h
    · rename_i c rest' hletter
      have hc : isBareChar c = true := by
        rcases Bool.or_eq_true_iff.mp hletter with hc | hc <;> rw [beq_iff_eq.mp hc] <;> decide
      refine BareBefore.cons hc ?_
      split at h
      · exact (hmap (fun _ => rfl) h).cons (by decide)
      · exact (hmap (fun _ => rfl) h).cons (by decide)
      · exact hmap (fun _ => rfl) h
    · cases h
      exact BareBefore.refl _

theorem isBare_of_numeral {s : List Char} {value : Json} (h : numeral? s = some value) :
    IsBare s := by
  obtain ⟨⟨whole, afterWhole⟩, hwhole, h⟩ := Option.bind_eq_some_iff.mp h
  have hsign : BareBefore s (if s.head? == some '-' then s.drop 1 else s) := by
    split
    · cases s with
      | nil => exact BareBefore.refl []
      | cons c s =>
        rename_i hc
        obtain rfl : c = '-' := by simpa using hc
        exact (BareBefore.refl s).cons (by decide)
    · exact BareBefore.refl s
  have hbefore : BareBefore s afterWhole := hsign.trans (bareBefore_wholePart hwhole)
  dsimp only at h
  split at h
  · rename_i hempty
    rw [List.isEmpty_iff.mp hempty] at hbefore
    exact hbefore.isBare
  · obtain ⟨⟨fraction, afterFraction⟩, hfraction, h⟩ := Option.bind_eq_some_iff.mp h
    obtain ⟨⟨exponent, rest⟩, hexponent, h⟩ := Option.bind_eq_some_iff.mp h
    dsimp only at hexponent h
    split at h
    · rename_i hempty
      rw [List.isEmpty_iff.mp hempty] at hexponent
      exact (hbefore.trans ((bareBefore_fractionPart hfraction).trans
        (bareBefore_exponentPart hexponent))).isBare
    · cases h

/-! ## Whole numbers -/

theorem digitsValue_toDigits (n : Nat) : digitsValue (Nat.toDigits 10 n) = n :=
  Nat.ofDigitChars_eq_foldl.symm.trans Nat.ofDigitChars_ten_toDigits

theorem isDigit_of_mem_digits {n : Nat} {c : Char} (h : c ∈ Nat.toDigits 10 n) :
    c.isDigit = true :=
  Nat.isDigit_of_mem_toDigits (by decide) (by decide) h

theorem head?_toDigits_ne {n : Nat} (h : 0 < n) : (Nat.toDigits 10 n).head? ≠ some '0' := by
  induction n using Nat.strong_induction_on with
  | _ n ih =>
    by_cases hn : n < 10
    · rw [Nat.toDigits_of_lt_base hn]
      simpa using Nat.pos_iff_ne_zero.mp h
    · rw [Nat.toDigits_of_base_le (by decide) (Nat.le_of_not_lt hn),
        List.head?_append_of_ne_nil _ Nat.toDigits_ne_nil]
      exact ih (n / 10) (by omega) (by omega)

theorem wholePart_toDigits (n : Nat) :
    wholePart? (Nat.toDigits 10 n) = some (Nat.toDigits 10 n, []) := by
  rcases Nat.eq_zero_or_pos n with rfl | hn
  · rfl
  · have hall : ∀ c ∈ Nat.toDigits 10 n, c.isDigit = true := fun c => isDigit_of_mem_digits
    have hsome : someDigits? (Nat.toDigits 10 n) = some (Nat.toDigits 10 n, []) := by
      simp only [someDigits?, List.takeWhile_eq_self_iff.mpr hall,
        List.dropWhile_eq_nil_iff.mpr hall, List.isEmpty_iff, Nat.toDigits_ne_nil, if_false]
    unfold wholePart?
    split
    · rename_i rest hzero
      refine absurd ?_ (head?_toDigits_ne hn)
      rw [hzero]
      rfl
    · exact hsome

section
variable {n : Nat} (h : (Nat.toDigits 10 n).length ≤ digitLimit)
include h

theorem numeral_digits : numeral? (Nat.toDigits 10 n) = some (.int n) := by
  have hminus : (Nat.toDigits 10 n).head? ≠ some '-' := by
    intro hhead
    have hdigit := isDigit_of_mem_digits (List.mem_of_mem_head? hhead)
    revert hdigit
    decide
  simp [numeral?, hminus, wholePart_toDigits, h, digitsValue_toDigits]

theorem numeral_minus_digits : numeral? ('-' :: Nat.toDigits 10 n) = some (.int (-n)) := by
  simp [numeral?, wholePart_toDigits, h, digitsValue_toDigits]

end

theorem numeral_intText {n : Int} (h : (Nat.toDigits 10 n.natAbs).length ≤ digitLimit) :
    numeral? (intText n) = some (.int n) := by
  by_cases hn : n < 0
  · have hvalue : -(n.natAbs : Int) = n := by omega
    rw [intText, if_pos hn, numeral_minus_digits h, hvalue]
  · have hvalue : (n.natAbs : Int) = n := by omega
    rw [intText, if_neg hn, numeral_digits h, hvalue]

/-! ## Words with a value -/

theorem wordValue_of_numeral {s : List Char} {value : Json} (h : numeral? s = some value) :
    wordValue? s = some value := by
  have hne {name : List Char} (hname : numeral? name = none) : ¬ (s == name) = true := by
    intro heq
    rw [beq_iff_eq.mp heq, hname] at h
    cases h
  unfold wordValue?
  rw [if_neg (hne (by rfl)), if_neg (hne (by rfl)), if_neg (hne (by rfl)), if_neg (hne (by rfl)),
    if_neg (hne (by rfl)), if_neg (hne (by rfl)), h]

theorem isBare_of_wordValue {s : List Char} {value : Json} (h : wordValue? s = some value) :
    IsBare s := by
  have hname {name : List Char} (heq : (s == name) = true)
      (hbare : name.all isBareChar = true) : IsBare s := by
    rw [beq_iff_eq.mp heq]
    exact List.all_eq_true.mp hbare
  unfold wordValue? at h
  split at h
  · exact hname ‹_› rfl
  split at h
  · exact hname ‹_› rfl
  split at h
  · exact hname ‹_› rfl
  split at h
  · exact hname ‹_› rfl
  split at h
  · exact hname ‹_› rfl
  split at h
  · exact hname ‹_› rfl
  · exact isBare_of_numeral h

/-! ## Infinite values -/

theorem eq_of_unpack_eq {x y : Float} (h : x.toModel.unpack = y.toModel.unpack) : x = y := by
  have hbits := (Float.Model.UnpackedFloat.unpack_inj_of_valid x.toModel.valid y.toModel.valid).mp h
  exact Float.toBits_inj.mp (UInt64.toBitVec_inj.mp hbits)

theorem eq_infinity_of_isInf {x : Float} (h : x.isInf = true) :
    x = 1.0 / 0.0 ∨ x = -1.0 / 0.0 := by
  have hinf : x.toModel.unpack.isInf = true := h
  cases hx : x.toModel.unpack with
  | infinity sign =>
    cases sign with
    | positive => exact Or.inl (eq_of_unpack_eq hx)
    | negative => exact Or.inr (eq_of_unpack_eq hx)
  | _ =>
    rw [hx] at hinf
    cases hinf

theorem wordValue_of_isInf {x : Float} (h : x.isInf = true) :
    wordValue? (jsonFloatText x) = some (.float x) := by
  rcases eq_infinity_of_isInf h with rfl | rfl
  · have htext : jsonFloatText (1.0 / 0.0) = "Infinity".toList := by
      rw [jsonFloatText, if_neg (by decide), if_pos (by decide), if_neg (by decide)]
    rw [htext]
    rfl
  · have htext : jsonFloatText (-1.0 / 0.0) = "-Infinity".toList := by
      rw [jsonFloatText, if_neg (by decide), if_pos (by decide), if_pos (by decide)]
    rw [htext]
    rfl

/-! ## Fractions -/

/-- The shortest decimal of a finite value is read as that value. -/
def ReadsBack (x : Float) : Prop := x.isInf = false → numeral? (finiteText x) = some (.float x)

theorem wordValue_jsonFloatText {x : Float} (hnan : x.isNaN = false) (h : ReadsBack x) :
    wordValue? (jsonFloatText x) = some (.float x) := by
  cases hinf : x.isInf with
  | true => exact wordValue_of_isInf hinf
  | false =>
    have htext : jsonFloatText x = finiteText x := by
      simp only [jsonFloatText, hnan, hinf, Bool.false_eq_true, if_false]
    rw [htext]
    exact wordValue_of_numeral (h hinf)

end RecordTypes

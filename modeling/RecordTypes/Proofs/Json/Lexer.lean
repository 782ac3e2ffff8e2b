import RecordTypes.Proofs.Json.Numeral
import RecordTypes.Proofs.Text.Literal

/-! Tokens of texts that are put together from parts. A part that begins with no letter or digit
ends the word before it, so its tokens follow those of what stands before. -/

namespace RecordTypes

namespace LexState

theorem tokens_cons_of_next {state : LexState} {c : Char} (later : LexState) (rest : List Char)
    (h : state.next c = some (later, [])) : state.tokens (c :: rest) = later.tokens rest := by
  rw [tokens, h]
  cases hlater : later.tokens rest <;> simp [hlater]

theorem tokens_append_of_ends {state : LexState} {s t : List Char} {found later : List Token}
    (h : state.tokens s = some found) (ht : between.tokens t = some later)
    (hends : ∀ c ∈ t.head?, isBareChar c = false) :
    state.tokens (s ++ t) = some (found ++ later) := by
  induction s generalizing state found with
  | nil =>
    cases state with
    | between =>
      cases h
      exact ht
    | word read =>
      -- the word is still open, and what comes next ends it as the end of the text did
      obtain ⟨value, hvalue, rfl⟩ := Option.map_eq_some_iff.mp h
      cases t with
      | nil =>
        cases ht
        exact h
      | cons c t =>
        have hbare : isBareChar c = false := hends c rfl
        obtain ⟨⟨next, first⟩, hnext, ht⟩ := Option.bind_eq_some_iff.mp ht
        obtain ⟨more, hmore, ht⟩ := Option.bind_eq_some_iff.mp ht
        cases ht
        have hc : inBetween c = some (next, first) := hnext
        simp [tokens, LexState.next, hbare, hvalue, hc, hmore]
    | _ => cases h
  | cons c s ih =>
    obtain ⟨⟨next, first⟩, hnext, h⟩ := Option.bind_eq_some_iff.mp h
    obtain ⟨more, hmore, h⟩ := Option.bind_eq_some_iff.mp h
    cases h
    rw [List.cons_append, tokens, hnext]
    simp [ih hmore]

/-! ## Strings -/

theorem hexValue_hexDigit : ∀ d < 16, hexValue? (hexDigit d) = some d := by decide

theorem next_code {d left : Nat} (hd : d < 16) (hleft : 1 < left) (read : List Char)
    (high : Option Nat) (unit : Nat) :
    (code read high unit left).next (hexDigit d) =
      some (code read high (16 * unit + d) (left - 1), []) := by
  simp [next, hexValue_hexDigit d hd, Nat.not_le_of_lt hleft]

theorem next_code_last {d : Nat} (hd : d < 16) (read : List Char) (high : Option Nat)
    (unit : Nat) :
    (code read high unit 1).next (hexDigit d) =
      some (afterUnit read high (16 * unit + d), []) := by
  simp [next, hexValue_hexDigit d hd]

theorem tokens_hexQuad (read : List Char) (high : Option Nat) {unit : Nat} (h : unit < 0x10000)
    (rest : List Char) :
    (code read high 0 4).tokens (hexQuad unit ++ rest) =
      (afterUnit read high unit).tokens rest := by
  have hmod (n : Nat) : n % 16 < 16 := Nat.mod_lt _ (by decide)
  have hunit : 16 * (16 * (16 * (16 * 0 + unit / 4096 % 16) + unit / 256 % 16) + unit / 16 % 16) +
      unit % 16 = unit := by omega
  change (code read high 0 4).tokens (_ :: _ :: _ :: _ :: rest) = _
  rw [tokens_cons_of_next _ _ (next_code (hmod _) (by decide) ..),
    tokens_cons_of_next _ _ (next_code (hmod _) (by decide) ..),
    tokens_cons_of_next _ _ (next_code (hmod _) (by decide) ..),
    tokens_cons_of_next _ _ (next_code_last (hmod _) ..), hunit]

theorem tokens_unicodeEscape {state escaped : LexState} {read : List Char} {high : Option Nat}
    {unit : Nat} (hstate : state.next backslash = some (escaped, []))
    (hescaped : escaped.next 'u' = some (code read high 0 4, [])) (h : unit < 0x10000)
    (rest : List Char) :
    state.tokens (unicodeEscape unit ++ rest) = (afterUnit read high unit).tokens rest := by
  change state.tokens (backslash :: 'u' :: (hexQuad unit ++ rest)) = _
  rw [tokens_cons_of_next _ _ hstate, tokens_cons_of_next _ _ hescaped, tokens_hexQuad _ _ h]

theorem next_escapeLetter (read : List Char) : ∀ p ∈ letterEscapes,
    (escape read).next p.2 = some (text (p.1 :: read), []) := by
  simp only [letterEscapes, List.forall_mem_cons]
  exact ⟨rfl, rfl, rfl, rfl, rfl, rfl, rfl, by simp⟩

theorem tokens_escapeLetter {c letter : Char} (h : escapeLetter? c = some letter)
    (read rest : List Char) :
    (text read).tokens (backslash :: letter :: rest) = (text (c :: read)).tokens rest := by
  rw [tokens_cons_of_next (escape read) _ rfl]
  exact tokens_cons_of_next _ rest (next_escapeLetter read _ (mem_letterEscapes h))

theorem isHigh_iff {unit : Nat} : isHigh unit = true ↔ 0xD800 ≤ unit ∧ unit < 0xDC00 := by
  simp [isHigh]

theorem isLow_iff {unit : Nat} : isLow unit = true ↔ 0xDC00 ≤ unit ∧ unit < 0xE000 := by
  simp [isLow]

theorem toNat_valid (c : Char) : c.toNat < 0xD800 ∨ 0xDFFF < c.toNat ∧ c.toNat < 0x110000 :=
  c.valid

theorem afterUnit_toNat (c : Char) (read : List Char) :
    afterUnit read none c.toNat = text (c :: read) := by
  have hvalid := toNat_valid c
  have hhigh : ¬ isHigh c.toNat = true := by
    rw [isHigh_iff]
    omega
  have hlow : ¬ isLow c.toNat = true := by
    rw [isLow_iff]
    omega
  simp [afterUnit, hhigh, hlow]

theorem tokens_surrogates {c : Char} (h : 0x10000 ≤ c.toNat) (read rest : List Char) :
    (text read).tokens (unicodeEscape (0xD800 + (c.toNat - 0x10000) / 0x400) ++
      (unicodeEscape (0xDC00 + (c.toNat - 0x10000) % 0x400) ++ rest)) =
      (text (c :: read)).tokens rest := by
  have hvalid := toNat_valid c
  obtain ⟨high, hhigh⟩ : ∃ n, n = 0xD800 + (c.toNat - 0x10000) / 0x400 := ⟨_, rfl⟩
  obtain ⟨low, hlow⟩ : ∃ n, n = 0xDC00 + (c.toNat - 0x10000) % 0x400 := ⟨_, rfl⟩
  have hisHigh : isHigh high = true := isHigh_iff.mpr (by omega)
  have hisLow : isLow low = true := isLow_iff.mpr (by omega)
  have hpair : surrogatePair high low = c := by
    have hvalue : 0x10000 + (high - 0xD800) * 0x400 + (low - 0xDC00) = c.toNat := by omega
    rw [surrogatePair, hvalue, Char.ofNat_toNat]
  rw [← hhigh, ← hlow]
  calc (text read).tokens (unicodeEscape high ++ (unicodeEscape low ++ rest))
    _ = (afterUnit read none high).tokens (unicodeEscape low ++ rest) :=
        tokens_unicodeEscape rfl rfl (by omega) _
    _ = (afterHigh read high).tokens (unicodeEscape low ++ rest) := by simp [afterUnit, hisHigh]
    _ = (afterUnit read (some high) low).tokens rest :=
        tokens_unicodeEscape rfl rfl (by omega) rest
    _ = (text (c :: read)).tokens rest := by simp [afterUnit, hisLow, hpair]

theorem tokens_asciiEscape (c : Char) (read rest : List Char) :
    (text read).tokens (asciiEscape c ++ rest) = (text (c :: read)).tokens rest := by
  unfold asciiEscape
  split
  · rename_i letter hletter
    exact tokens_escapeLetter hletter read rest
  · rename_i hletter
    dsimp only
    split
    · rename_i hplain
      have hquote : c ≠ quotationMark := by rintro rfl; cases hletter
      have hescape : c ≠ backslash := by rintro rfl; cases hletter
      have hcontrol : ¬ c.toNat < 0x20 := by
        simp only [Bool.and_eq_true, decide_eq_true_eq] at hplain
        omega
      exact tokens_cons_of_next _ rest (by simp [next, inText, hquote, hescape, hcontrol])
    · split
      · rename_i hshort
        rw [tokens_unicodeEscape rfl rfl hshort, afterUnit_toNat]
      · rename_i hlong
        rw [List.append_assoc]
        exact tokens_surrogates (Nat.le_of_not_lt hlong) read rest

theorem tokens_asciiEscapes (s read rest : List Char) :
    (text read).tokens (s.flatMap asciiEscape ++ rest) =
      (text (s.reverse ++ read)).tokens rest := by
  induction s generalizing read with
  | nil => rfl
  | cons c s ih =>
    rw [List.flatMap_cons, List.append_assoc, tokens_asciiEscape, ih, List.reverse_cons,
      List.append_assoc]
    rfl

end LexState

theorem tokens_asciiQuoted (s : String) : tokens (asciiQuoted s.toList) = some [.str s] := by
  rw [tokens, asciiQuoted, LexState.tokens_cons_of_next (.text []) _ rfl,
    LexState.tokens_asciiEscapes]
  simp [LexState.tokens, LexState.next, LexState.finish, inText]

/-! ## Words -/

theorem LexState.tokens_word {s : List Char} (h : IsBare s) (read : List Char) :
    (word read).tokens s = (wordValue? (read.reverse ++ s)).map fun value => [.scalar value] := by
  induction s generalizing read with
  | nil => rw [List.append_nil]; rfl
  | cons c s ih =>
    obtain ⟨hc, hs⟩ := List.forall_mem_cons.mp h
    rw [tokens_cons_of_next (word (c :: read)) s (by simp [next, hc]), ih hs,
      List.reverse_cons, List.append_assoc]
    rfl

theorem isBareChar_of_isJsonBlank {c : Char} (h : isJsonBlank c = true) :
    isBareChar c = false := by
  simp only [isJsonBlank, Bool.or_eq_true, beq_iff_eq] at h
  rcases h with ((rfl | rfl) | rfl) | rfl <;> decide

theorem next_of_bare {c : Char} (h : isBareChar c = true) :
    LexState.between.next c = some (.word [c], []) := by
  have hblank : isJsonBlank c = false := by
    by_contra hne
    rw [isBareChar_of_isJsonBlank (Bool.not_eq_false _ ▸ hne)] at h
    cases h
  have hquote : c ≠ quotationMark := by
    rintro rfl
    revert h
    decide
  simp [LexState.next, inBetween, hblank, hquote, h]

theorem tokens_of_wordValue {s : List Char} {value : Json} (h : wordValue? s = some value) :
    tokens s = some [.scalar value] := by
  have hbare := isBare_of_wordValue h
  cases s with
  | nil => cases h
  | cons c s =>
    obtain ⟨hc, hs⟩ := List.forall_mem_cons.mp hbare
    rw [tokens, LexState.tokens_cons_of_next _ s (next_of_bare hc), LexState.tokens_word hs]
    exact congrArg _ h

/-! ## Texts that end a word -/

theorem tokens_blanks {blanks : List Char} (hblanks : ∀ c ∈ blanks, isJsonBlank c = true)
    (s : List Char) : tokens (blanks ++ s) = tokens s := by
  induction blanks with
  | nil => rfl
  | cons c blanks ih =>
    obtain ⟨hc, hblanks⟩ := List.forall_mem_cons.mp hblanks
    have hnext : LexState.between.next c = some (.between, []) := by
      simp [LexState.next, inBetween, hc]
    exact (LexState.tokens_cons_of_next _ _ hnext).trans (ih hblanks)

/-- A text with its tokens, that begins with nothing a word could go on with. -/
structure Delimited (s : List Char) (found : List Token) : Prop where
  tokens_eq : tokens s = some found
  ends : ∀ c ∈ s.head?, isBareChar c = false

namespace Delimited

theorem cons {c : Char} {s : List Char} {first found : List Token}
    (hc : inBetween c = some (.between, first)) (h : tokens s = some found) :
    Delimited (c :: s) (first ++ found) where
  tokens_eq := by
    have hnext : LexState.between.next c = some (.between, first) := hc
    have hs : LexState.between.tokens s = some found := h
    simp [tokens, LexState.tokens, hnext, hs]
  ends := by
    rintro d ⟨⟩
    cases hd : isBareChar c with
    | false => rfl
    | true => cases hc.symm.trans (next_of_bare hd)

theorem blanks {blanks s : List Char} {found : List Token}
    (hblanks : ∀ c ∈ blanks, isJsonBlank c = true) (h : Delimited s found) :
    Delimited (blanks ++ s) found where
  tokens_eq := (tokens_blanks hblanks s).trans h.tokens_eq
  ends := by
    cases blanks with
    | nil => exact h.ends
    | cons c blanks =>
      rintro d ⟨⟩
      exact isBareChar_of_isJsonBlank (hblanks c List.mem_cons_self)

theorem tokens_append {s t : List Char} {first found : List Token} (ht : Delimited t found)
    (h : tokens s = some first) : tokens (s ++ t) = some (first ++ found) :=
  LexState.tokens_append_of_ends h ht.tokens_eq ht.ends

end Delimited

end RecordTypes

import RecordTypes.Proofs.Code.Property
import RecordTypes.Proofs.Text.OneLine
import RecordTypes.Proofs.Text.WordCut

/-! Names of properties for names in ASCII. These are small words with underscores in between, and
to make the name of a property from one of them once more changes nothing: what was put before or
after the words is taken for a word, or taken away and put back. -/

namespace RecordTypes

/-! ## Words joined by underscores -/

structure IsSmallWord (word : List Char) : Prop where
  nonempty : word ≠ []
  small : ∀ c ∈ word, isSmallOrDigit c = true

/-- The form `[a-z][a-z0-9]*(_[a-z0-9]+)*_?`. -/
def IsSnakeName (s : List Char) : Prop :=
  ∃ (front : Char) (rest : List Char) (later : List (List Char)) (closing : List Char),
    s = front :: rest ++ later.flatMap ('_' :: ·) ++ closing ∧
      isSmall front = true ∧ (∀ c ∈ rest, isSmallOrDigit c = true) ∧
      (∀ word ∈ later, IsSmallWord word) ∧ (closing = [] ∨ closing = ['_'])

def snakeText (words : List (List Char)) : List Char := joinWith ['_'] words

/-- The words of a name that begins with no digit. -/
structure AreSnakeWords (words : List (List Char)) : Prop where
  small : ∀ word ∈ words, IsSmallWord word
  front : startsWithDigit (snakeText words) = false

theorem snakeText_cons (word : List Char) {words : List (List Char)} (h : words ≠ []) :
    snakeText (word :: words) = word ++ '_' :: snakeText words := by
  obtain ⟨next, later, rfl⟩ := List.exists_cons_of_ne_nil h
  rw [snakeText, snakeText, joinWith_cons, joinWith_cons]
  simp

theorem isSmall_of_not_isDigitChar {c : Char} (h : isSmallOrDigit c = true)
    (hdigit : isDigitChar c = false) : isSmall c = true := by
  rw [isSmallOrDigit, Bool.or_eq_true] at h
  rcases h with hsmall | hnumber
  · exact hsmall
  · have hc : c.isDigit = true := by
      simpa [Char.isDigit, Char.le_def] using hnumber
    rw [isDigitChar_of_isDigit hc] at hdigit
    cases hdigit

theorem AreSnakeWords.isSnakeName {words : List (List Char)} {closing : List Char}
    (h : AreSnakeWords words) (hne : words ≠ []) (hclosing : closing = [] ∨ closing = ['_']) :
    IsSnakeName (snakeText words ++ closing) := by
  obtain ⟨word, later, rfl⟩ := List.exists_cons_of_ne_nil hne
  obtain ⟨hword, hlater⟩ := List.forall_mem_cons.mp h.small
  obtain ⟨front, rest, rfl⟩ := List.exists_cons_of_ne_nil hword.nonempty
  obtain ⟨hfront, hrest⟩ := List.forall_mem_cons.mp hword.small
  have hsnake := joinWith_cons '_' (front :: rest) later
  have hdigit := h.front
  rw [snakeText, hsnake] at hdigit
  refine ⟨front, rest, later, closing, by rw [snakeText, hsnake], ?_, hrest, hlater, hclosing⟩
  exact isSmall_of_not_isDigitChar hfront hdigit

/-! ## Words found again -/

theorem openRuns_append {p : Char → Bool} {word : List Char} (hword : ∀ c ∈ word, p c = true)
    (s : List Char) :
    openRuns p (word ++ s) = (word ++ (openRuns p s).1, (openRuns p s).2) := by
  induction word with
  | nil => rfl
  | cons c word ih =>
    obtain ⟨hc, hrest⟩ := List.forall_mem_cons.mp hword
    simp [openRuns, hc, ih hrest]

section
variable {p : Char → Bool} {separator : Char} (hseparator : p separator = false)
  {closing : List Char} (hclosing : ∀ c ∈ closing, p c = false)
include hseparator hclosing

theorem openRuns_later {later : List (List Char)}
    (hlater : ∀ word ∈ later, word ≠ [] ∧ ∀ c ∈ word, p c = true) :
    openRuns p (later.flatMap (separator :: ·) ++ closing) = ([], later) := by
  induction later with
  | nil =>
    induction closing with
    | nil => rfl
    | cons c closing ih =>
      obtain ⟨hc, hrest⟩ := List.forall_mem_cons.mp hclosing
      have hend := ih hrest
      simp only [List.flatMap_nil, List.nil_append] at hend
      simp [openRuns, hc, hend]
  | cons word later ih =>
    obtain ⟨hword, hrest⟩ := List.forall_mem_cons.mp hlater
    have hopen := openRuns_append hword.2 (later.flatMap (separator :: ·) ++ closing)
    rw [ih hrest, List.append_nil] at hopen
    have hfront : word.isEmpty = false := by simpa using hword.1
    simp [openRuns, hseparator, hopen, hfront]

theorem runs_joinWith {words : List (List Char)}
    (hwords : ∀ word ∈ words, word ≠ [] ∧ ∀ c ∈ word, p c = true) :
    runs p (joinWith [separator] words ++ closing) = words := by
  cases words with
  | nil =>
    have hend : openRuns p closing = ([], []) :=
      openRuns_later hseparator hclosing (List.forall_mem_nil _)
    simp [runs, joinWith, hend]
  | cons word later =>
    obtain ⟨hword, hlater⟩ := List.forall_mem_cons.mp hwords
    have hopen := openRuns_append hword.2 (later.flatMap (separator :: ·) ++ closing)
    rw [openRuns_later hseparator hclosing hlater, List.append_nil] at hopen
    have hfront : word.isEmpty = false := by simpa using hword.1
    rw [joinWith_cons, List.append_assoc, runs, hopen]
    simp [hfront]

end

theorem spaced_of_no_capital {s : List Char} (h : ∀ c ∈ s, isCapital c = false) : spaced s = s := by
  induction s with
  | nil => rfl
  | cons a rest ih =>
    obtain ⟨-, hrest⟩ := List.forall_mem_cons.mp h
    have hcut : isCutAtFront (a :: rest) = false := by
      cases rest with
      | nil => rfl
      | cons b rest => simp [isCutAtFront, hrest b List.mem_cons_self]
    rw [spaced_cons, hcut, ih hrest]
    rfl

/-! ## Nothing to spell out -/

theorem replaceChar_of_not_mem {a : Char} {new s : List Char} (h : a ∉ s) :
    replaceChar a new s = s := by
  have hself : ∀ c ∈ s, (if c == a then new else [c]) = [c] := by
    intro c hc
    have hne : c ≠ a := fun hca => h (hca ▸ hc)
    simp [hne]
  rw [replaceChar, List.flatMap_congr hself, List.flatMap_singleton']

theorem replacePair_of_not_mem {a b : Char} {new s : List Char} (h : a ∉ s ∨ b ∉ s) :
    replacePair a b new s = s := by
  refine replacePair_of_not_infix fun hwithin => ?_
  rcases h with ha | hb
  · exact ha (hwithin.subset (by simp))
  · exact hb (hwithin.subset (by simp))

def isSnakeChar (c : Char) : Bool := isSmallOrDigit c || c == '_'

theorem isSnakeChar_snakeText {words : List (List Char)} (h : ∀ word ∈ words, IsSmallWord word) :
    ∀ c ∈ snakeText words, isSnakeChar c = true := by
  intro c hc
  rcases mem_joinWith hc with hmark | ⟨word, hword, hc⟩
  · rw [List.mem_singleton.mp hmark]
    rfl
  · rw [isSnakeChar, (h word hword).small c hc, Bool.true_or]

theorem spelledOut_of_isSnakeChar {s : List Char} (h : ∀ c ∈ s, isSnakeChar c = true) :
    spelledOut s = joinWith [' '] (splitWords s) := by
  have hmem {c : Char} (hc : isSnakeChar c = false) : c ∉ s := by
    intro hmem
    rw [h c hmem] at hc
    cases hc
  have hquestion : spellQuestion s = s := by
    rw [spellQuestion, if_neg]
    intro hmark
    exact hmem (by decide : isSnakeChar '?' = false)
      (List.mem_of_getLast? (beq_iff_eq.mp hmark))
  have hsign : spellNumberSign s = s := by
    rw [spellNumberSign, if_neg]
    intro hmark
    have hfront : '#' ∈ s.reverse.take 2 := by
      rw [beq_iff_eq.mp hmark]
      exact List.mem_cons_self
    exact hmem (by decide : isSnakeChar '#' = false)
      (List.mem_reverse.mp (List.mem_of_mem_take hfront))
  have hsigns (new : List Char) : ∀ sign ∈ ['+', '&', '=', '%', '<', '>'],
      replaceChar sign new s = s := by
    simp only [List.forall_mem_cons]
    exact ⟨replaceChar_of_not_mem (hmem rfl), replaceChar_of_not_mem (hmem rfl),
      replaceChar_of_not_mem (hmem rfl), replaceChar_of_not_mem (hmem rfl),
      replaceChar_of_not_mem (hmem rfl), replaceChar_of_not_mem (hmem rfl), List.forall_mem_nil _⟩
  have hslash (new : List Char) : replacePair 'w' '/' new s = s :=
    replacePair_of_not_mem (.inr (hmem (by decide)))
  have hnumber (new : List Char) : replacePair '#' ' ' new s = s :=
    replacePair_of_not_mem (.inl (hmem (by decide)))
  simp only [spelledOut, hquestion, hsign, hslash, hnumber,
    hsigns _ '+' (by decide), hsigns _ '&' (by decide), hsigns _ '=' (by decide),
    hsigns _ '%' (by decide), hsigns _ '<' (by decide), hsigns _ '>' (by decide)]

theorem isLetterOrNumber_of_isSmallOrDigit {c : Char} (h : isSmallOrDigit c = true) :
    isLetterOrNumber c = true ∧ c.toNat < 128 ∧ c.toLower = c ∧ isCapital c = false := by
  have hascii : ∀ n < 128, isSmallOrDigit (Char.ofNat n) = true →
      isLetterOrNumber (Char.ofNat n) = true ∧ (Char.ofNat n).toLower = Char.ofNat n ∧
        isCapital (Char.ofNat n) = false := by
    decide +kernel
  have hc : c.toNat < 128 := by
    have hz : 'z'.val.toNat = 122 := rfl
    have h9 : '9'.val.toNat = 57 := rfl
    simp only [isSmallOrDigit, isSmall, Bool.or_eq_true, Bool.and_eq_true, decide_eq_true_eq,
      Char.le_def, UInt32.le_iff_toNat_le] at h
    simp only [Char.toNat]
    omega
  obtain ⟨n, hn, rfl⟩ := exists_ascii hc
  have hsame := hascii n hn h
  exact ⟨hsame.1, hc, hsame.2⟩

theorem forall_mem_closing {P : Char → Prop} {closing : List Char}
    (hclosing : closing = [] ∨ closing = ['_']) (hunderscore : P '_') : ∀ c ∈ closing, P c := by
  rcases hclosing with rfl | rfl
  · exact List.forall_mem_nil _
  · exact List.forall_mem_singleton.mpr hunderscore

theorem splitWords_snakeText {words : List (List Char)} {closing : List Char}
    (h : ∀ word ∈ words, IsSmallWord word) (hclosing : closing = [] ∨ closing = ['_']) :
    splitWords (snakeText words ++ closing) = words := by
  have hcapital : ∀ c ∈ snakeText words ++ closing, isCapital c = false := by
    refine List.forall_mem_append.mpr ⟨fun c hc => ?_, ?_⟩
    · have hsnake := isSnakeChar_snakeText h c hc
      rw [isSnakeChar, Bool.or_eq_true, beq_iff_eq] at hsnake
      rcases hsnake with hsmall | rfl
      · exact (isLetterOrNumber_of_isSmallOrDigit hsmall).2.2.2
      · rfl
    · exact forall_mem_closing hclosing rfl
  have hend : ∀ c ∈ closing, isLetterOrNumber c = false := forall_mem_closing hclosing rfl
  have hspaced := spaced_of_no_capital hcapital
  rw [spaced] at hspaced
  rw [splitWords, hspaced]
  exact runs_joinWith (by decide) hend fun word hword =>
    ⟨(h word hword).nonempty, fun c hc =>
      (isLetterOrNumber_of_isSmallOrDigit ((h word hword).small c hc)).1⟩

/-! ## From words to the name -/

theorem lower_of_isAscii {s : List Char} (h : IsAscii s) : lower s = s.map Char.toLower := by
  have hfrom (afterCased : Bool) : lowerFrom afterCased s = s.map Char.toLower := by
    induction s generalizing afterCased with
    | nil => rfl
    | cons c rest ih =>
      have hc : c.toNat < 128 := h c List.mem_cons_self
      have hsigma : c ≠ capitalSigma := by
        rintro rfl
        exact absurd hc (by decide)
      have hrest := ih (fun d hd => h d (List.mem_cons_of_mem _ hd))
      simp [lowerFrom, hsigma, lowerChar, hc, hrest]
  exact hfrom false

/-- A word of ASCII letters of either case and digits. -/
structure IsAsciiWord (word : List Char) : Prop where
  nonempty : word ≠ []
  letters : ∀ c ∈ word, isLetterOrNumber c = true
  ascii : IsAscii word

theorem IsSmallWord.isAsciiWord {word : List Char} (h : IsSmallWord word) : IsAsciiWord word where
  nonempty := h.nonempty
  letters c hc := (isLetterOrNumber_of_isSmallOrDigit (h.small c hc)).1
  ascii c hc := (isLetterOrNumber_of_isSmallOrDigit (h.small c hc)).2.1

theorem IsAsciiWord.isSmallWord {word : List Char} (h : IsAsciiWord word) :
    IsSmallWord (word.map Char.toLower) where
  nonempty := by simpa using h.nonempty
  small := by
    have hlower : ∀ n < 128, isLetterOrNumber (Char.ofNat n) = true →
        isSmallOrDigit (Char.ofNat n).toLower = true := by
      decide +kernel
    rw [List.forall_mem_map]
    intro c hc
    obtain ⟨n, hn, rfl⟩ := exists_ascii (h.ascii c hc)
    exact hlower n hn (h.letters _ hc)

theorem IsSmallWord.map_toLower {word : List Char} (h : IsSmallWord word) :
    word.map Char.toLower = word := by
  have hself : ∀ c ∈ word, c.toLower = id c := fun c hc =>
    (isLetterOrNumber_of_isSmallOrDigit (h.small c hc)).2.2.1
  rw [List.map_congr_left hself, List.map_id]

theorem replaceBlanks_joinWith {words : List (List Char)} (h : ∀ word ∈ words, ' ' ∉ word) :
    replaceChar ' ' ['_'] (joinWith [' '] words) = snakeText words := by
  cases words with
  | nil => rfl
  | cons word later =>
    obtain ⟨hword, hlater⟩ := List.forall_mem_cons.mp h
    have hfront : replaceChar ' ' ['_'] word = word := replaceChar_of_not_mem hword
    have hrest : replaceChar ' ' ['_'] (later.flatMap (' ' :: ·)) = later.flatMap ('_' :: ·) := by
      rw [replaceChar, List.flatMap_assoc]
      refine List.flatMap_congr fun next hnext => ?_
      have hself : replaceChar ' ' ['_'] next = next := replaceChar_of_not_mem (hlater next hnext)
      rw [replaceChar] at hself
      rw [List.flatMap_cons, hself]
      rfl
    rw [replaceChar] at hfront hrest ⊢
    rw [snakeText, joinWith_cons, joinWith_cons, List.flatMap_append, hfront, hrest]

theorem collapseUnderscores_append {s : List Char} (h : '_' ∉ s) (t : List Char) :
    collapseUnderscores (s ++ t) = s ++ collapseUnderscores t := by
  induction s with
  | nil => rfl
  | cons c s ih =>
    have hc : c ≠ '_' := fun hc => h (hc ▸ List.mem_cons_self)
    have hrest := ih fun hmem => h (List.mem_cons_of_mem c hmem)
    cases hst : s ++ t with
    | nil =>
      rw [hst] at hrest
      simp [hst, ← hrest, collapseUnderscores]
    | cons d more =>
      rw [hst] at hrest
      simp [hst, collapseUnderscores, hc, hrest]

theorem collapseUnderscores_snakeText {words : List (List Char)}
    (h : ∀ word ∈ words, word ≠ [] ∧ '_' ∉ word) :
    collapseUnderscores (snakeText words) = snakeText words := by
  induction words with
  | nil => rfl
  | cons word words ih =>
    obtain ⟨hword, hwords⟩ := List.forall_mem_cons.mp h
    have hrest := ih hwords
    cases words with
    | nil =>
      have halone := collapseUnderscores_append hword.2 []
      simpa [snakeText, joinWith, collapseUnderscores] using halone
    | cons next words =>
      -- the underscore is followed by a word, which begins with none
      obtain ⟨c, more, hmore, hc⟩ : ∃ c more, snakeText (next :: words) = c :: more ∧ c ≠ '_' := by
        obtain ⟨hnext, hmark⟩ := hwords next List.mem_cons_self
        obtain ⟨c, rest, rfl⟩ := List.exists_cons_of_ne_nil hnext
        have hcons := joinWith_cons '_' (c :: rest) words
        exact ⟨c, _, hcons, fun hc => hmark (hc ▸ List.mem_cons_self)⟩
      rw [hmore] at hrest
      rw [snakeText_cons word (List.cons_ne_nil next words), collapseUnderscores_append hword.2,
        hmore]
      simp [collapseUnderscores, hc, hrest]

theorem snakeCase_joinWith {words : List (List Char)} (h : ∀ word ∈ words, IsAsciiWord word) :
    snakeCase (joinWith [' '] words) = snakeText (words.map fun word => word.map Char.toLower) := by
  have hmarks : ∀ word ∈ words, ' ' ∉ word ∧ '_' ∉ word := by
    intro word hword
    constructor
    · intro hmem
      exact absurd ((h word hword).letters ' ' hmem) (by decide)
    · intro hmem
      exact absurd ((h word hword).letters '_' hmem) (by decide)
  have hascii : IsAscii (snakeText words) := by
    intro c hc
    rcases mem_joinWith hc with hmark | ⟨word, hword, hc⟩
    · rw [List.mem_singleton.mp hmark]
      decide
    · exact (h word hword).ascii c hc
  have hmap : (snakeText words).map Char.toLower =
      snakeText (words.map fun word => word.map Char.toLower) := by
    cases words with
    | nil => rfl
    | cons word later =>
      have hunderscore : '_'.toLower = '_' := by decide
      simp only [snakeText, List.map_cons, joinWith_cons]
      simp [List.map_flatMap, List.flatMap_map, hunderscore]
  rw [snakeCase, replaceBlanks_joinWith fun word hword => (hmarks word hword).1,
    collapseUnderscores_snakeText fun word hword =>
      ⟨(h word hword).nonempty, (hmarks word hword).2⟩,
    lower_of_isAscii hascii, hmap]

theorem ne_underscore_of_isSmallOrDigit {c : Char} (h : isSmallOrDigit c = true) : c ≠ '_' :=
  ne_underscore_of_isLetterOrNumber (isLetterOrNumber_of_isSmallOrDigit h).1

theorem exists_snakeText_eq_concat {words : List (List Char)}
    (h : ∀ word ∈ words, IsSmallWord word) (hne : words ≠ []) :
    ∃ front c, snakeText words = front ++ [c] ∧ c ≠ '_' := by
  induction words with
  | nil => exact absurd rfl hne
  | cons word words ih =>
    obtain ⟨hword, hwords⟩ := List.forall_mem_cons.mp h
    cases words with
    | nil =>
      obtain ⟨front, c, rfl⟩ := (List.eq_nil_or_concat word).resolve_left hword.nonempty
      have hc := hword.small c (by simp)
      exact ⟨front, c, by simp [snakeText, joinWith], ne_underscore_of_isSmallOrDigit hc⟩
    | cons next words =>
      obtain ⟨front, c, hfront, hc⟩ := ih hwords (List.cons_ne_nil next words)
      refine ⟨word ++ '_' :: front, c, ?_, hc⟩
      rw [snakeText_cons word (List.cons_ne_nil next words), hfront]
      simp

theorem stripped_snakeText {words : List (List Char)} (h : ∀ word ∈ words, IsSmallWord word) :
    stripped (snakeText words) = snakeText words := by
  cases words with
  | nil => rfl
  | cons word words =>
    obtain ⟨hword, -⟩ := List.forall_mem_cons.mp h
    obtain ⟨front, c, hend, hc⟩ := exists_snakeText_eq_concat h (List.cons_ne_nil word words)
    have hopen : (snakeText (word :: words)).dropWhile (· == '_') = snakeText (word :: words) := by
      obtain ⟨d, rest, rfl⟩ := List.exists_cons_of_ne_nil hword.nonempty
      have hd := ne_underscore_of_isSmallOrDigit (hword.small d List.mem_cons_self)
      rw [snakeText, joinWith_cons]
      simp [hd]
    rw [stripped, hopen, hend, List.rdropWhile_concat_neg]
    simpa using hc

/-- A letter goes before a digit at the front, as a word of its own. -/
def fronted (words : List (List Char)) : List (List Char) :=
  if startsWithDigit (snakeText words) then ['n'] :: words else words

theorem trimmedName_snakeText {words : List (List Char)} (h : ∀ word ∈ words, IsSmallWord word) :
    trimmedName (snakeText words) = snakeText (fronted words) := by
  rw [trimmedName_eq, stripped_snakeText h, fronted]
  split
  · rename_i hdigit
    have hne : words ≠ [] := by
      rintro rfl
      cases hdigit
    rw [snakeText_cons ['n'] hne]
    rfl
  · rfl

theorem areSnakeWords_fronted {words : List (List Char)} (h : ∀ word ∈ words, IsSmallWord word) :
    AreSnakeWords (fronted words) := by
  unfold fronted
  split
  · have hn : IsSmallWord ['n'] := ⟨List.cons_ne_nil _ _, List.forall_mem_singleton.mpr rfl⟩
    refine ⟨List.forall_mem_cons.mpr ⟨hn, h⟩, ?_⟩
    rw [snakeText, joinWith_cons]
    rfl
  · rename_i hdigit
    exact ⟨h, Bool.eq_false_iff.mpr hdigit⟩

/-! ## Names as they come and names once made -/

theorem exists_words_spelledOut {s : List Char} (h : IsAscii s) :
    ∃ words, spelledOut s = joinWith [' '] words ∧ ∀ word ∈ words, IsAsciiWord word := by
  have hletters : ∀ c ∈ spelledOut s, isLetterOrNumber c = true → c.toNat < 128 := by
    refine (forall_mem_spelledOut (Q := fun c => isLetterOrNumber c = true → c.toNat < 128)
      (fun _ hascii _ => hascii) (fun c hc hletter => ?_) s).mpr fun c hc _ => h c hc
    rw [hc] at hletter
    cases hletter
  refine ⟨_, rfl, fun word hword => ?_⟩
  have hword' : ∀ c ∈ word, isLetterOrNumber c = true := runs_all hword
  refine ⟨fun hnil => nil_not_mem_splitWords _ (hnil ▸ hword), hword', fun c hc => ?_⟩
  have hall := (forall_mem_joinWith (Q := fun c => isLetterOrNumber c = true → c.toNat < 128)
    (fun _ hascii _ => hascii) _).mp hletters
  exact hall c (List.mem_flatten.mpr ⟨word, hword, hc⟩) (hword' c hc)

theorem exists_words_plainProperty {s : List Char} (h : IsAscii s) :
    ∃ words, plainProperty s = snakeText words ∧ AreSnakeWords words := by
  obtain ⟨words, hspelled, hwords⟩ := exists_words_spelledOut h
  have hsmall : ∀ word ∈ words.map (fun word => word.map Char.toLower), IsSmallWord word :=
    List.forall_mem_map.mpr fun word hword => (hwords word hword).isSmallWord
  refine ⟨_, ?_, areSnakeWords_fronted hsmall⟩
  rw [plainProperty, hspelled, snakeCase_joinWith hwords, trimmedName_snakeText hsmall]

theorem plainProperty_snakeText {words : List (List Char)} {closing : List Char}
    (h : AreSnakeWords words) (hclosing : closing = [] ∨ closing = ['_']) :
    plainProperty (snakeText words ++ closing) = snakeText words := by
  have hchars : ∀ c ∈ snakeText words ++ closing, isSnakeChar c = true := by
    exact List.forall_mem_append.mpr
      ⟨isSnakeChar_snakeText h.small, forall_mem_closing hclosing rfl⟩
  have hself : ∀ word ∈ words, word.map Char.toLower = id word := fun word hword =>
    (h.small word hword).map_toLower
  have hfronted : fronted words = words := by
    rw [fronted, if_neg]
    rw [h.front]
    decide
  rw [plainProperty, spelledOut_of_isSnakeChar hchars, splitWords_snakeText h.small hclosing,
    snakeCase_joinWith fun word hword => (h.small word hword).isAsciiWord,
    List.map_congr_left hself, List.map_id, trimmedName_snakeText h.small, hfronted]

theorem unreserved_of_other {s : List Char} (hne : s ≠ [])
    (hmodel : "model_".toList.isPrefixOf s = false) :
    unreserved s = s ++ if isReserved s = true then ['_'] else [] := by
  have hempty : s.isEmpty = false := by simpa using hne
  rw [unreserved, hempty, if_neg Bool.false_ne_true, hmodel, if_neg Bool.false_ne_true]
  split
  · rfl
  · rw [List.append_nil]

theorem snakeText_ne_nil {words : List (List Char)} (h : AreSnakeWords words) (hne : words ≠ []) :
    snakeText words ≠ [] := by
  obtain ⟨word, later, rfl⟩ := List.exists_cons_of_ne_nil hne
  have hword := (h.small word List.mem_cons_self).nonempty
  rw [snakeText, joinWith_cons]
  exact List.append_ne_nil_of_left_ne_nil hword _

/-- What keeps a name apart from taken ones adds a word at the front or an underscore at the end,
and is done in the same way when that underscore is gone. -/
theorem exists_words_unreserved {words : List (List Char)} (h : AreSnakeWords words) :
    ∃ words' closing, AreSnakeWords words' ∧ words' ≠ [] ∧ (closing = [] ∨ closing = ['_']) ∧
      unreserved (snakeText words) = snakeText words' ++ closing ∧
      unreserved (snakeText words') = snakeText words' ++ closing := by
  have hfield : IsSmallWord "field".toList := by
    refine ⟨by decide, List.all_eq_true.mp ?_⟩
    decide
  by_cases hnone : words = []
  · subst hnone
    refine ⟨["field".toList], [], ⟨List.forall_mem_singleton.mpr hfield, ?_⟩, by decide,
      Or.inl rfl, ?_, ?_⟩ <;> decide +kernel
  have hne := snakeText_ne_nil h hnone
  cases hmodel : "model_".toList.isPrefixOf (snakeText words) with
  | true =>
    -- a new first word takes the name away from those that are taken, which begin otherwise
    have htext : snakeText ("field".toList :: words) = "field_".toList ++ snakeText words := by
      rw [snakeText_cons _ hnone]
      rfl
    have hwords' : AreSnakeWords ("field".toList :: words) :=
      ⟨List.forall_mem_cons.mpr ⟨hfield, h.small⟩, by rw [htext]; rfl⟩
    have hfree : isReserved ("field_".toList ++ snakeText words) = false := by
      rw [Bool.eq_false_iff, ne_eq, isReserved_iff]
      intro hmem
      exact (taken_names _ hmem).2 (by simp)
    have hempty : (snakeText words).isEmpty = false := by simpa using hne
    refine ⟨_, [], hwords', List.cons_ne_nil _ _, Or.inl rfl, ?_, ?_⟩
    · rw [unreserved, hempty, if_neg Bool.false_ne_true, if_pos hmodel, htext, List.append_nil]
    · have hother : "model_".toList.isPrefixOf ("field_".toList ++ snakeText words) = false := rfl
      rw [htext, unreserved_of_other (by simp) hother, hfree, if_neg Bool.false_ne_true]
  | false =>
    have hsame := unreserved_of_other hne hmodel
    refine ⟨words, _, h, hnone, ?_, hsame, hsame⟩
    split
    · exact Or.inr rfl
    · exact Or.inl rfl

/-- A name in ASCII makes a property's name of small words joined by underscores, which stays as it
is when a property's name is made of it. -/
theorem isSnakeName_propertyName {s : List Char} (h : IsAscii s) :
    IsSnakeName (propertyName s) ∧ propertyName (propertyName s) = propertyName s := by
  obtain ⟨words, hplain, hwords⟩ := exists_words_plainProperty h
  obtain ⟨words', closing, hwords', hne, hclosing, hname, hagain⟩ := exists_words_unreserved hwords
  have hmade : propertyName s = snakeText words' ++ closing := by
    rw [propertyName, ← plainProperty, hplain, hname]
  rw [hmade]
  refine ⟨hwords'.isSnakeName hne hclosing, ?_⟩
  rw [propertyName, ← plainProperty, plainProperty_snakeText hwords' hclosing, hagain]

/-- Signs are spelled out and case is lost, and a name that is taken gets an underscore. -/
theorem propertyName_share_and_class :
    (String.ofList (propertyName "Share (2nd) %".toList) = "share_2nd_percent" ∧
      IsSnakeName (propertyName "Share (2nd) %".toList)) ∧
    String.ofList (propertyName "Class".toList) = "class_" ∧
      propertyName (propertyName "Class".toList) = propertyName "Class".toList := by
  have hshare := isSnakeName_propertyName (by decide : IsAscii "Share (2nd) %".toList)
  have hclass := isSnakeName_propertyName (by decide : IsAscii "Class".toList)
  exact ⟨⟨by decide +kernel, hshare.1⟩, by decide +kernel, hclass.2⟩

end RecordTypes

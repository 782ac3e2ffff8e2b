import Mathlib.Data.List.SplitBy
import RecordTypes.Proofs.Text.NameChar
import RecordTypes.Proofs.Text.Words

/-! Where a text is cut into words. Blanks put in by patterns, one pattern after the other, cut it
where the positions of its own characters say so: no pattern misses a place because an earlier match
took a character away, and the blanks of the first do not disturb the second. -/

namespace RecordTypes

/-! ## Patterns -/

/-- The ways in which a pattern takes a front of a text, each with what it leaves, in the order in
which they are tried. -/
abbrev Pattern := List Char → List (List Char × List Char)

namespace Pattern

def one (p : Char → Bool) : Pattern
  | [] => []
  | c :: rest => if p c then [([c], rest)] else []

/-- One character or more, as many as there are first and then one less at a time. -/
def many (p : Char → Bool) : Pattern
  | [] => []
  | c :: rest =>
    if p c then ((many p rest).map fun (taken, left) => (c :: taken, left)) ++ [([c], rest)] else []

def seq (first second : Pattern) : Pattern := fun s =>
  (first s).flatMap fun (front, rest) =>
    (second rest).map fun (back, left) => (front ++ back, left)

/-- What two patterns, one after the other, take from the front of a text the first time that both
succeed. -/
def pair? (first second : Pattern) (s : List Char) : Option (List Char × List Char) :=
  ((first s).flatMap fun (front, rest) => (second rest).map fun (back, _) => (front, back)).head?

/-- Puts a blank between what two patterns take, at every match from left to right. The search goes
on after the match. -/
def partMatches (first second : Pattern) : List Char → List Char
  | [] => []
  | c :: rest =>
    match pair? first second (c :: rest) with
    | some (front, back) =>
      front ++ ' ' :: (back ++
        partMatches first second (rest.drop (front.length + back.length - 1)))
    | none => c :: partMatches first second rest
termination_by s => s.length
decreasing_by
  · simp only [List.length_drop, List.length_cons]
    omega
  · simp

theorem partMatches_of_none {first second : Pattern} {c : Char} {rest : List Char}
    (h : pair? first second (c :: rest) = none) :
    partMatches first second (c :: rest) = c :: partMatches first second rest := by
  rw [partMatches, h]

theorem partMatches_of_some {first second : Pattern} {c : Char} {rest front back : List Char}
    (h : pair? first second (c :: rest) = some (front, back)) :
    partMatches first second (c :: rest) = front ++ ' ' :: (back ++
      partMatches first second (rest.drop (front.length + back.length - 1))) := by
  rw [partMatches, h]

theorem ne_nil_of_mem_many {p : Char → Bool} {s taken left : List Char}
    (h : (taken, left) ∈ many p s) : taken ≠ [] := by
  cases s with
  | nil => cases h
  | cons c rest =>
    unfold many at h
    split at h
    · rcases List.mem_append.mp h with hmore | hone
      · obtain ⟨way, -, hway⟩ := List.mem_map.mp hmore
        cases hway
        exact List.cons_ne_nil _ _
      · cases List.mem_singleton.mp hone
        exact List.cons_ne_nil _ _
    · cases h

theorem ne_nil_of_pair?_many {p : Char → Bool} {second : Pattern} {s front back : List Char}
    (h : pair? (many p) second s = some (front, back)) : front ≠ [] := by
  obtain ⟨⟨taken, rest⟩, hway, hpair⟩ := List.mem_flatMap.mp (List.mem_of_mem_head? h)
  obtain ⟨way, -, hgroups⟩ := List.mem_map.mp hpair
  cases hgroups
  exact ne_nil_of_mem_many hway

theorem pair?_many_cons {p : Char → Bool} {second : Pattern} {c : Char} {rest : List Char}
    (hc : p c = true) (hrest : second rest = []) :
    pair? (many p) second (c :: rest) =
      (pair? (many p) second rest).map fun (front, back) => (c :: front, back) := by
  simp only [pair?, many, hc, if_true, List.flatMap_append, List.flatMap_map, List.flatMap_cons,
    List.flatMap_nil, hrest, List.map_nil, List.append_nil]
  rw [← List.head?_map, List.map_flatMap]
  simp only [List.map_map, Function.comp_def]

end Pattern

open Pattern

/-! ## The two patterns of words -/

/-- A small letter or digit, and a capital after it. -/
def partSmalls (s : List Char) : List Char := partMatches (one isSmallOrDigit) (one isCapital) s

/-- Capitals, and a last one that a small letter follows. -/
def partCapitals (s : List Char) : List Char :=
  partMatches (many isCapital) (seq (one isCapital) (one isSmall)) s

theorem isSmall_of_isCapital {c : Char} (h : isCapital c = true) : isSmall c = false := by
  simp only [isCapital, isSmall, Bool.and_eq_true, Bool.and_eq_false_iff, decide_eq_true_eq,
    decide_eq_false_iff_not, Char.le_def, UInt32.le_iff_toNat_le] at h ⊢
  have ha : 'a'.val.toNat = 97 := rfl
  have hz : 'Z'.val.toNat = 90 := rfl
  omega

theorem isCapital_of_isSmall {c : Char} (h : isSmall c = true) : isCapital c = false := by
  by_contra hcapital
  rw [isSmall_of_isCapital (eq_true_of_ne_false hcapital)] at h
  cases h

theorem isSmallOrDigit_of_isCapital {c : Char} (h : isCapital c = true) :
    isSmallOrDigit c = false := by
  have hsmall := isSmall_of_isCapital h
  simp only [isCapital, isSmallOrDigit, hsmall, Bool.false_or, Bool.and_eq_true,
    Bool.and_eq_false_iff, decide_eq_true_eq, decide_eq_false_iff_not, Char.le_def,
    UInt32.le_iff_toNat_le] at h ⊢
  have hA : 'A'.val.toNat = 65 := rfl
  have h9 : '9'.val.toNat = 57 := rfl
  omega

theorem pair?_smalls_cons_cons (a b : Char) (rest : List Char) :
    pair? (one isSmallOrDigit) (one isCapital) (a :: b :: rest) =
      if isSmallOrDigit a && isCapital b then some ([a], [b]) else none := by
  cases ha : isSmallOrDigit a <;> cases hb : isCapital b <;> simp [pair?, one, ha, hb]

theorem pair?_smalls_of_not {a : Char} (ha : isSmallOrDigit a = false) (rest : List Char) :
    pair? (one isSmallOrDigit) (one isCapital) (a :: rest) = none := by
  simp [pair?, one, ha]

theorem partSmalls_eq (s : List Char) : partSmalls s = spaceBeforeCapitals s := by
  unfold partSmalls
  induction s using spaceBeforeCapitals.induct with
  | case1 a b rest hcut ih =>
    have hmatch : pair? (one isSmallOrDigit) (one isCapital) (a :: b :: rest) =
        some ([a], [b]) := by
      rw [pair?_smalls_cons_cons, if_pos hcut]
    -- the capital is taken by this match, but it could not have begun one of its own
    have hb : isSmallOrDigit b = false :=
      isSmallOrDigit_of_isCapital (Bool.and_eq_true _ _ ▸ hcut).2
    rw [partMatches_of_none (pair?_smalls_of_not hb rest)] at ih
    rw [partMatches_of_some hmatch, spaceBeforeCapitals, if_pos hcut, ← ih]
    rfl
  | case2 a b rest hcut ih =>
    have hmatch : pair? (one isSmallOrDigit) (one isCapital) (a :: b :: rest) = none := by
      rw [pair?_smalls_cons_cons, if_neg hcut]
    rw [partMatches_of_none hmatch, spaceBeforeCapitals, if_neg hcut, ih]
  | case3 s hs =>
    rcases s with - | ⟨a, - | ⟨b, rest⟩⟩
    · simp [partMatches, spaceBeforeCapitals]
    · have hmatch : pair? (one isSmallOrDigit) (one isCapital) [a] = none := by
        cases ha : isSmallOrDigit a <;> simp [pair?, one, ha]
      simp [partMatches_of_none hmatch, partMatches, spaceBeforeCapitals]
    · exact absurd rfl (hs a b rest)

theorem pair?_capitals_of_not {a : Char} (ha : isCapital a = false) (rest : List Char) :
    pair? (many isCapital) (seq (one isCapital) (one isSmall)) (a :: rest) = none := by
  simp [pair?, many, ha]

theorem pair?_capitals_of_next {a b : Char} (hb : isCapital b = false) (rest : List Char) :
    pair? (many isCapital) (seq (one isCapital) (one isSmall)) (a :: b :: rest) = none := by
  cases ha : isCapital a <;> simp [pair?, many, seq, one, ha, hb]

theorem pair?_capitals_of_cut {a b c : Char} (ha : isCapital a = true) (hb : isCapital b = true)
    (hc : isSmall c = true) (rest : List Char) :
    pair? (many isCapital) (seq (one isCapital) (one isSmall)) (a :: b :: c :: rest) =
      some ([a], [b, c]) := by
  simp [pair?, many, seq, one, ha, hb, hc, isCapital_of_isSmall hc]

theorem partCapitals_cons_of_not_cut {a b c : Char} {rest : List Char}
    (hcut : ¬ (isCapital a && isCapital b && isSmall c) = true) :
    partCapitals (a :: b :: c :: rest) = a :: partCapitals (b :: c :: rest) := by
  unfold partCapitals
  by_cases ha : isCapital a = true
  · by_cases hb : isCapital b = true
    · have hsecond : seq (one isCapital) (one isSmall) (b :: c :: rest) = [] := by
        simp only [ha, hb, Bool.true_and] at hcut
        simp [seq, one, hb, hcut]
      have hmatch := pair?_many_cons ha hsecond
      cases hlater :
        pair? (many isCapital) (seq (one isCapital) (one isSmall)) (b :: c :: rest) with
      | none => exact partMatches_of_none (by rw [hmatch, hlater]; rfl)
      | some groups =>
        obtain ⟨front, back⟩ := groups
        rw [hlater] at hmatch
        rw [partMatches_of_some hmatch, partMatches_of_some hlater]
        have hlength := List.length_pos_iff.mpr (ne_nil_of_pair?_many hlater)
        have hdrop : (a :: front).length + back.length - 1 =
            (front.length + back.length - 1) + 1 := by
          simp only [List.length_cons]
          omega
        rw [hdrop, List.drop_succ_cons]
        rfl
    · exact partMatches_of_none (pair?_capitals_of_next (Bool.eq_false_iff.mpr hb) _)
  · exact partMatches_of_none (pair?_capitals_of_not (Bool.eq_false_iff.mpr ha) _)

theorem partCapitals_eq (s : List Char) : partCapitals s = spaceBeforeLastCapital s := by
  induction s using spaceBeforeLastCapital.induct with
  | case1 a b c rest hcut ih =>
    simp only [Bool.and_eq_true] at hcut
    obtain ⟨⟨ha, hb⟩, hc⟩ := hcut
    have hcapital := isCapital_of_isSmall hc
    -- neither of the two characters that the match takes from the rest begins a match there
    have hrest : partCapitals (b :: c :: rest) = b :: c :: partCapitals rest := by
      unfold partCapitals
      rw [partMatches_of_none (pair?_capitals_of_next hcapital _),
        partMatches_of_none (pair?_capitals_of_not hcapital _)]
    rw [spaceBeforeLastCapital, if_pos (by simp [ha, hb, hc]), ← ih, hrest, partCapitals,
      partMatches_of_some (pair?_capitals_of_cut ha hb hc rest)]
    rfl
  | case2 a b c rest hcut ih =>
    rw [partCapitals_cons_of_not_cut hcut, ih, spaceBeforeLastCapital, if_neg hcut]
  | case3 s hs =>
    unfold partCapitals
    have hone (a : Char) :
        pair? (many isCapital) (seq (one isCapital) (one isSmall)) [a] = none := by
      cases ha : isCapital a <;> simp [pair?, many, seq, one, ha]
    rcases s with - | ⟨a, - | ⟨b, - | ⟨c, rest⟩⟩⟩
    · simp [partMatches, spaceBeforeLastCapital]
    · simp [partMatches_of_none (hone a), partMatches, spaceBeforeLastCapital]
    · have htwo : pair? (many isCapital) (seq (one isCapital) (one isSmall)) [a, b] = none := by
        cases ha : isCapital a <;> cases hb : isCapital b <;>
          simp [pair?, many, seq, one, ha, hb]
      simp [partMatches_of_none htwo, partMatches_of_none (hone b), partMatches,
        spaceBeforeLastCapital]
    · exact absurd rfl (hs a b c rest)

theorem runs_eq_splitOnP (p : Char → Bool) (s : List Char) :
    runs p s = (s.splitOnP fun c => !p c).filter fun piece => !piece.isEmpty := by
  have hpieces : ∃ later, s.splitOnP (fun c => !p c) = (openRuns p s).1 :: later ∧
      later.filter (fun piece => !piece.isEmpty) = (openRuns p s).2 := by
    induction s with
    | nil => exact ⟨[], by simp [openRuns], rfl⟩
    | cons c rest ih =>
      obtain ⟨later, hsplit, hlater⟩ := ih
      cases hc : p c with
      | true => exact ⟨later, by simp [List.splitOnP_cons_eq_if_modifyHead, openRuns, hc, hsplit],
          by simp [openRuns, hc, hlater]⟩
      | false =>
        refine ⟨(openRuns p rest).1 :: later, ?_, ?_⟩
        · simp [List.splitOnP_cons_eq_if_modifyHead, openRuns, hc, hsplit]
        · cases hfront : (openRuns p rest).1 <;> simp [openRuns, hc, hfront, hlater]
  obtain ⟨later, hsplit, hlater⟩ := hpieces
  rw [hsplit, List.filter_cons, hlater, runs]
  cases hfront : (openRuns p s).1 <;> simp [hfront]

/-! ## Positions -/

/-- A cut right after a position: before a capital that follows a small letter or digit, and before
the last of several capitals if a small letter follows it. -/
def isCutAfter (s : List Char) (i : Nat) : Bool :=
  (s[i]?.any isSmallOrDigit && s[i + 1]?.any isCapital) ||
    (s[i]?.any isCapital && s[i + 1]?.any isCapital && s[i + 2]?.any isSmall)

/-- Neighbours, each with its position, in one word. -/
def areJoined (s : List Char) (a b : Char × Nat) : Bool :=
  isLetterOrNumber a.1 && isLetterOrNumber b.1 && !isCutAfter s a.2

/-- The longest pieces of a text in which neighbours are joined, less those that are no words. -/
def positionedWords (s : List Char) : List (List Char) :=
  ((s.zipIdx.splitBy (areJoined s)).map fun piece => piece.map Prod.fst).filter
    fun word => word.all isLetterOrNumber

theorem splitBy_cons_cons {α : Type} (r : α → α → Bool) (a b : α) (l : List α) :
    (a :: b :: l).splitBy r =
      if r a b then ((b :: l).splitBy r).modifyHead (a :: ·) else [a] :: (b :: l).splitBy r := by
  split
  · rename_i hjoined
    obtain ⟨piece, later, hpieces⟩ := List.exists_cons_of_ne_nil
      (List.splitBy_ne_nil.mpr (List.cons_ne_nil b l) : (b :: l).splitBy r ≠ [])
    obtain ⟨hflatten, hne, hchain, hends⟩ := List.splitBy_eq_iff.mp hpieces
    cases piece with
    | nil => exact absurd List.mem_cons_self hne
    | cons c piece =>
      obtain ⟨rfl, hl⟩ := List.cons.inj hflatten
      rw [hpieces, List.modifyHead_cons, List.splitBy_eq_iff]
      rw [List.forall_mem_cons] at hchain
      rw [List.isChain_cons] at hends
      refine ⟨by simp [hl], by simpa using hne, ?_, ?_⟩
      · exact List.forall_mem_cons.mpr
          ⟨List.isChain_cons_cons.mpr ⟨hjoined, hchain.1⟩, hchain.2⟩
      · refine List.isChain_cons.mpr ⟨fun next hnext => ?_, hends.2⟩
        obtain ⟨hlast, hhead, hapart⟩ := hends.1 next hnext
        exact ⟨List.cons_ne_nil _ _, hhead, by simpa using hapart⟩
  · rename_i hapart
    exact List.splitBy_append_cons (l := [a]) l (by simpa using hapart)

/-! ## Both passes at once -/

/-- A cut after the first character of a text. -/
def isCutAtFront : List Char → Bool
  | a :: b :: rest =>
    (isSmallOrDigit a && isCapital b) || (isCapital a && isCapital b && rest.head?.any isSmall)
  | _ => false

def spaced (s : List Char) : List Char := spaceBeforeLastCapital (spaceBeforeCapitals s)

theorem spaceBeforeCapitals_cons (a : Char) (rest : List Char) :
    spaceBeforeCapitals (a :: rest) =
      if isSmallOrDigit a && rest.head?.any isCapital then a :: ' ' :: spaceBeforeCapitals rest
      else a :: spaceBeforeCapitals rest := by
  cases rest <;> simp [spaceBeforeCapitals]

theorem spaceBeforeLastCapital_cons (a : Char) (rest : List Char) :
    spaceBeforeLastCapital (a :: rest) =
      if isCapital a && rest.head?.any isCapital && rest[1]?.any isSmall then
        a :: ' ' :: spaceBeforeLastCapital rest
      else a :: spaceBeforeLastCapital rest := by
  rcases rest with - | ⟨b, - | ⟨c, rest⟩⟩
  · simp [spaceBeforeLastCapital]
  · simp [spaceBeforeLastCapital]
  · simp [spaceBeforeLastCapital]

theorem head?_spaceBeforeCapitals (s : List Char) : (spaceBeforeCapitals s).head? = s.head? := by
  cases s with
  | nil => rfl
  | cons a rest =>
    rw [spaceBeforeCapitals_cons]
    split <;> rfl

theorem spaced_cons (a : Char) (rest : List Char) :
    spaced (a :: rest) =
      if isCutAtFront (a :: rest) then a :: ' ' :: spaced rest else a :: spaced rest := by
  cases rest with
  | nil => rfl
  | cons b rest =>
    have hblank : isCapital ' ' = false := by decide
    unfold spaced
    rw [spaceBeforeCapitals_cons]
    by_cases hfirst : (isSmallOrDigit a && isCapital b) = true
    · -- the blank of the first pass comes after no capital, so the second pass puts none there
      have ha : isCapital a = false := by
        by_contra h
        rw [isSmallOrDigit_of_isCapital (eq_true_of_ne_false h)] at hfirst
        cases hfirst
      simp [spaceBeforeLastCapital_cons, isCutAtFront, hfirst, ha, hblank]
    · have hnext : isCapital b = true →
          (spaceBeforeCapitals (b :: rest))[1]? = rest.head? := by
        intro hb
        rw [spaceBeforeCapitals_cons, isSmallOrDigit_of_isCapital hb]
        simp [← List.head?_eq_getElem?, head?_spaceBeforeCapitals]
      have hsecond : (isCapital a && (spaceBeforeCapitals (b :: rest)).head?.any isCapital &&
          (spaceBeforeCapitals (b :: rest))[1]?.any isSmall) = isCutAtFront (a :: b :: rest) := by
        rw [head?_spaceBeforeCapitals]
        cases hb : isCapital b with
        | true =>
          rw [hb, Bool.and_true, Bool.not_eq_true] at hfirst
          simp [isCutAtFront, hb, hnext hb, hfirst]
        | false => simp [isCutAtFront, hb]
      rw [if_neg (by simpa using hfirst), spaceBeforeLastCapital_cons, hsecond]

theorem isCutAfter_of_drop {s t : List Char} {i : Nat} (h : s.drop i = t) :
    isCutAfter s i = isCutAtFront t := by
  have hat (j : Nat) : s[i + j]? = t[j]? := by rw [← h, List.getElem?_drop]
  have hzero := hat 0
  rw [Nat.add_zero] at hzero
  rw [isCutAfter, hzero, hat 1, hat 2]
  rcases t with - | ⟨a, - | ⟨b, rest⟩⟩
  · rfl
  · simp [isCutAtFront]
  · simp [isCutAtFront, List.head?_eq_getElem?]

theorem isLetterOrNumber_ascii : ∀ n < 128,
    (isSmallOrDigit (Char.ofNat n) || isCapital (Char.ofNat n)) = true →
      isLetterOrNumber (Char.ofNat n) = true := by
  decide +kernel

theorem isLetterOrNumber_of_isCutAtFront {a : Char} {rest : List Char}
    (h : isCutAtFront (a :: rest) = true) : isLetterOrNumber a = true := by
  have ha : (isSmallOrDigit a || isCapital a) = true := by
    cases rest with
    | nil => cases h
    | cons b rest =>
      simp only [isCutAtFront, Bool.or_eq_true, Bool.and_eq_true] at h
      simp only [Bool.or_eq_true]
      exact h.imp And.left fun h => h.1.1
  have hascii : a.toNat < 128 := by
    have hz : 'z'.val.toNat = 122 := rfl
    have hZ : 'Z'.val.toNat = 90 := rfl
    have h9 : '9'.val.toNat = 57 := rfl
    simp only [isSmallOrDigit, isSmall, isCapital, Bool.or_eq_true, Bool.and_eq_true,
      decide_eq_true_eq, Char.le_def, UInt32.le_iff_toNat_le] at ha
    simp only [Char.toNat]
    omega
  obtain ⟨n, hn, rfl⟩ := exists_ascii hascii
  exact isLetterOrNumber_ascii n hn ha

/-- The pieces of what is left of a text from a position on. -/
def piecesFrom (s : List Char) (i : Nat) (t : List Char) : List (List Char) :=
  ((t.zipIdx i).splitBy (areJoined s)).map fun piece => piece.map Prod.fst

theorem piecesFrom_cons_cons {s t : List Char} {i : Nat} {a b : Char}
    (h : s.drop i = a :: b :: t) :
    piecesFrom s i (a :: b :: t) =
      if isLetterOrNumber a && isLetterOrNumber b && !isCutAtFront (a :: b :: t) then
        (piecesFrom s (i + 1) (b :: t)).modifyHead (a :: ·)
      else [a] :: piecesFrom s (i + 1) (b :: t) := by
  simp only [piecesFrom, List.zipIdx_cons, splitBy_cons_cons, areJoined, isCutAfter_of_drop h]
  split
  · cases ((b, i + 1) :: t.zipIdx (i + 1 + 1)).splitBy (areJoined s) <;> rfl
  · rfl

theorem openRuns_spaced_cons (a : Char) (rest : List Char) :
    openRuns isLetterOrNumber (spaced (a :: rest)) =
      if isCutAtFront (a :: rest) then ([a], runs isLetterOrNumber (spaced rest))
      else if isLetterOrNumber a then
        (a :: (openRuns isLetterOrNumber (spaced rest)).1,
          (openRuns isLetterOrNumber (spaced rest)).2)
      else ([], runs isLetterOrNumber (spaced rest)) := by
  have hblank : isLetterOrNumber ' ' = false := by decide
  rw [spaced_cons]
  split
  · rename_i hcut
    simp [openRuns, runs, isLetterOrNumber_of_isCutAtFront hcut, hblank]
  · cases ha : isLetterOrNumber a <;> simp [openRuns, runs, ha]

theorem openRuns_spaced_of_not {a : Char} (ha : isLetterOrNumber a = false) (rest : List Char) :
    openRuns isLetterOrNumber (spaced (a :: rest)) =
      ([], runs isLetterOrNumber (spaced rest)) := by
  have hcut : isCutAtFront (a :: rest) = false := by
    by_contra hcut
    rw [isLetterOrNumber_of_isCutAtFront (eq_true_of_ne_false hcut)] at ha
    cases ha
  simp [openRuns_spaced_cons, hcut, ha]

/-- The run at the front of a text, or the separator that stands there. -/
def frontPiece (t : List Char) : List Char :=
  if t.head?.any isLetterOrNumber then (openRuns isLetterOrNumber (spaced t)).1 else t.take 1

theorem filter_frontPiece_cons {t : List Char} (hne : t ≠ []) {later : List (List Char)}
    (h : later.filter (fun word => word.all isLetterOrNumber) =
      (openRuns isLetterOrNumber (spaced t)).2) :
    (frontPiece t :: later).filter (fun word => word.all isLetterOrNumber) =
      runs isLetterOrNumber (spaced t) := by
  obtain ⟨a, rest, rfl⟩ := List.exists_cons_of_ne_nil hne
  cases ha : isLetterOrNumber a with
  | true =>
    have hall := (openRuns_all isLetterOrNumber (spaced (a :: rest))).1
    have hfront : (openRuns isLetterOrNumber (spaced (a :: rest))).1.isEmpty = false := by
      rw [openRuns_spaced_cons, if_pos ha]
      split <;> rfl
    simp only [frontPiece, List.head?_cons, Option.any_some, ha, if_true, List.filter_cons,
      List.all_eq_true.mpr hall, h, runs, hfront, Bool.false_eq_true, if_false]
  | false => simp [frontPiece, ha, h, runs, openRuns_spaced_of_not ha]

/-- The first piece is the run at the front, or one separator. What is left of the later pieces
without separators are the later runs. -/
theorem piecesFrom_eq {s t : List Char} {i : Nat} (h : s.drop i = t) (hne : t ≠ []) :
    ∃ later, piecesFrom s i t = frontPiece t :: later ∧
      later.filter (fun word => word.all isLetterOrNumber) =
        (openRuns isLetterOrNumber (spaced t)).2 := by
  induction t generalizing i with
  | nil => exact absurd rfl hne
  | cons a t ih =>
    cases t with
    | nil =>
      have hspaced : spaced [a] = [a] := rfl
      have hpieces : piecesFrom s i [a] = [[a]] := rfl
      cases ha : isLetterOrNumber a <;>
        exact ⟨[], by simp [hpieces, frontPiece, hspaced, openRuns, ha],
          by simp [hspaced, openRuns, ha]⟩
    | cons b t =>
      have hnext : s.drop (i + 1) = b :: t := by
        rw [← List.drop_drop, h, List.drop_one, List.tail_cons]
      obtain ⟨later, hpieces, hlater⟩ := ih hnext (List.cons_ne_nil b t)
      have hruns := filter_frontPiece_cons (List.cons_ne_nil b t) hlater
      rw [piecesFrom_cons_cons h, hpieces]
      by_cases hjoined : (isLetterOrNumber a && isLetterOrNumber b &&
          !isCutAtFront (a :: b :: t)) = true
      · rw [if_pos hjoined]
        simp only [Bool.and_eq_true, Bool.not_eq_true'] at hjoined
        obtain ⟨⟨ha, hb⟩, hcut⟩ := hjoined
        exact ⟨later, by simp [frontPiece, openRuns_spaced_cons a, hcut, ha, hb],
          by simp [openRuns_spaced_cons a, hcut, ha, hlater]⟩
      · rw [if_neg hjoined]
        refine ⟨frontPiece (b :: t) :: later, ?_⟩
        rw [hruns]
        cases ha : isLetterOrNumber a with
        | false => exact ⟨by simp [frontPiece, ha], by rw [openRuns_spaced_of_not ha]⟩
        | true =>
          cases hcut : isCutAtFront (a :: b :: t) with
          | true => simp [frontPiece, openRuns_spaced_cons a, hcut, ha]
          | false =>
            -- neighbours without a cut between them are apart only if the second is a separator
            have hb : isLetterOrNumber b = false := by simpa [ha, hcut] using hjoined
            simp [frontPiece, openRuns_spaced_cons a, hcut, ha, openRuns_spaced_of_not hb, runs]

theorem positionedWords_eq (s : List Char) :
    positionedWords s = runs isLetterOrNumber (spaced s) := by
  cases s with
  | nil => rfl
  | cons a rest =>
    obtain ⟨later, hpieces, hlater⟩ :=
      piecesFrom_eq (i := 0) (List.drop_zero ..) (List.cons_ne_nil a rest)
    rw [← filter_frontPiece_cons (List.cons_ne_nil a rest) hlater, ← hpieces]
    rfl

/-- The words of a text are its longest runs of letters and numbers, cut where positions say so and
nowhere else. Blanks put in by patterns, and the text then split at its separators, give the same
words. Nothing but separators is lost. -/
theorem splitWords_eq_positionedWords (s : List Char) :
    splitWords s = positionedWords s ∧
      splitWords s = ((partCapitals (partSmalls s)).splitOnP fun c => !isLetterOrNumber c).filter
        (fun word => !word.isEmpty) ∧
      [] ∉ splitWords s ∧ (splitWords s).flatten = s.filter isLetterOrNumber := by
  refine ⟨(positionedWords_eq s).symm, ?_, nil_not_mem_splitWords s, flatten_splitWords s⟩
  rw [partSmalls_eq, partCapitals_eq, ← runs_eq_splitOnP]
  rfl

example : positionedWords "HTTPServer_v2Beta 'x".toList =
    ["HTTP", "Server", "v2", "Beta", "x"].map String.toList := by decide +kernel

end RecordTypes

import RecordTypes.Proofs.Text.Literal
import RecordTypes.Proofs.Text.NameChar
import RecordTypes.Text.OneLine

/-! What never stands in text of one line: a line end, three quotation marks in a row, or the mark
that ends a comment. No step brings back what an earlier one has removed, since characters that
were apart are never put side by side. -/

namespace RecordTypes

/-! ## Marks in texts that are put together -/

section
variable {α : Type} {mark s t : List α} {c : α}

theorem prefix_append_cons_iff (hc : c ∉ mark) : mark <+: s ++ c :: t ↔ mark <+: s := by
  refine ⟨fun h => ?_, fun h => h.trans (List.prefix_append _ _)⟩
  have hfront : s ++ [c] <+: s ++ c :: t := ⟨t, by simp⟩
  rcases List.prefix_or_prefix_of_prefix h hfront with hmark | hlong
  · rcases List.prefix_concat_iff.mp hmark with rfl | hshort
    · simp at hc
    · exact hshort
  · exact absurd (hlong.subset (by simp)) hc

theorem infix_append_cons_iff (hc : c ∉ mark) :
    mark <:+: s ++ c :: t ↔ mark <:+: s ∨ mark <:+: t := by
  induction s with
  | nil =>
    have hnil : mark <+: c :: t ↔ mark = [] := by
      simpa using prefix_append_cons_iff (s := []) (t := t) hc
    rw [List.nil_append, List.infix_cons_iff, hnil, List.infix_nil]
  | cons d s ih =>
    rw [List.cons_append, List.infix_cons_iff, ih, ← List.cons_append, prefix_append_cons_iff hc,
      List.infix_cons_iff, or_assoc]

theorem infix_cons_iff_of_not_mem (hc : c ∉ mark) : mark <:+: c :: t ↔ mark <:+: t := by
  have h := infix_append_cons_iff (s := []) (t := t) hc
  rw [List.nil_append, List.infix_nil] at h
  rw [h]
  exact or_iff_right_of_imp fun hnil => hnil ▸ List.nil_infix

end

theorem exists_infix_of_infix_joinWith {mark : List Char} (hmark : mark ≠ []) {c : Char}
    (hc : c ∉ mark) {pieces : List (List Char)} (h : mark <:+: joinWith [c] pieces) :
    ∃ piece ∈ pieces, mark <:+: piece := by
  induction pieces with
  | nil => exact absurd (List.infix_nil.mp h) hmark
  | cons piece pieces ih =>
    cases pieces with
    | nil => exact ⟨piece, List.mem_cons_self, by simpa [joinWith] using h⟩
    | cons next rest =>
      have hjoin : joinWith [c] (piece :: next :: rest) =
          piece ++ c :: joinWith [c] (next :: rest) := by
        simp [joinWith, List.intercalate_cons_cons]
      rw [hjoin, infix_append_cons_iff hc] at h
      rcases h with h | h
      · exact ⟨piece, List.mem_cons_self, h⟩
      · obtain ⟨other, hother, hwithin⟩ := ih h
        exact ⟨other, List.mem_cons_of_mem _ hother, hwithin⟩

theorem openRuns_infix (p : Char → Bool) (s : List Char) :
    (openRuns p s).1 <+: s ∧ ∀ run ∈ (openRuns p s).2, run <:+: s := by
  induction s with
  | nil => simp [openRuns]
  | cons c rest ih =>
    obtain ⟨hfront, hlater⟩ := ih
    have hrest : ∀ run ∈ (openRuns p rest).2, run <:+: c :: rest :=
      fun run hrun => (hlater run hrun).trans (List.suffix_cons c rest).isInfix
    simp only [openRuns]
    split
    · exact ⟨List.cons_prefix_cons.mpr ⟨rfl, hfront⟩, hrest⟩
    · refine ⟨List.nil_prefix, ?_⟩
      split
      · exact hrest
      · exact List.forall_mem_cons.mpr
          ⟨hfront.isInfix.trans (List.suffix_cons c rest).isInfix, hrest⟩

theorem infix_of_mem_runs {p : Char → Bool} {s run : List Char} (h : run ∈ runs p s) :
    run <:+: s := by
  obtain ⟨hfront, hlater⟩ := openRuns_infix p s
  unfold runs at h
  dsimp only at h
  split at h
  · exact hlater run h
  · rcases List.mem_cons.mp h with rfl | h
    · exact hfront.isInfix
    · exact hlater run h

/-! ## Three quotation marks -/

theorem replaceTriple_eq_self {a b c : Char} {new s : List Char}
    (hs : ∀ x y z rest, s = x :: y :: z :: rest → False) : replaceTriple a b c new s = s := by
  rcases s with - | ⟨x, - | ⟨y, - | ⟨z, rest⟩⟩⟩
  · rfl
  · rfl
  · rfl
  · exact (hs x y z rest rfl).elim

theorem replaceTriple_of_not_infix {a b c : Char} {new s : List Char} (h : ¬ [a, b, c] <:+: s) :
    replaceTriple a b c new s = s := by
  induction s using replaceTriple.induct a b c with
  | case1 x y z rest hxyz ih =>
    simp only [Bool.and_eq_true, beq_iff_eq] at hxyz
    obtain ⟨⟨rfl, rfl⟩, rfl⟩ := hxyz
    exact absurd (List.prefix_append [x, y, z] rest).isInfix h
  | case2 x y z rest hxyz ih =>
    rw [replaceTriple, if_neg hxyz, ih fun hrest => h (List.infix_cons hrest)]
  | case3 s hs => exact replaceTriple_eq_self hs

section
variable {quote other : Char} (hother : other ≠ quote)
include hother

theorem prefix_of_prefix_replaceTriple {mark s : List Char} (hmark : ∀ c ∈ mark, c = quote)
    (h : mark <+: replaceTriple quote quote quote [other, other, other] s) : mark <+: s := by
  induction s using replaceTriple.induct quote quote quote generalizing mark with
  | case1 x y z rest hxyz ih =>
    cases mark with
    | nil => exact List.nil_prefix
    | cons c mark =>
      -- three quotes became other characters, so that no quote stands at the front
      rw [replaceTriple, if_pos hxyz, List.cons_append, List.cons_prefix_cons] at h
      exact absurd (h.1.symm.trans (hmark c List.mem_cons_self)) hother
  | case2 x y z rest hxyz ih =>
    cases mark with
    | nil => exact List.nil_prefix
    | cons c mark =>
      rw [replaceTriple, if_neg hxyz, List.cons_prefix_cons] at h
      exact List.cons_prefix_cons.mpr
        ⟨h.1, ih (fun d hd => hmark d (List.mem_cons_of_mem _ hd)) h.2⟩
  | case3 s hs => rwa [replaceTriple_eq_self hs] at h

theorem not_infix_replaceTriple (s : List Char) :
    ¬ [quote, quote, quote] <:+: replaceTriple quote quote quote [other, other, other] s := by
  have hapart : other ∉ [quote, quote, quote] := by simpa using hother
  induction s using replaceTriple.induct quote quote quote with
  | case1 x y z rest hxyz ih =>
    rw [replaceTriple, if_pos hxyz]
    simp only [List.cons_append, List.nil_append, infix_cons_iff_of_not_mem hapart]
    exact ih
  | case2 x y z rest hxyz ih =>
    rw [replaceTriple, if_neg hxyz, List.infix_cons_iff, List.cons_prefix_cons]
    rintro (⟨rfl, h⟩ | h)
    · have hbefore := prefix_of_prefix_replaceTriple hother (by simp) h
      rw [List.cons_prefix_cons, List.cons_prefix_cons] at hbefore
      simp [← hbefore.1, ← hbefore.2.1] at hxyz
    · exact ih h
  | case3 s hs =>
    rw [replaceTriple_eq_self hs]
    intro h
    have hlength := h.length_le
    rcases s with - | ⟨x, - | ⟨y, - | ⟨z, rest⟩⟩⟩
    · simp at hlength
    · simp at hlength
    · simp at hlength
    · exact hs x y z rest rfl

end

/-! ## The end of a comment -/

def commentEnd : List Char := ['*', '/']

def partedEnd : List Char := ['*', ' ', '/']

theorem replacePair_eq_self {a b : Char} {new s : List Char}
    (hs : ∀ x y rest, s = x :: y :: rest → False) : replacePair a b new s = s := by
  rcases s with - | ⟨x, - | ⟨y, rest⟩⟩
  · rfl
  · rfl
  · exact (hs x y rest rfl).elim

theorem replacePair_of_not_infix {a b : Char} {new s : List Char} (h : ¬ [a, b] <:+: s) :
    replacePair a b new s = s := by
  induction s using replacePair.induct a b with
  | case1 x y rest hxy ih =>
    simp only [Bool.and_eq_true, beq_iff_eq] at hxy
    obtain ⟨rfl, rfl⟩ := hxy
    exact absurd (List.prefix_append [x, y] rest).isInfix h
  | case2 x y rest hxy ih =>
    rw [replacePair, if_neg hxy, ih fun hrest => h (List.infix_cons hrest)]
  | case3 s hs => exact replacePair_eq_self hs

theorem head?_replacePair (s : List Char) : (replacePair '*' '/' partedEnd s).head? = s.head? := by
  cases s using replacePair.induct '*' '/' with
  | case1 x y rest hxy =>
    simp only [Bool.and_eq_true, beq_iff_eq] at hxy
    simp [replacePair, partedEnd, hxy]
  | case2 x y rest hxy => simp [replacePair, hxy]
  | case3 s hs => rw [replacePair_eq_self hs]

theorem not_infix_replacePair (s : List Char) :
    ¬ commentEnd <:+: replacePair '*' '/' partedEnd s := by
  have hblank : ' ' ∉ commentEnd := by decide
  induction s using replacePair.induct '*' '/' with
  | case1 x y rest hxy ih =>
    have hparted : replacePair '*' '/' partedEnd (x :: y :: rest) =
        ['*'] ++ ' ' :: '/' :: replacePair '*' '/' partedEnd rest := by
      simp [replacePair, hxy, partedEnd]
    rw [hparted, infix_append_cons_iff hblank]
    rintro (h | h)
    · exact absurd h (by decide)
    · rcases List.infix_cons_iff.mp h with hfront | hrest
      · exact absurd (List.cons_prefix_cons.mp hfront).1 (by decide)
      · exact ih hrest
  | case2 x y rest hxy ih =>
    rw [replacePair, if_neg hxy, List.infix_cons_iff, commentEnd, List.cons_prefix_cons]
    rintro (⟨rfl, tail, htail⟩ | h)
    · -- The replaced rest begins as the rest does, so the pair would have been replaced.
      have hhead := head?_replacePair (y :: rest)
      rw [← htail] at hhead
      cases hhead
      exact hxy rfl
    · exact ih h
  | case3 s hs =>
    rw [replacePair_eq_self hs]
    intro h
    have hlength := h.length_le
    rcases s with - | ⟨x, - | ⟨y, rest⟩⟩
    · simp [commentEnd] at hlength
    · simp [commentEnd] at hlength
    · exact hs x y rest rfl

section
variable {mark : List Char} (hmark : ∀ c ∈ mark, c ∉ partedEnd)
include hmark

theorem prefix_of_prefix_replacePair {s : List Char}
    (h : mark <+: replacePair '*' '/' partedEnd s) : mark <+: s := by
  induction s using replacePair.induct '*' '/' generalizing mark with
  | case1 x y rest hxy ih =>
    cases mark with
    | nil => exact List.nil_prefix
    | cons c mark =>
      -- the mark has none of the characters that a comment's end is parted into
      rw [replacePair, if_pos hxy, partedEnd, List.cons_append, List.cons_prefix_cons] at h
      exact absurd (by simp [partedEnd, h.1]) (hmark c List.mem_cons_self)
  | case2 x y rest hxy ih =>
    cases mark with
    | nil => exact List.nil_prefix
    | cons c mark =>
      rw [replacePair, if_neg hxy, List.cons_prefix_cons] at h
      exact List.cons_prefix_cons.mpr
        ⟨h.1, ih (fun d hd => hmark d (List.mem_cons_of_mem _ hd)) h.2⟩
  | case3 s hs => rwa [replacePair_eq_self hs] at h

theorem infix_of_infix_replacePair {s : List Char}
    (h : mark <:+: replacePair '*' '/' partedEnd s) : mark <:+: s := by
  have hapart : ∀ c ∈ partedEnd, c ∉ mark := fun c hc hcmark => hmark c hcmark hc
  induction s using replacePair.induct '*' '/' with
  | case1 x y rest hxy ih =>
    rw [replacePair, if_pos hxy, partedEnd] at h
    simp only [List.cons_append, List.nil_append,
      infix_cons_iff_of_not_mem (hapart '*' (by decide)),
      infix_cons_iff_of_not_mem (hapart ' ' (by decide)),
      infix_cons_iff_of_not_mem (hapart '/' (by decide))] at h
    exact (ih h).trans (List.suffix_append [x, y] rest).isInfix
  | case2 x y rest hxy ih =>
    have hcons := h
    rw [replacePair, if_neg hxy, List.infix_cons_iff] at h
    rcases h with hfront | hrest
    · refine (prefix_of_prefix_replacePair hmark ?_).isInfix
      rwa [replacePair, if_neg hxy]
    · exact (ih hrest).trans (List.suffix_cons x _).isInfix
  | case3 s hs => rwa [replacePair_eq_self hs] at h

end

/-! ## Text of one line -/

/-- Three quotation marks in a row begin and end a docstring. -/
def docQuotes : List Char := [quotationMark, quotationMark, quotationMark]

theorem not_docQuotes_infix_disarmed (s : List Char) : ¬ docQuotes <:+: disarmed s := by
  intro h
  have hapart : ∀ c ∈ docQuotes, c ∉ partedEnd := by simp [docQuotes, partedEnd, quotationMark]
  have hbefore := infix_of_infix_replacePair hapart h
  exact not_infix_replaceTriple (by decide) s hbefore

theorem not_commentEnd_infix_disarmed (s : List Char) : ¬ commentEnd <:+: disarmed s :=
  not_infix_replacePair _

theorem not_infix_oneLine {mark s : List Char} (hmark : mark ≠ []) (hblank : ' ' ∉ mark)
    (h : ¬ mark <:+: disarmed s) : ¬ mark <:+: oneLine s := by
  intro hjoined
  obtain ⟨word, hword, hwithin⟩ := exists_infix_of_infix_joinWith hmark hblank hjoined
  exact h (hwithin.trans (infix_of_mem_runs hword))

/-- No line ends in the text. -/
def IsUnbroken (s : List Char) : Prop := ∀ c ∈ s, isLineEnd c = false

instance (s : List Char) : Decidable (IsUnbroken s) := List.decidableBAll ..

theorem isUnbroken_oneLine (s : List Char) : IsUnbroken (oneLine s) := by
  intro c hc
  rcases mem_joinWith hc with hblank | ⟨word, hword, hmem⟩
  · rw [List.mem_singleton.mp hblank]
    rfl
  · have hword := runs_all hword c hmem
    by_contra hend
    simp only [isLineEnd, Bool.not_eq_false, Bool.or_eq_true, beq_iff_eq] at hend
    rcases hend with rfl | rfl <;> cases hword

end RecordTypes

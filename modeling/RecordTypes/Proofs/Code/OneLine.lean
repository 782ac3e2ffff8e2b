import Mathlib.Data.List.Chain
import RecordTypes.Proofs.Code.Line
import RecordTypes.Proofs.Text.Words
import RecordTypes.Target.Names

/-! What text on one line looks like, and that a text which looks so already is left as it is. A
docstring of such a text is closed at its end and nowhere before. -/

namespace RecordTypes

/-- White space is blanks, and behind each of them stands a character that is none. -/
structure IsSpaced (s : List Char) : Prop where
  blanks : ∀ c ∈ s, isBlank c = true → c = ' '
  apart : s.IsChain fun c d => isBlank c = true → isBlank d = false
  last : ∀ c ∈ s.getLast?, isBlank c = false

/-- Words with one blank between any two of them, in which nothing ends a comment or a docstring. -/
structure IsOneLine (s : List Char) : Prop extends IsSpaced s where
  first : ∀ c ∈ s.head?, isBlank c = false
  quotes : ¬ docQuotes <:+: s
  comments : ¬ commentEnd <:+: s

/-- What divides a text into lines, the separators of files, groups and records included. -/
def lineBreakRanges : Ranges := [(0xA, 0xD), (0x1C, 0x1E), (0x85, 0x85), (0x2028, 0x2029)]

def isLineBreak (c : Char) : Bool := lineBreakRanges.contains c.toNat

theorem isBlank_of_isLineBreak {c : Char} (h : isLineBreak c = true) : isBlank c = true := by
  have hcovered : Ranges.coverAll blankRanges lineBreakRanges = true := rfl
  exact Ranges.contains_of_coverAll rfl hcovered h

theorem IsSpaced.not_isLineBreak {s : List Char} (h : IsSpaced s) :
    ∀ c ∈ s, isLineBreak c = false := by
  intro c hc
  by_contra hbreak
  rw [Bool.not_eq_false] at hbreak
  have hspace := h.blanks c hc (isBlank_of_isLineBreak hbreak)
  rw [hspace] at hbreak
  exact absurd hbreak (by decide)

/-! ## Words and the blanks between them -/

theorem IsSpaced.of_filled {s : List Char} (h : ∀ c ∈ s, isBlank c = false) : IsSpaced s := by
  have hapart : s.Pairwise fun c d => isBlank c = true → isBlank d = false :=
    List.pairwise_of_forall_mem_list fun _ _ d hd _ => h d hd
  refine ⟨fun c hc hblank => ?_, hapart.isChain, fun c hc => h c (List.mem_of_getLast? hc)⟩
  rw [h c hc] at hblank
  cases hblank

theorem IsSpaced.word_blank {word s : List Char} (hword : ∀ c ∈ word, isBlank c = false)
    (h : IsSpaced s) (hne : s ≠ []) (hfirst : ∀ c ∈ s.head?, isBlank c = false) :
    IsSpaced (word ++ ' ' :: s) := by
  have hfilled := IsSpaced.of_filled hword
  refine ⟨fun c hc hblank => ?_, ?_, ?_⟩
  · rcases List.mem_append.mp hc with hc | hc
    · exact hfilled.blanks c hc hblank
    · rcases List.mem_cons.mp hc with rfl | hc
      · rfl
      · exact h.blanks c hc hblank
  · refine List.isChain_append.mpr ⟨hfilled.apart, ?_, fun c hc d _ hblank => ?_⟩
    · exact List.isChain_cons.mpr ⟨fun c hc _ => hfirst c hc, h.apart⟩
    · rw [hfilled.last c hc] at hblank
      cases hblank
  · have hlast : (word ++ ' ' :: s).getLast? = s.getLast? := by
      rw [List.getLast?_append_cons, List.getLast?_cons_of_ne_nil hne]
    rw [hlast]
    exact h.last

theorem isSpaced_joinWith {words : List (List Char)}
    (hwords : ∀ word ∈ words, word ≠ [] ∧ ∀ c ∈ word, isBlank c = false) :
    IsSpaced (joinWith [' '] words) ∧ ∀ c ∈ (joinWith [' '] words).head?, isBlank c = false := by
  induction words with
  | nil => exact ⟨.of_filled (by simp [joinWith]), by simp [joinWith]⟩
  | cons word words ih =>
    obtain ⟨⟨hne, hword⟩, hrest⟩ := List.forall_mem_cons.mp hwords
    obtain ⟨hspaced, hfirst⟩ := ih hrest
    have hhead : ∀ t, ∀ c ∈ (word ++ t).head?, isBlank c = false := by
      intro t c hc
      rw [List.head?_append_of_ne_nil _ hne] at hc
      exact hword c (List.mem_of_head? hc)
    rw [joinWith_cons]
    refine ⟨?_, hhead _⟩
    cases words with
    | nil => simpa using IsSpaced.of_filled hword
    | cons next words =>
      have hnext : joinWith [' '] (next :: words) ≠ [] := by
        simp [joinWith_cons, (hrest next List.mem_cons_self).1]
      have hjoined := hspaced.word_blank hword hnext hfirst
      rw [joinWith_cons] at hjoined
      simpa using hjoined

theorem IsSpaced.flatMap_openRuns {s : List Char} (h : IsSpaced s) :
    (openRuns (fun c => !isBlank c) s).1 ++
      (openRuns (fun c => !isBlank c) s).2.flatMap (' ' :: ·) = s := by
  induction s with
  | nil => rfl
  | cons c rest ih =>
    obtain ⟨hc, hblanks⟩ := List.forall_mem_cons.mp h.blanks
    obtain ⟨hnext, hapart⟩ := List.isChain_cons.mp h.apart
    have hlast : ∀ d ∈ rest.getLast?, isBlank d = false := by
      intro d hd
      apply h.last
      simp [List.getLast?_cons, Option.mem_def.mp hd]
    have hrest := ih ⟨hblanks, hapart, hlast⟩
    by_cases hblank : isBlank c = true
    · -- a character that is no blank follows, so the front run of the rest is not empty
      obtain ⟨d, more, rfl⟩ : ∃ d more, rest = d :: more := by
        apply List.exists_cons_of_ne_nil
        rintro rfl
        rw [h.last c rfl] at hblank
        cases hblank
      have hd : isBlank d = false := hnext d rfl hblank
      have hspace := hc hblank
      subst hspace
      simp only [openRuns, hd] at hrest
      simpa [openRuns, hblank, hd] using hrest
    · rw [Bool.not_eq_true] at hblank
      simpa [openRuns, hblank] using hrest

theorem IsSpaced.joinWith_splitBlanks {s : List Char} (h : IsSpaced s)
    (hfirst : ∀ c ∈ s.head?, isBlank c = false) : joinWith [' '] (splitBlanks s) = s := by
  cases s with
  | nil => rfl
  | cons c rest =>
    have hc := hfirst c rfl
    have hopen := h.flatMap_openRuns
    simp only [openRuns, hc, Bool.not_false, if_true] at hopen
    simp only [splitBlanks, runs, openRuns, hc, Bool.not_false, if_true, List.isEmpty_cons,
      Bool.false_eq_true, if_false, joinWith_cons]
    exact hopen

/-! ## Text of one line -/

theorem disarmed_eq_self {s : List Char} (hquotes : ¬ docQuotes <:+: s)
    (hcomments : ¬ commentEnd <:+: s) : disarmed s = s := by
  rw [disarmed, replaceTriple_of_not_infix hquotes, replacePair_of_not_infix hcomments]

theorem isOneLine_oneLine (s : List Char) : IsOneLine (oneLine s) := by
  have hwords : ∀ word ∈ splitBlanks (disarmed s), word ≠ [] ∧ ∀ c ∈ word, isBlank c = false := by
    intro word hword
    refine ⟨fun hnil => nil_not_mem_runs _ _ (hnil ▸ hword), fun c hc => ?_⟩
    simpa using runs_all hword c hc
  obtain ⟨hspaced, hfirst⟩ := isSpaced_joinWith hwords
  exact ⟨hspaced, hfirst,
    not_infix_oneLine (by decide) (by decide) (not_docQuotes_infix_disarmed s),
    not_infix_oneLine (by decide) (by decide) (not_commentEnd_infix_disarmed s)⟩

theorem oneLine_eq_self_iff {s : List Char} : oneLine s = s ↔ IsOneLine s := by
  constructor
  · intro h
    rw [← h]
    exact isOneLine_oneLine s
  · intro h
    rw [oneLine, disarmed_eq_self h.quotes h.comments]
    exact h.joinWith_splitBlanks h.first

/-- Whatever a text is, on one line it has words with single blanks between them, no line break and
no mark that ends a comment or a docstring; a second time nothing changes, and a comment made of it
ends where its line does. -/
theorem oneLineText_is_one_line (s : String) :
    IsOneLine (oneLineText s).toList ∧
      (∀ c ∈ (oneLineText s).toList, isLineBreak c = false) ∧
      oneLineText (oneLineText s) = oneLineText s ∧
      ∀ level, IsUnbroken (typescriptDialect.docstring level (oneLineText s)).toList ∧
        ∃ text, Language.typescript.docText?
            (typescriptDialect.docstring level (oneLineText s)).toList = some text ∧
          ClosesAtEnd commentEnd text := by
  have hform : IsOneLine (oneLineText s).toList := by
    rw [oneLineText, String.toList_ofList]
    exact isOneLine_oneLine s.toList
  have htwice : oneLineText (oneLineText s) = oneLineText s := by
    rw [oneLineText, oneLine_eq_self_iff.mpr hform, String.ofList_toList]
  refine ⟨hform, hform.not_isLineBreak, htwice, fun level => ⟨?_, ?_⟩⟩
  · apply (Target.isUnbroken_docstring_iff .interface level _).mpr
    rw [oneLineText, String.toList_ofList]
    exact isUnbroken_oneLine s.toList
  · exact ⟨_, Target.docText?_docstring .interface level (oneLineText s),
      (closesAtEnd_comment_iff _).mpr hform.comments⟩

end RecordTypes

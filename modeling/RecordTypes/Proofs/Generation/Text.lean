import Mathlib.Data.List.DropRight
import RecordTypes.Generation.Assembly
import RecordTypes.Proofs.Text.OneLine

/-! The text of an assembly against its lines. Empty lines at the end are lost in it and nothing
else is, so that the lines are read back from it up to the last one that is filled. -/

namespace RecordTypes

def textLines (text : String) : List String := (text.toList.splitOn '\n').map String.ofList

theorem intercalate_concat (separator last : List Char) {pieces : List (List Char)}
    (hne : pieces ≠ []) :
    separator.intercalate (pieces ++ [last]) =
      separator.intercalate pieces ++ separator ++ last := by
  induction pieces with
  | nil => exact absurd rfl hne
  | cons piece pieces ih =>
    cases pieces with
    | nil => simp [List.intercalate_cons_cons]
    | cons next pieces =>
      have hnext := ih (List.cons_ne_nil next pieces)
      rw [List.cons_append] at hnext
      rw [List.cons_append, List.cons_append, List.intercalate_cons_cons, hnext,
        List.intercalate_cons_cons]
      simp only [List.append_assoc]

/-- Lines with a line feed between any two of them, and without those at the end. -/
def trimmedText (lines : List String) : List Char :=
  ("\n".intercalate lines).toList.rdropWhile (· == '\n')

theorem trimmedText_eq (lines : List String) :
    trimmedText lines =
      (['\n'].intercalate (lines.map String.toList)).rdropWhile (· == '\n') := by
  rw [trimmedText, String.toList_intercalate]
  rfl

theorem trimmedText_concat_empty (lines : List String) :
    trimmedText (lines ++ [""]) = trimmedText lines := by
  cases lines with
  | nil => rfl
  | cons line lines =>
    have hne : (line :: lines).map String.toList ≠ [] := List.cons_ne_nil _ _
    have hempty : [""].map String.toList = [[]] := rfl
    rw [trimmedText_eq, trimmedText_eq, List.map_append, hempty, intercalate_concat _ _ hne,
      List.append_nil, List.rdropWhile_concat_pos (· == '\n') _ _ (beq_self_eq_true '\n')]

theorem trimmedText_append_empty (lines : List String) (n : Nat) :
    trimmedText (lines ++ List.replicate n "") = trimmedText lines := by
  induction n with
  | zero => rw [List.replicate_zero, List.append_nil]
  | succ n ih =>
    rw [List.replicate_succ', ← List.append_assoc, trimmedText_concat_empty, ih]

theorem trimmedText_concat (lines : List String) {last : String} (hfilled : last ≠ "")
    (hend : '\n' ∉ last.toList) :
    trimmedText (lines ++ [last]) = ['\n'].intercalate ((lines ++ [last]).map String.toList) := by
  obtain ⟨front, c, hlast⟩ : ∃ front c, last.toList = front ++ [c] :=
    (List.eq_nil_or_concat' last.toList).resolve_left (by simpa using hfilled)
  have hc : ¬ (c == '\n') = true := by
    rw [beq_iff_eq]
    rintro rfl
    exact hend (by simp [hlast])
  have hjoined : ∃ joined, ['\n'].intercalate ((lines ++ [last]).map String.toList) =
      joined ++ [c] := by
    by_cases hne : lines = []
    · exact ⟨front, by simp [hne, hlast]⟩
    · refine ⟨['\n'].intercalate (lines.map String.toList) ++ ['\n'] ++ front, ?_⟩
      have hlines : lines.map String.toList ≠ [] := by simpa using hne
      rw [List.map_append, List.map_singleton, intercalate_concat _ _ hlines, hlast]
      simp only [List.append_assoc]
  obtain ⟨joined, hjoined⟩ := hjoined
  rw [trimmedText_eq, hjoined, List.rdropWhile_concat_neg (· == '\n') _ _ hc]

theorem exists_eq_append_empty (lines : List String) :
    ∃ n, lines = lines.rdropWhile (· == "") ++ List.replicate n "" := by
  have hempty : ∀ line ∈ lines.rtakeWhile (· == ""), line = "" :=
    fun line hline => beq_iff_eq.mp (List.mem_rtakeWhile_imp (p := (· == "")) hline)
  refine ⟨(lines.rtakeWhile (· == "")).length, ?_⟩
  rw [← List.eq_replicate_of_mem hempty, List.rdropWhile_append_rtakeWhile]

namespace Assembly

theorem toList_text (a : Assembly) : a.text.toList = trimmedText a.lines ++ ['\n'] := by
  rw [text, String.toList_ofList]
  rfl

theorem text_congr {a b : Assembly} (h : trimmedText a.lines = trimmedText b.lines) :
    a.text = b.text := by
  rw [← String.toList_inj, toList_text, toList_text, h]

theorem text_add_empty (a : Assembly) (n : Nat) (registrations : List Registration)
    (tables : List Table) : (a.add (List.replicate n "") registrations tables).text = a.text :=
  text_congr (trimmedText_append_empty a.lines n)

end Assembly

/-- The text ends in a line feed, and in no more than one. -/
def EndsInOneLineFeed (text : String) : Prop :=
  ∃ front, text.toList = front ++ ['\n'] ∧ front.getLast? ≠ some '\n'

theorem Assembly.endsInOneLineFeed_text (a : Assembly) : EndsInOneLineFeed a.text := by
  refine ⟨trimmedText a.lines, a.toList_text, fun hlast => ?_⟩
  have hne : trimmedText a.lines ≠ [] := by
    intro hnil
    simp [hnil] at hlast
  have hnot := List.rdropWhile_last_not _ _ hne
  rw [List.getLast?_eq_some_getLast hne, Option.some.injEq] at hlast
  exact hnot (by simpa [trimmedText] using hlast)

theorem textLines_of_toList {text : String} {front : List Char}
    (h : text.toList = front ++ ['\n']) :
    textLines text = (front.splitOn '\n').map String.ofList ++ [""] := by
  rw [textLines, h, List.splitOn_append_cons_self, List.map_append]
  rfl

theorem Assembly.textLines_text_of_filled {a : Assembly}
    (hlines : ∀ line ∈ a.lines, '\n' ∉ line.toList) (hfilled : ∃ line ∈ a.lines, line ≠ "") :
    textLines a.text = a.lines.rdropWhile (· == "") ++ [""] := by
  obtain ⟨n, hempty⟩ := exists_eq_append_empty a.lines
  have hkept : a.lines.rdropWhile (· == "") ≠ [] := by
    obtain ⟨line, hline, hne⟩ := hfilled
    rw [ne_eq, List.rdropWhile_eq_nil_iff]
    exact fun hall => hne (beq_iff_eq.mp (hall line hline))
  have hlast := List.rdropWhile_last_not _ _ hkept
  have hsub := (List.rdropWhile_prefix (· == "") (l := a.lines)).subset
  generalize a.lines.rdropWhile (· == "") = kept at hempty hkept hlast hsub
  obtain ⟨front, last, rfl⟩ := (List.eq_nil_or_concat' kept).resolve_left hkept
  rw [List.getLast_append_singleton, beq_iff_eq] at hlast
  have hends : ∀ line ∈ (front ++ [last]).map String.toList, '\n' ∉ line := by
    rw [List.forall_mem_map]
    exact fun line hline => hlines line (hsub hline)
  have htrimmed : trimmedText a.lines =
      ['\n'].intercalate ((front ++ [last]).map String.toList) := by
    rw [hempty, trimmedText_append_empty,
      trimmedText_concat front hlast (hlines last (hsub (by simp)))]
  have hback : ((front ++ [last]).map String.toList).map String.ofList = front ++ [last] := by
    simp [Function.comp_def]
  rw [textLines_of_toList a.toList_text, htrimmed,
    List.splitOn_intercalate '\n' hends (by simp), hback]

theorem textLines_text {a : Assembly} (hne : a.lines ≠ [])
    (hlines : ∀ line ∈ a.lines, IsUnbroken line.toList) :
    ∃ kept blanks, a.lines = kept ++ blanks ∧ (∀ line ∈ blanks, line = "") ∧
      textLines a.text = kept ++ [""] := by
  by_cases hfilled : ∃ line ∈ a.lines, line ≠ ""
  · have hends : ∀ line ∈ a.lines, '\n' ∉ line.toList :=
      fun line hline hend => absurd (hlines line hline '\n' hend) (by decide)
    obtain ⟨n, hempty⟩ := exists_eq_append_empty a.lines
    exact ⟨_, _, hempty, fun line => List.eq_of_mem_replicate,
      a.textLines_text_of_filled hends hfilled⟩
  · -- one empty line is kept, for a text without lines would have it too
    obtain ⟨line, lines, hcons⟩ := List.exists_cons_of_ne_nil hne
    have hempty : ∀ line ∈ a.lines, line = "" := by simpa using hfilled
    have htrimmed : trimmedText a.lines = [] := by
      rw [List.eq_replicate_of_mem hempty, ← List.nil_append (List.replicate _ _),
        trimmedText_append_empty]
      rfl
    rw [hcons] at hempty
    refine ⟨[""], lines, ?_, (List.forall_mem_cons.mp hempty).2, ?_⟩
    · rw [hcons, (List.forall_mem_cons.mp hempty).1, List.singleton_append]
    · rw [textLines_of_toList a.toList_text, htrimmed]
      rfl

end RecordTypes

import RecordTypes.Proofs.Code.Token

/-! Code split where it is given a default that is described. What stands in string literals does
not count, so a reader has to know at every character whether it is in one. -/

namespace RecordTypes

/-- What comes between a type and the description of a default. -/
def fieldMark : String := " = Field("

def hasFieldMark : List Char → Bool
  | [] => false
  | c :: rest => fieldMark.toList.isPrefixOf (c :: rest) || hasFieldMark rest

theorem hasFieldMark_iff (s : List Char) : hasFieldMark s = true ↔ fieldMark.toList <:+: s := by
  induction s with
  | nil => simp [hasFieldMark, fieldMark]
  | cons c s ih => simp [hasFieldMark, ih, List.infix_cons_iff]

/-- Code before the first mark outside of literals, and what comes after the mark. -/
def splitAtMark : CodeState → List Char → Option (List Char × List Char)
  | _, [] => none
  | state, c :: rest =>
    if state.isCode && fieldMark.toList.isPrefixOf (c :: rest) then
      some ([], (c :: rest).drop fieldMark.toList.length)
    else (splitAtMark (state.next c) rest).map (withFirst c)

def withFront (s : List Char) (p : List Char × List Char) : List Char × List Char :=
  (s ++ p.1, p.2)

/-- No mark begins within the piece of code, as long as no equals sign comes right after it. -/
structure IsMarkless (s : List Char) : Prop where
  head : s.head? ≠ some '='
  after : ∀ state : CodeState, state.isCode = true → (state.after s).isCode = true
  split : ∀ (state : CodeState) (rest : List Char), state.isCode = true → rest.head? ≠ some '=' →
    splitAtMark state (s ++ rest) = (splitAtMark (state.after s) rest).map (withFront s)

theorem map_withFront_nil (p : Option (List Char × List Char)) : p.map (withFront []) = p := by
  cases p <;> rfl

theorem withFront_append (s t : List Char) (p : List Char × List Char) :
    withFront (s ++ t) p = withFront s (withFront t p) := by
  simp [withFront]

theorem map_withFirst_withFront (c : Char) (s : List Char)
    (p : Option (List Char × List Char)) :
    (p.map (withFront s)).map (withFirst c) = p.map (withFront (c :: s)) := by
  cases p <;> rfl

theorem IsMarkless.append {s t : List Char} (hs : IsMarkless s) (ht : IsMarkless t) :
    IsMarkless (s ++ t) := by
  have hhead (rest : List Char) (hrest : rest.head? ≠ some '=') : (t ++ rest).head? ≠ some '=' := by
    cases t with
    | nil => exact hrest
    | cons c t => exact ht.head
  refine ⟨?_, ?_, ?_⟩
  · cases s with
    | nil => exact ht.head
    | cons c s => exact hs.head
  · intro state hstate
    rw [CodeState.after_append]
    exact ht.after _ (hs.after state hstate)
  · intro state rest hstate hrest
    rw [List.append_assoc, hs.split state _ hstate (hhead rest hrest),
      ht.split _ rest (hs.after state hstate) hrest, CodeState.after_append, Option.map_map]
    congr 1
    funext p
    exact (withFront_append s t p).symm

theorem IsMarkless.nil : IsMarkless [] := by
  exact ⟨by simp, fun state hstate => hstate, fun _ _ _ _ => (map_withFront_nil _).symm⟩

theorem IsMarkless.intercalate {separator : List Char} (hsep : IsMarkless separator)
    {pieces : List (List Char)} (h : ∀ piece ∈ pieces, IsMarkless piece) :
    IsMarkless (separator.intercalate pieces) :=
  intercalate_of_append IsMarkless.nil (fun _ _ => IsMarkless.append) hsep h

theorem splitAtMark_mark {state : CodeState} (h : state.isCode = true) (rest : List Char) :
    splitAtMark state (fieldMark.toList ++ rest) = some ([], rest) := by
  have hmark : fieldMark.toList = ' ' :: "= Field(".toList := by simp [fieldMark]
  have hprefix : fieldMark.toList.isPrefixOf (fieldMark.toList ++ rest) = true :=
    List.isPrefixOf_iff_prefix.mpr (List.prefix_append _ _)
  rw [hmark, List.cons_append, splitAtMark, ← List.cons_append, ← hmark]
  simp only [h, hprefix, Bool.and_self, if_pos, List.drop_left]

theorem IsMarkless.splitAtMark_append {s : List Char} (h : IsMarkless s) (rest : List Char) :
    splitAtMark CodeState.start (s ++ (fieldMark.toList ++ rest)) = some (s, rest) := by
  have hstart : CodeState.start.isCode = true := rfl
  have hhead : (fieldMark.toList ++ rest).head? ≠ some '=' := by simp [fieldMark]
  rw [h.split _ _ hstart hhead, splitAtMark_mark (h.after _ hstart)]
  simp [withFront]

def hasBlankBeforeEquals : List Char → Bool
  | [] => false
  | c :: rest => (c == ' ' && rest.head? == some '=') || hasBlankBeforeEquals rest

theorem isCode_next {state : CodeState} (hstate : state.isCode = true) {c : Char}
    (hc : opensLiteral c = false) : (state.next c).isCode = true := by
  cases state with
  | code afterPoint word =>
    by_cases hname : isNameChar c = true
    · simp [CodeState.next, hname, CodeState.isCode]
    · simp [CodeState.next, hname, hc, CodeState.isCode]
  | literal => cases hstate
  | escape => cases hstate

theorem isCode_after {state : CodeState} (hstate : state.isCode = true) {s : List Char}
    (hs : ∀ c ∈ s, opensLiteral c = false) : (state.after s).isCode = true := by
  induction s generalizing state with
  | nil => exact hstate
  | cons c s ih =>
    exact ih (isCode_next hstate (hs c List.mem_cons_self))
      fun d hd => hs d (List.mem_cons_of_mem c hd)

theorem splitAtMark_plain {state : CodeState} (hstate : state.isCode = true) {s rest : List Char}
    (hliteral : ∀ c ∈ s, opensLiteral c = false) (hmark : hasBlankBeforeEquals s = false)
    (hrest : rest.head? ≠ some '=') :
    splitAtMark state (s ++ rest) = (splitAtMark (state.after s) rest).map (withFront s) := by
  induction s generalizing state with
  | nil => exact (map_withFront_nil _).symm
  | cons c s ih =>
    simp only [hasBlankBeforeEquals, Bool.or_eq_false_iff] at hmark
    have hno : fieldMark.toList.isPrefixOf (c :: (s ++ rest)) = false := by
      rw [Bool.eq_false_iff, ne_eq, List.isPrefixOf_iff_prefix]
      rintro ⟨tail, htail⟩
      have hfield : fieldMark.toList = ' ' :: '=' :: " Field(".toList := by simp [fieldMark]
      rw [hfield] at htail
      obtain ⟨rfl, hh⟩ := List.cons.inj htail
      cases s with
      | nil =>
        apply hrest
        rw [← List.nil_append rest, ← hh]
        rfl
      | cons d s =>
        obtain ⟨rfl, -⟩ := List.cons.inj hh
        simp at hmark
    rw [List.cons_append, splitAtMark, hno, Bool.and_false, if_neg Bool.false_ne_true,
      ih (isCode_next hstate (hliteral c List.mem_cons_self))
        (fun d hd => hliteral d (List.mem_cons_of_mem c hd)) hmark.2, map_withFirst_withFront]
    rfl

structure IsPlain (s : List Char) : Prop where
  head : s.head? ≠ some '='
  literal : ∀ c ∈ s, opensLiteral c = false
  mark : hasBlankBeforeEquals s = false

instance (s : List Char) : Decidable (IsPlain s) :=
  decidable_of_iff (s.head? ≠ some '=' ∧ s.any opensLiteral = false ∧
      hasBlankBeforeEquals s = false) <| by
    simp only [List.any_eq_false, Bool.not_eq_true]
    exact ⟨fun h => ⟨h.1, h.2.1, h.2.2⟩, fun h => ⟨h.head, h.literal, h.mark⟩⟩

theorem IsPlain.isMarkless {s : List Char} (h : IsPlain s) : IsMarkless s :=
  ⟨h.head, fun _ hstate => isCode_after hstate h.literal,
    fun _ _ hstate hrest => splitAtMark_plain hstate h.literal h.mark hrest⟩

theorem IsMarkless.of_isName {s : List Char} (h : IsName s) : IsMarkless s := by
  refine IsPlain.isMarkless ⟨fun hhead => ?_, fun c hc => ?_, ?_⟩
  · exact h.not_mem (by decide) (List.mem_of_head? hhead)
  · rw [opensLiteral, Bool.or_eq_false_iff, beq_eq_false_iff_ne, beq_eq_false_iff_ne]
    exact ⟨fun hquote => h.not_mem (by decide) (hquote ▸ hc),
      fun hquote => h.not_mem (by decide) (hquote ▸ hc)⟩
  · have hblank : ' ' ∉ s := h.not_mem (by decide)
    clear h
    induction s with
    | nil => rfl
    | cons c s ih =>
      have hc : c ≠ ' ' := fun h => hblank (h ▸ List.mem_cons_self)
      simp [hasBlankBeforeEquals, hc, ih fun hs => hblank (List.mem_cons_of_mem c hs)]

theorem splitAtMark_quoted {state : CodeState} {s : List Char} (hstate : state.isCode = false)
    (htokens : state.tokens s = []) (rest : List Char) :
    splitAtMark state (s ++ rest) = (splitAtMark (state.after s) rest).map (withFront s) := by
  induction s generalizing state with
  | nil => exact (map_withFront_nil _).symm
  | cons c s ih =>
    rw [CodeState.tokens, List.append_eq_nil_iff] at htokens
    have hnext : (state.next c).isCode = false := by
      cases state with
      | code => cases hstate
      | escape => rfl
      | literal quote raw =>
        -- the closing quote would have completed a token
        have hquote : ¬ c = quote := by
          rintro rfl
          simp [CodeState.completed] at htokens
        by_cases hescape : c = backslash
        · subst hescape
          simp [CodeState.next, hquote, CodeState.isCode]
        · simp [CodeState.next, hquote, hescape, CodeState.isCode]
    rw [List.cons_append, splitAtMark, hstate, Bool.false_and, if_neg Bool.false_ne_true,
      ih hnext htokens.2, map_withFirst_withFront]
    rfl

theorem isMarkless_doubleQuoted (s : List Char) : IsMarkless (doubleQuoted s) := by
  have hbody := StaysQuoted.flatMap staysQuoted_escapeDouble s []
  have hopen (state : CodeState) (hstate : state.isCode = true) :
      state.next quotationMark = .literal quotationMark [] := by
    cases state with
    | code => rfl
    | literal => cases hstate
    | escape => cases hstate
  have hafter (state : CodeState) (hstate : state.isCode = true) :
      state.after (doubleQuoted s) = CodeState.start := by
    change (state.next quotationMark).after (s.flatMap escapeDouble ++ [quotationMark]) = _
    rw [hopen state hstate, CodeState.after_append, hbody.1]
    rfl
  refine ⟨by simp [doubleQuoted, quotationMark], fun state hstate => ?_,
    fun state rest hstate _ => ?_⟩
  · rw [hafter state hstate]
    rfl
  · have hquoted := splitAtMark_quoted rfl hbody.2 (quotationMark :: rest)
    have hfirst (tail : List Char) :
        fieldMark.toList.isPrefixOf (quotationMark :: tail) = false := rfl
    have hlast : splitAtMark (.literal quotationMark (s.flatMap escapeDouble))
        (quotationMark :: rest) =
          (splitAtMark CodeState.start rest).map (withFirst quotationMark) := rfl
    rw [hbody.1, List.nil_append, hlast] at hquoted
    rw [hafter state hstate, doubleQuoted, List.cons_append, List.append_assoc,
      List.singleton_append, splitAtMark, hfirst, Bool.and_false, if_neg Bool.false_ne_true,
      hopen state hstate, hquoted]
    cases splitAtMark CodeState.start rest <;> simp [withFront, withFirst]

end RecordTypes

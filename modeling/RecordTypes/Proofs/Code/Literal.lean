import RecordTypes.Proofs.Code.Line
import RecordTypes.Proofs.Text.PythonLiteral

/-! Quoted text in written code. A literal stands for the text that was quoted and ends at its own
closing quote, whatever follows on it. -/

namespace RecordTypes

/-! ## Quoting by replacements -/

/-- The replacements are made one after another in the whole text. Backslashes come first, so that
those which are put in by the later ones are not doubled. -/
def replacedSingle (s : List Char) : List Char :=
  replaceChar '\r' [backslash, 'r'] (replaceChar '\n' [backslash, 'n']
    (replaceChar apostrophe [backslash, apostrophe]
      (replaceChar backslash [backslash, backslash] s)))

theorem replacedSingle_singleton (c : Char) : replacedSingle [c] = escapeSingle c := by
  by_cases hescape : c = backslash
  · subst hescape
    decide
  by_cases hquote : c = apostrophe
  · subst hquote
    decide
  by_cases hfeed : c = '\n'
  · subst hfeed
    decide
  by_cases hreturn : c = '\r'
  · subst hreturn
    decide
  simp [replacedSingle, replaceChar, escapeSingle, hescape, hquote, hfeed, hreturn]

theorem replacedSingle_append (s t : List Char) :
    replacedSingle (s ++ t) = replacedSingle s ++ replacedSingle t := by
  simp only [replacedSingle, replaceChar, List.flatMap_append]

theorem replacedSingle_eq (s : List Char) : replacedSingle s = s.flatMap escapeSingle := by
  induction s with
  | nil => rfl
  | cons c s ih =>
    rw [← List.singleton_append, replacedSingle_append, replacedSingle_singleton, ih]
    simp

/-! ## What a literal leaves of what follows -/

theorem append_eq_append_iff_of_read {quote : List Char → List Char}
    {read : List Char → Option (List Char × List Char)}
    (hread : ∀ s rest, read (quote s ++ rest) = some (s, rest)) (s t rest more : List Char) :
    quote s ++ rest = quote t ++ more ↔ s = t ∧ rest = more := by
  refine ⟨fun h => ?_, fun ⟨hs, hrest⟩ => by rw [hs, hrest]⟩
  have hboth := hread s rest
  rw [h, hread t more] at hboth
  obtain ⟨hst, hrest⟩ := Prod.mk.inj (Option.some.inj hboth)
  exact ⟨hst.symm, hrest.symm⟩

theorem singleQuoted_append_eq_iff (s t rest more : List Char) :
    singleQuoted s ++ rest = singleQuoted t ++ more ↔ s = t ∧ rest = more :=
  append_eq_append_iff_of_read readSingleQuoted_append s t rest more

theorem doubleQuoted_append_eq_iff (s t rest more : List Char) :
    doubleQuoted s ++ rest = doubleQuoted t ++ more ↔ s = t ∧ rest = more :=
  append_eq_append_iff_of_read readDoubleQuoted_append s t rest more

/-- A quoted text is read back as it was, and what follows its literal is left. No line ends in a
literal, and no literal goes on in another one. A reader that looks for three quotation marks before
it looks for one finds them only where one follows on an empty literal. -/
theorem quoted_text_is_read_back (charNamed : List Char → Option Nat) (s rest : List Char) :
    (singleQuoted s = apostrophe :: (replacedSingle s ++ [apostrophe]) ∧
      readSingleQuoted (singleQuoted s ++ rest) = some (s, rest) ∧
      IsUnbroken (singleQuoted s)) ∧
    (oneQuote.read? charNamed (doubleQuoted s ++ rest) = some (s.map Char.toNat, rest) ∧
      (docQuotes <+: doubleQuoted s ++ rest ↔ s = [] ∧ rest.head? = some quotationMark) ∧
      IsUnbroken (doubleQuoted s)) ∧
    (∀ t more, (singleQuoted s ++ rest = singleQuoted t ++ more ↔ s = t ∧ rest = more) ∧
      (doubleQuoted s ++ rest = doubleQuoted t ++ more ↔ s = t ∧ rest = more)) ∧
    Function.Injective singleQuoted ∧ Function.Injective doubleQuoted := by
  have hsingle : Function.Injective singleQuoted := fun s t h =>
    ((singleQuoted_append_eq_iff s t [] []).mp (congrArg (· ++ []) h)).1
  have hdouble : Function.Injective doubleQuoted := fun s t h =>
    ((doubleQuoted_append_eq_iff s t [] []).mp (congrArg (· ++ []) h)).1
  refine ⟨⟨?_, readSingleQuoted_append s rest, ?_⟩,
    ⟨read?_doubleQuoted charNamed s rest, docQuotes_prefix_doubleQuoted_iff s rest, ?_⟩,
    fun t more => ⟨singleQuoted_append_eq_iff s t rest more,
      doubleQuoted_append_eq_iff s t rest more⟩, hsingle, hdouble⟩
  · rw [replacedSingle_eq]
    rfl
  · exact isUnbroken_quotes (by decide) isUnbroken_escapeSingle s
  · exact isUnbroken_quotes (by decide) isUnbroken_escapeDouble s

end RecordTypes

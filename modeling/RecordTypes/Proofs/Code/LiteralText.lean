import RecordTypes.Proofs.Code.Token
import RecordTypes.Target.Basic

/-! The texts that stand in the string literals of a piece of code, in their order. A piece that
ends outside of literals and names adds its texts to those of what follows on it. -/

namespace RecordTypes

def CodeToken.literal? : CodeToken → Option (Char × List Char)
  | .literal quote raw => some (quote, raw)
  | _ => none

/-- The text that the characters between two quotes stand for. -/
def readRaw (quote : Char) (raw : List Char) : Option String :=
  match (if quote == apostrophe then readSingleBody else readDoubleBody) (raw ++ [quote]) with
  | some (text, []) => some (String.ofList text)
  | _ => none

def readLiterals (tokens : List CodeToken) : Option (List String) :=
  (tokens.filterMap CodeToken.literal?).mapM fun (quote, raw) => readRaw quote raw

/-- The texts of all string literals, if each of them is closed and can be read. -/
def literalTexts (s : List Char) : Option (List String) :=
  if (CodeState.start.after s).isCode then readLiterals (codeTokens s) else none

example : literalTexts "z.enum(['it\\'s', 'a, b'])".toList = some ["it's", "a, b"] := by
  decide +kernel

theorem readLiterals_append (tokens more : List CodeToken) :
    readLiterals (tokens ++ more) =
      (readLiterals tokens).bind fun texts => (readLiterals more).map (texts ++ ·) := by
  rw [readLiterals, List.filterMap_append, List.mapM_append]
  change (readLiterals tokens).bind (fun texts => (readLiterals more).bind fun others =>
    some (texts ++ others)) = _
  cases readLiterals more <;> rfl

/-- A piece of code with the texts of its literals, after which a reader is where it was before. -/
structure HasLiterals (s : List Char) (texts : List String) : Prop where
  start : CodeState.start.after s = CodeState.start
  read : readLiterals (CodeState.start.tokens s) = some texts

instance (s : List Char) (texts : List String) : Decidable (HasLiterals s texts) :=
  decidable_of_iff (CodeState.start.after s = CodeState.start ∧
      readLiterals (CodeState.start.tokens s) = some texts)
    ⟨fun h => ⟨h.1, h.2⟩, fun h => ⟨h.start, h.read⟩⟩

theorem HasLiterals.literalTexts_eq {s : List Char} {texts : List String}
    (h : HasLiterals s texts) : literalTexts s = some texts := by
  rw [literalTexts, codeTokens, h.start]
  exact (congrArg readLiterals (List.append_nil _)).trans h.read

theorem HasLiterals.nil : HasLiterals [] [] := by decide

theorem HasLiterals.append {s t : List Char} {texts more : List String} (hs : HasLiterals s texts)
    (ht : HasLiterals t more) : HasLiterals (s ++ t) (texts ++ more) where
  start := by rw [CodeState.after_append, hs.start, ht.start]
  read := by
    rw [CodeState.tokens_append, hs.start, readLiterals_append, hs.read, ht.read]
    rfl

theorem HasLiterals.flatMap {α : Type} {code : α → List Char} {texts : α → List String}
    {xs : List α} (h : ∀ x ∈ xs, HasLiterals (code x) (texts x)) :
    HasLiterals (xs.flatMap code) (xs.flatMap texts) := by
  induction xs with
  | nil => exact HasLiterals.nil
  | cons x xs ih =>
    obtain ⟨hx, hrest⟩ := List.forall_mem_cons.mp h
    exact hx.append (ih hrest)

theorem HasLiterals.intercalate {separator : List Char} (hsep : HasLiterals separator [])
    {quote : String → List Char} (hquote : ∀ text, HasLiterals (quote text) [text])
    (texts : List String) : HasLiterals (separator.intercalate (texts.map quote)) texts := by
  induction texts with
  | nil => exact HasLiterals.nil
  | cons text texts ih =>
    cases texts with
    | nil => simpa using hquote text
    | cons next texts =>
      rw [List.map_cons, List.map_cons, List.intercalate_cons_cons]
      exact ((hquote text).append hsep).append ih

/-! ## Quoted texts -/

theorem hasLiterals_quoted {quote : Char} {body : List Char} {text : String}
    (hquote : opensLiteral quote = true) (hname : isNameChar quote = false)
    (hbody : StaysQuoted quote body) (hread : readRaw quote body = some text) :
    HasLiterals (quote :: (body ++ [quote])) [text] := by
  obtain ⟨hstart, htokens⟩ := CodeState.tokens_quoted hquote hname hbody
  refine ⟨hstart, ?_⟩
  rw [htokens]
  simp [readLiterals, CodeToken.literal?, hread]

theorem hasLiterals_singleQuoted (s : List Char) :
    HasLiterals (singleQuoted s) [String.ofList s] := by
  have hread := readSingleQuoted_append s []
  rw [List.append_nil, singleQuoted, readSingleQuoted, if_pos (by decide)] at hread
  refine hasLiterals_quoted (by decide) (by decide)
    (StaysQuoted.flatMap staysQuoted_escapeSingle s) ?_
  rw [readRaw, if_pos (by decide), hread]

theorem hasLiterals_doubleQuoted (s : List Char) :
    HasLiterals (doubleQuoted s) [String.ofList s] := by
  have hread := readDoubleQuoted_append s []
  rw [List.append_nil, doubleQuoted, readDoubleQuoted, if_pos (by decide)] at hread
  refine hasLiterals_quoted (by decide) (by decide)
    (StaysQuoted.flatMap staysQuoted_escapeDouble s) ?_
  rw [readRaw, if_neg (by decide), hread]

theorem Target.hasLiterals_quoted (target : Target) (text : String) :
    HasLiterals (target.dialect.quoted text).toList [text] := by
  have hsingle := hasLiterals_singleQuoted text.toList
  have hdouble := hasLiterals_doubleQuoted text.toList
  rw [String.ofList_toList] at hsingle hdouble
  rw [Dialect.quoted, String.toList_ofList]
  cases target with
  | interface | zod => exact hsingle
  | typedDict | model => exact hdouble

end RecordTypes

import RecordTypes.Proofs.Code.Line
import RecordTypes.Target.Names

/-! Remarks on tables and fields. Their names are put on one line, but their ids are written as they
are, so that a remark fits a docstring or comment if the id in it does. -/

namespace RecordTypes

/-! ## Names and ids -/

theorem fits_oneLineText (language : Language) (s : String) :
    language.Fits (oneLineText s).toList := by
  have hend : language.docEnd ≠ [] ∧ ' ' ∉ language.docEnd := by cases language <;> decide
  have hdisarmed : ¬ language.docEnd <:+: disarmed s.toList := by
    cases language with
    | typescript => exact not_commentEnd_infix_disarmed _
    | python => exact not_docQuotes_infix_disarmed _
  rw [oneLineText, String.toList_ofList]
  exact ⟨isUnbroken_oneLine _, not_infix_oneLine hend.1 hend.2 hdisarmed⟩

theorem getLast?_accent (s : String) : (s ++ "\x60").toList.getLast? = some '\x60' := by
  rw [String.toList_append, List.getLast?_append]
  rfl

/-- A character that neither ends a line nor begins the end of a docstring. -/
def isHarmless (c : Char) : Bool := !isLineEnd c && c != '*' && c != quotationMark

theorem Language.fits_of_harmless (language : Language) {s : List Char}
    (h : s.all isHarmless = true) : language.Fits s := by
  have hchars := List.all_eq_true.mp h
  refine ⟨fun c hc => ?_, fun hend => ?_⟩
  · have hc := hchars c hc
    simp only [isHarmless, Bool.and_eq_true, Bool.not_eq_true'] at hc
    exact hc.1.1
  · cases language with
    | typescript => exact absurd (hchars '*' (hend.subset (by decide))) (by decide)
    | python => exact absurd (hchars quotationMark (hend.subset (by decide))) (by decide)

theorem isUnbroken_idRemark_iff (name id : String) {ending : String}
    (hending : IsUnbroken ending.toList) :
    IsUnbroken (oneLineText name ++ " \x60" ++ id ++ "\x60" ++ ending).toList ↔
      IsUnbroken id.toList := by
  have hname := (fits_oneLineText .python name).unbroken
  have hmark : IsUnbroken " \x60".toList ∧ IsUnbroken "\x60".toList := by decide
  simp only [String.toList_append, isUnbroken_append_iff, hname, hending, hmark, true_and, and_true]

theorem Language.fits_idRemark_iff (language : Language) (name id : String) {ending : String}
    (hending : language.Fits ending.toList) :
    language.Fits (oneLineText name ++ " \x60" ++ id ++ "\x60" ++ ending).toList ↔
      language.Fits id.toList := by
  have htext : (oneLineText name ++ " \x60" ++ id ++ "\x60" ++ ending).toList =
      ((oneLineText name).toList ++ ' ' :: []) ++
        '\x60' :: (id.toList ++ '\x60' :: ending.toList) := by
    simp
  have hname : language.Fits ((oneLineText name).toList ++ ' ' :: []) :=
    (language.fits_append_cons_iff (by cases language <;> decide) (by decide)).mpr
      ⟨fits_oneLineText language name, language.fits_of_harmless rfl⟩
  rw [htext, language.fits_accent_iff, language.fits_accent_iff]
  exact ⟨fun h => h.2.1, fun h => ⟨hname, h, hending⟩⟩

theorem head?_idRemark_iff (name rest : String) :
    (oneLineText name ++ (" \x60" ++ rest)).toList.head? = some quotationMark ↔
      (oneLineText name).toList.head? = some quotationMark := by
  rw [String.toList_append]
  cases (oneLineText name).toList with
  | nil => simp [quotationMark]
  | cons c cs => simp

/-! ## Remarks as a whole -/

/-- What may follow the id in the remark on a field. -/
def remarkEndings : List String :=
  ["", " - \x60Primary Key\x60", " - \x60Read-Only Field\x60",
   " - \x60Primary Key\x60 - \x60Read-Only Field\x60"]

theorem Field.remark_eq (field : Field) (table : Table) : ∃ ending ∈ remarkEndings,
    field.remark table =
      oneLineText field.label ++ " \x60" ++ field.idText ++ "\x60" ++ ending := by
  unfold Field.remark
  cases field.isPrimary table <;> cases field.isReadOnly <;>
    simp [remarkEndings, String.append_assoc]

theorem fits_remarkEnding (language : Language) : ∀ ending ∈ remarkEndings,
    language.Fits ending.toList ∧ ("\x60" ++ ending).toList.getLast? = some '\x60' := by
  have hharmless : ∀ ending ∈ remarkEndings, ending.toList.all isHarmless = true ∧
      ("\x60" ++ ending).toList.getLast? = some '\x60' := by
    decide
  intro ending hending
  obtain ⟨hchars, hlast⟩ := hharmless ending hending
  exact ⟨language.fits_of_harmless hchars, hlast⟩

theorem Field.getLast?_remark (field : Field) (table : Table) :
    (field.remark table).toList.getLast? = some '\x60' := by
  obtain ⟨ending, hending, hremark⟩ := field.remark_eq table
  rw [hremark, String.append_assoc, String.toList_append, List.getLast?_append,
    (fits_remarkEnding .python ending hending).2]
  rfl

theorem Field.head?_remark_iff (field : Field) (table : Table) :
    (field.remark table).toList.head? = some quotationMark ↔
      (oneLineText field.label).toList.head? = some quotationMark := by
  obtain ⟨ending, -, hremark⟩ := field.remark_eq table
  simp only [hremark, String.append_assoc]
  exact head?_idRemark_iff _ _

theorem Field.fits_remark_iff (field : Field) (table : Table) (language : Language) :
    language.Fits (field.remark table).toList ↔ language.Fits field.idText.toList := by
  obtain ⟨ending, hending, hremark⟩ := field.remark_eq table
  rw [hremark]
  exact language.fits_idRemark_iff _ _ (fits_remarkEnding language ending hending).1

theorem Field.isUnbroken_remark_iff (field : Field) (table : Table) :
    IsUnbroken (field.remark table).toList ↔ IsUnbroken field.idText.toList := by
  obtain ⟨ending, hending, hremark⟩ := field.remark_eq table
  have hfits := (fits_remarkEnding .python ending hending).1
  rw [hremark]
  exact isUnbroken_idRemark_iff _ _ hfits.unbroken

theorem Table.getLast?_remark (table : Table) : table.remark.toList.getLast? = some '\x60' :=
  getLast?_accent _

theorem Table.head?_remark_iff (table : Table) :
    table.remark.toList.head? = some quotationMark ↔
      (oneLineText table.name).toList.head? = some quotationMark := by
  simp only [Table.remark, String.append_assoc]
  exact head?_idRemark_iff _ _

theorem Table.fits_remark_iff (table : Table) (language : Language) :
    language.Fits table.remark.toList ↔ language.Fits table.id.toList := by
  have hremark : table.remark = oneLineText table.name ++ " \x60" ++ table.id ++ "\x60" ++ "" := by
    rw [String.append_empty]
    rfl
  rw [hremark]
  exact language.fits_idRemark_iff _ _ (fits_remarkEnding language "" (by decide)).1

/-- What is said of the choices of a field. No id stands in it. -/
def Field.optionsRemark (field : Field) : String :=
  "Select options for \x60" ++ oneLineText field.label ++ "\x60"

theorem Field.toList_optionsRemark (field : Field) : field.optionsRemark.toList =
    "Select options for ".toList ++ '\x60' :: ((oneLineText field.label).toList ++ ['\x60']) := by
  have hopening : "Select options for \x60".toList = "Select options for ".toList ++ ['\x60'] := by
    decide
  unfold optionsRemark
  simp only [String.toList_append, hopening, List.append_assoc, List.singleton_append]
  rfl

theorem Field.getLast?_optionsRemark (field : Field) :
    field.optionsRemark.toList.getLast? = some '\x60' := getLast?_accent _

theorem Field.fits_optionsRemark (field : Field) (language : Language) :
    language.Fits field.optionsRemark.toList := by
  rw [field.toList_optionsRemark, language.fits_accent_iff, language.fits_accent_iff]
  exact ⟨language.fits_of_harmless (by decide), fits_oneLineText language _,
    language.fits_of_harmless rfl⟩

end RecordTypes

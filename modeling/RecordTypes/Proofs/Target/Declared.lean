import Mathlib.Data.List.Perm.Basic
import RecordTypes.Proofs.Code.Split
import RecordTypes.Target.Declaration

/-! The names that written lines declare, read from the lines alone. In TypeScript these come after
a keyword at the front of a line; in Python what follows them tells. The fields of a model are
declared in the type that was begun last, and go by its name and theirs. -/

namespace RecordTypes

def nameAndRest (s : List Char) : List Char × List Char :=
  (s.takeWhile isNameChar, s.dropWhile isNameChar)

theorem nameAndRest_append {w : List Char} (hw : IsName w) {c : Char}
    (hc : isNameChar c = false) (rest : List Char) :
    nameAndRest (w ++ c :: rest) = (w, c :: rest) := by
  simp [nameAndRest, List.takeWhile_append_of_pos hw, List.dropWhile_append_of_pos hw, hc]

/-- What comes before a name that TypeScript declares. -/
def declarators : List String := ["export interface ", "export const ", "export type "]

/-- What comes after a name that Python declares without a class. -/
def definers : List String := [" = TypedDict(", " = Literal[", " = Annotated[", ": dict["]

def exportedName? (line : List Char) : Option String :=
  (declarators.findSome? fun opening => line.dropPrefix? opening.toList).map
    fun rest => String.ofList (nameAndRest rest).1

def definedName? (line : List Char) : Option String :=
  if definers.any (fun mark => mark.toList.isPrefixOf (nameAndRest line).2) then
    some (String.ofList (nameAndRest line).1)
  else none

def className? (line : List Char) : Option String :=
  match line.dropPrefix? "class ".toList with
  | some rest =>
    if ['('].isPrefixOf (nameAndRest rest).2 then some (String.ofList (nameAndRest rest).1)
    else none
  | none => none

def fieldName? (line : List Char) : Option String :=
  match line.dropPrefix? "    ".toList with
  | some rest =>
    if ": ".toList.isPrefixOf (nameAndRest rest).2 && hasFieldMark (nameAndRest rest).2 then
      some (String.ofList (nameAndRest rest).1)
    else none
  | none => none

theorem nameAndRest_colon {name : String} (hname : IsName name.toList) (rest : List Char) :
    nameAndRest (name.toList ++ (": ".toList ++ rest)) = (name.toList, ": ".toList ++ rest) :=
  nameAndRest_append hname (by decide) _

theorem toList_propertyLine (name type : String) {default : String} {tail : List Char}
    (hdefault : default.toList = "Field(".toList ++ tail) :
    (propertyLine pythonDialect name type default).toList = "    ".toList ++
      (name.toList ++ (": ".toList ++ (type.toList ++ (fieldMark.toList ++ tail)))) := by
  have hempty : default.isEmpty = false := by
    rw [Bool.eq_false_iff]
    intro h
    rw [String.isEmpty_iff] at h
    simp [h] at hdefault
  simp [propertyLine, hempty, Dialect.indented, pythonDialect, hdefault, fieldMark, List.replicate]

theorem exportedName?_append {opening name : String} (hopening : opening ∈ declarators)
    (hname : IsName name.toList) (rest : List Char) :
    exportedName? (opening.toList ++ (name.toList ++ ' ' :: rest)) = some name := by
  have hblank : isNameChar ' ' = false := by decide
  simp only [declarators, List.mem_cons, List.not_mem_nil, or_false] at hopening
  rcases hopening with rfl | rfl | rfl <;>
    simp [exportedName?, declarators, List.dropPrefix?, nameAndRest_append hname hblank]

theorem nameAndRest_definer {name mark : String} (hmark : mark ∈ definers)
    (hname : IsName name.toList) (rest : List Char) :
    nameAndRest (name.toList ++ (mark.toList ++ rest)) = (name.toList, mark.toList ++ rest) := by
  simp only [definers, List.mem_cons, List.not_mem_nil, or_false] at hmark
  rcases hmark with rfl | rfl | rfl | rfl <;> exact nameAndRest_append hname (by decide) _

theorem definedName?_append {name mark : String} (hmark : mark ∈ definers)
    (hname : IsName name.toList) (rest : List Char) :
    definedName? (name.toList ++ (mark.toList ++ rest)) = some name := by
  have hany : definers.any (fun m => m.toList.isPrefixOf (mark.toList ++ rest)) = true :=
    List.any_eq_true.mpr ⟨mark, hmark, List.isPrefixOf_iff_prefix.mpr (List.prefix_append _ _)⟩
  simp only [definedName?, nameAndRest_definer hmark hname, hany, if_pos, String.ofList_toList]

theorem className?_append {name : String} (hname : IsName name.toList) (rest : List Char) :
    className? ("class ".toList ++ (name.toList ++ '(' :: rest)) = some name := by
  have hparen : isNameChar '(' = false := by decide
  simp only [className?, dropPrefix?_append, nameAndRest_append hname hparen]
  simp

theorem definedName?_class {name : String} (hname : IsName name.toList) (rest : List Char) :
    definedName? ("class ".toList ++ (name.toList ++ '(' :: rest)) = none := by
  have hword : nameAndRest ("class ".toList ++ (name.toList ++ '(' :: rest)) =
      ("class".toList, ' ' :: (name.toList ++ '(' :: rest)) :=
    nameAndRest_append (w := "class".toList) (by decide) (by decide) _
  obtain ⟨c, tail, htail, hc⟩ : ∃ c tail, name.toList ++ '(' :: rest = c :: tail ∧ c ≠ '=' := by
    cases hchars : name.toList with
    | nil => exact ⟨'(', rest, rfl, by decide⟩
    | cons c cs =>
      refine ⟨c, cs ++ '(' :: rest, rfl, ?_⟩
      rintro rfl
      exact absurd (hname '=' (by simp [hchars])) (by decide)
  have hnone : definers.any (fun mark => mark.toList.isPrefixOf (' ' :: c :: tail)) = false := by
    simp [definers, List.isPrefixOf, hc.symm]
  rw [htail] at hword ⊢
  simp only [definedName?, hword, hnone]
  rfl

namespace Target

/-- The name that a line declares at its front. -/
def declaredName? (target : Target) (line : String) : Option String :=
  match target.language with
  | .typescript => exportedName? line.toList
  | .python => definedName? line.toList <|> className? line.toList

def memberName? (target : Target) (line : String) : Option String :=
  match target with
  | .model => fieldName? line.toList
  | _ => none

/-- The names that lines declare which come after the beginning of a type. -/
def declaredIn (target : Target) (owner : String) : List String → List String
  | [] => []
  | line :: rest =>
    match target.declaredName? line with
    | some name => name :: target.declaredIn name rest
    | none =>
      ((target.memberName? line).map fun member => owner ++ "." ++ member).toList ++
        target.declaredIn owner rest

/-- The names that lines declare, from top to bottom. -/
def declaredNames (target : Target) (lines : List String) : List String :=
  target.declaredIn "" lines

/-- Whatever type was begun before the lines, they declare the names. -/
def Declares (target : Target) (lines names : List String) : Prop :=
  ∀ owner, ∃ last, ∀ rest,
    target.declaredIn owner (lines ++ rest) = names ++ target.declaredIn last rest

theorem Declares.names_eq {target : Target} {lines names : List String}
    (h : target.Declares lines names) : target.declaredNames lines = names := by
  obtain ⟨last, hlast⟩ := h ""
  simpa [declaredNames, declaredIn] using hlast []

theorem Declares.nil (target : Target) : target.Declares [] [] := fun owner => ⟨owner, fun _ => rfl⟩

theorem Declares.append {target : Target} {lines lines' names names' : List String}
    (h : target.Declares lines names) (h' : target.Declares lines' names') :
    target.Declares (lines ++ lines') (names ++ names') := by
  intro owner
  obtain ⟨middle, hmiddle⟩ := h owner
  obtain ⟨last, hlast⟩ := h' middle
  refine ⟨last, fun rest => ?_⟩
  rw [List.append_assoc, hmiddle, hlast, List.append_assoc]

theorem Declares.flatMap {α : Type} {target : Target} {lines names : α → List String} {xs : List α}
    (h : ∀ x ∈ xs, target.Declares (lines x) (names x)) :
    target.Declares (xs.flatMap lines) (xs.flatMap names) := by
  induction xs with
  | nil => exact Declares.nil target
  | cons x xs ih =>
    rw [List.flatMap_cons, List.flatMap_cons]
    exact (h x List.mem_cons_self).append (ih fun y hy => h y (List.mem_cons_of_mem _ hy))

theorem Declares.cons {target : Target} {line name : String} {lines names : List String}
    (hname : target.declaredName? line = some name) (h : target.Declares lines names) :
    target.Declares (line :: lines) (name :: names) := by
  intro owner
  obtain ⟨last, hlast⟩ := h name
  exact ⟨last, fun rest => by simp [declaredIn, hname, hlast]⟩

structure IsSilent (target : Target) (line : String) : Prop where
  declared : target.declaredName? line = none
  member : target.memberName? line = none

instance (target : Target) (line : String) : Decidable (target.IsSilent line) :=
  decidable_of_iff (target.declaredName? line = none ∧ target.memberName? line = none)
    ⟨fun h => ⟨h.1, h.2⟩, fun h => ⟨h.declared, h.member⟩⟩

theorem declaredIn_silent {target : Target} {line : String} (h : target.IsSilent line)
    (owner : String) (rest : List String) :
    target.declaredIn owner (line :: rest) = target.declaredIn owner rest := by
  simp [declaredIn, h.declared, h.member]

theorem declaredIn_of_silent {target : Target} {lines : List String}
    (h : ∀ line ∈ lines, target.IsSilent line) (owner : String) (rest : List String) :
    target.declaredIn owner (lines ++ rest) = target.declaredIn owner rest := by
  induction lines with
  | nil => rfl
  | cons line lines ih =>
    rw [List.cons_append, declaredIn_silent (h line List.mem_cons_self)]
    exact ih fun l hl => h l (List.mem_cons_of_mem _ hl)

theorem Declares.of_silent {target : Target} {lines : List String}
    (h : ∀ line ∈ lines, target.IsSilent line) : target.Declares lines [] :=
  fun owner => ⟨owner, declaredIn_of_silent h owner⟩

theorem Declares.skip {target : Target} {line : String} {lines names : List String}
    (hline : target.IsSilent line) (h : target.Declares lines names) :
    target.Declares (line :: lines) names := by
  intro owner
  obtain ⟨last, hlast⟩ := h owner
  refine ⟨last, fun rest => ?_⟩
  rw [List.cons_append, declaredIn_silent hline, hlast]

/-! ## Lines that declare nothing -/

theorem declaredName?_of_blanks (target : Target) {line : String} {rest : List Char}
    (h : line.toList = ' ' :: ' ' :: rest) : target.declaredName? line = none := by
  cases target <;> simp only [declaredName?, language, h] <;> rfl

/-- A character that begins neither a name nor what comes after one. -/
def isMark (c : Char) : Bool := !isNameChar c && c != ' ' && c != ':'

theorem declaredName?_of_mark (target : Target) {line : String} {c : Char} {rest : List Char}
    (h : line.toList = c :: rest) (hmark : isMark c = true) : target.declaredName? line = none := by
  simp only [isMark, Bool.and_eq_true, Bool.not_eq_true', bne_iff_ne] at hmark
  obtain ⟨⟨hc, hblank⟩, hcolon⟩ := hmark
  have hletter : ∀ letter, isNameChar letter = true → c ≠ letter := by
    rintro letter hletter rfl
    simp [hletter] at hc
  have hexport : exportedName? (c :: rest) = none := by
    simp [exportedName?, declarators, List.dropPrefix?, hletter 'e' rfl]
  have hdefined : definedName? (c :: rest) = none := by
    simp [definedName?, definers, nameAndRest, hc, hblank.symm, hcolon.symm]
  have hclass : className? (c :: rest) = none := by
    simp [className?, List.dropPrefix?, hletter 'c' rfl]
  cases target <;> simp [declaredName?, language, h, hexport, hdefined, hclass]

theorem memberName?_of_mark (target : Target) {line : String} {c : Char} {rest : List Char}
    (h : line.toList = c :: rest) (hmark : isMark c = true) : target.memberName? line = none := by
  simp only [isMark, Bool.and_eq_true, Bool.not_eq_true', bne_iff_ne] at hmark
  cases target with
  | model => simp [memberName?, h, fieldName?, List.dropPrefix?, hmark.1.2]
  | _ => rfl

theorem memberName?_of_indented_mark (target : Target) {line : String} {c : Char}
    {rest : List Char} (h : line.toList = ' ' :: ' ' :: ' ' :: ' ' :: c :: rest)
    (hmark : isMark c = true) : target.memberName? line = none := by
  simp only [isMark, Bool.and_eq_true, Bool.not_eq_true', bne_iff_ne] at hmark
  cases target with
  | model =>
    simp [memberName?, h, fieldName?, List.dropPrefix?, nameAndRest, hmark.1.1, hmark.2.symm]
  | _ => rfl

theorem IsSilent.of_mark (target : Target) {line : String} {c : Char}
    (h : line.toList.head? = some c) (hmark : isMark c = true) : target.IsSilent line := by
  obtain ⟨rest, hline⟩ := List.head?_eq_some_iff.mp h
  exact ⟨target.declaredName?_of_mark hline hmark, target.memberName?_of_mark hline hmark⟩

theorem IsSilent.of_blanks {target : Target} (htarget : target ≠ .model) {line : String}
    {rest : List Char} (h : line.toList = ' ' :: ' ' :: rest) : target.IsSilent line := by
  refine ⟨target.declaredName?_of_blanks h, ?_⟩
  cases target with
  | model => exact absurd rfl htarget
  | _ => rfl

theorem IsSilent.of_indented_mark (target : Target) {s : String} {c : Char}
    (h : s.toList.head? = some c) (hmark : isMark c = true) :
    target.IsSilent (target.dialect.indented 1 s) := by
  obtain ⟨rest, hs⟩ := List.head?_eq_some_iff.mp h
  cases target with
  | model =>
    have hline : (pythonDialect.indented 1 s).toList = ' ' :: ' ' :: ' ' :: ' ' :: c :: rest := by
      simp [Dialect.indented, pythonDialect, hs, List.replicate]
    exact ⟨declaredName?_of_blanks _ hline, memberName?_of_indented_mark _ hline hmark⟩
  | typedDict =>
    have hline : (pythonDialect.indented 1 s).toList = ' ' :: ' ' :: ' ' :: ' ' :: s.toList := by
      simp [Dialect.indented, pythonDialect, List.replicate]
    exact of_blanks (by decide) hline
  | interface | zod =>
    have hline : (typescriptDialect.indented 1 s).toList = ' ' :: ' ' :: s.toList := by
      simp [Dialect.indented, typescriptDialect, List.replicate]
    exact of_blanks (by decide) hline

/-! ## Lines that declare a name -/

theorem declaredName?_export {target : Target} (htarget : target.language = .typescript)
    {line opening name : String} (hopening : opening ∈ declarators) (hname : IsName name.toList)
    {rest : List Char} (hline : line.toList = opening.toList ++ (name.toList ++ ' ' :: rest)) :
    target.declaredName? line = some name := by
  simp only [declaredName?, htarget, hline, exportedName?_append hopening hname]

theorem declaredName?_define {target : Target} (htarget : target.language = .python)
    {line name mark : String} (hmark : mark ∈ definers) (hname : IsName name.toList)
    {rest : List Char} (hline : line.toList = name.toList ++ (mark.toList ++ rest)) :
    target.declaredName? line = some name := by
  simp only [declaredName?, htarget, hline, definedName?_append hmark hname]
  rfl

theorem declaredName?_class {target : Target} (htarget : target.language = .python)
    {line name : String} (hname : IsName name.toList) {rest : List Char}
    (hline : line.toList = "class ".toList ++ (name.toList ++ '(' :: rest)) :
    target.declaredName? line = some name := by
  simp only [declaredName?, htarget, hline, definedName?_class hname, className?_append hname]
  rfl

end Target

end RecordTypes

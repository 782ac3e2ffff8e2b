import RecordTypes.Command.Plan
import RecordTypes.Proofs.Text.FileWord

/-! The file that is written if no other is asked for. Its name is made of the words of a name that
comes from outside, yet nothing in it leads out of the folder that the program runs in. -/

namespace RecordTypes

/-! ## Paths of one step -/

/-- A path to a file in the folder where the path starts: it has no other step, and what is written
there goes into a file of that name unless the name is too long or that of a folder. -/
structure Path.IsFileHere (path : Path) (name : List Char) : Prop where
  isStep : path = ⟨"", [String.ofList name]⟩
  text : path.text = String.ofList name
  write : ∀ (folder : Folder) (text : String), folder.write path text =
    if 255 < (String.ofList name).utf8ByteSize then .error (.noName (String.ofList name))
    else if folder.hasFolder [String.ofList name] = true then .error .folder
    else .ok (folder.put [String.ofList name] text)

theorem splitOnChar_of_not_mem {a : Char} {s : List Char} (h : a ∉ s) : splitOnChar a s = [s] := by
  induction s with
  | nil => rfl
  | cons c rest ih =>
    rw [List.mem_cons, not_or] at h
    have hc : ¬ (c == a) = true := fun hc => h.1 (beq_iff_eq.mp hc).symm
    rw [splitOnChar, if_neg hc, ih h.2]

theorem Path.rootOf_of_not_mem {s : List Char} (h : '/' ∉ s) : rootOf s = "" := by
  cases s with
  | nil => rfl
  | cons c rest =>
    have hc : ¬ (c == '/') = true := fun hc => h (by simp [beq_iff_eq.mp hc])
    rw [rootOf, List.takeWhile_cons_of_neg (p := (· == '/')) hc]
    rfl

theorem Path.ofText_eq_step {name : List Char} (hslash : '/' ∉ name) (hempty : name ≠ [])
    (hdot : name ≠ ['.']) : Path.ofText (String.ofList name) = ⟨"", [String.ofList name]⟩ := by
  have hstep : (String.ofList name != "" && String.ofList name != ".") = true := by
    have hdot' : String.ofList name ≠ "." := fun h => hdot (by simpa using congrArg String.toList h)
    simp [hempty, hdot']
  rw [ofText, String.toList_ofList, rootOf_of_not_mem hslash, stepsOf,
    splitOnChar_of_not_mem hslash]
  simp [hstep]

theorem Folder.isName_of_not_mem {name : String} (h : '\x00' ∉ name.toList) :
    isName name = decide (name.utf8ByteSize ≤ 255) := by
  have hcontains : name.toList.contains '\x00' = false := by simpa using h
  rw [isName, hcontains, Bool.not_false, Bool.and_true]

theorem Folder.write_step {name : String} (hdots : name ≠ "..") (hnull : '\x00' ∉ name.toList)
    (folder : Folder) (text : String) :
    folder.write ⟨"", [name]⟩ text =
      if 255 < name.utf8ByteSize then .error (.noName name)
      else if folder.hasFolder [name] = true then .error .folder
      else .ok (folder.put [name] text) := by
  by_cases hlong : 255 < name.utf8ByteSize
  · have hname : isName name = false := by simp [isName_of_not_mem hnull, hlong]
    simp [write, hname, hlong, enterAll]
  · have hname : isName name = true := by simp [isName_of_not_mem hnull, Nat.not_lt.mp hlong]
    simp [write, hname, hlong, enterAll, start]

theorem Path.isFileHere_ofText {name : List Char} (hslash : '/' ∉ name) (hnull : '\x00' ∉ name)
    (hempty : name ≠ []) (hdot : name ≠ ['.']) (hdots : name ≠ ['.', '.']) :
    (Path.ofText (String.ofList name)).IsFileHere name := by
  rw [Path.ofText_eq_step hslash hempty hdot]
  have hup : String.ofList name ≠ ".." := fun h => hdots (by simpa using congrArg String.toList h)
  exact ⟨rfl, by simp [Path.text], Folder.write_step hup (by simpa using hnull)⟩

/-! ## Names made of words -/

/-- Separators of paths, the mark of an extension, and the end of a text to the system. -/
def pathSigns : List Char := ['/', '\\', '.', '\x00']

theorem not_mem_pathSigns {c : Char} (h : isFileNameChar c = true) : c ∉ pathSigns := by
  have hsigns : (pathSigns.all fun d => !isFileNameChar d) = true := by decide
  intro hc
  have hsign := List.all_eq_true.mp hsigns c hc
  rw [h] at hsign
  cases hsign

namespace Language

def wordSeparator : Language → Char
  | .typescript => '-'
  | .python => '_'

def extension : Language → List Char
  | .typescript => ".ts".toList
  | .python => ".py".toList

/-- What stands before the extension: not empty, in one piece, and without a meaning for paths. -/
structure IsStem (language : Language) (stem : List Char) : Prop where
  filled : stem ≠ []
  first : stem.head? ≠ some language.wordSeparator
  chars : ∀ c ∈ stem, c ∉ pathSigns ∧ isBlank c = false

theorem standardOutput_eq (language : Language) (baseName : String) :
    standardOutput baseName language = Path.ofText (String.ofList
      (joinWith [language.wordSeparator] (fileWords baseName.toList) ++ language.extension)) := by
  cases language <;> rfl

theorem wordSeparator_not_mem (language : Language) {word : List Char} (h : IsFileWord word) :
    language.wordSeparator ∉ word := by
  intro hmem
  have hchar := h.chars _ hmem
  cases language <;> exact absurd hchar (by decide)

theorem isStem_joinWith (language : Language) {words : List (List Char)} (hne : words ≠ [])
    (h : ∀ word ∈ words, IsFileWord word) :
    language.IsStem (joinWith [language.wordSeparator] words) := by
  obtain ⟨word, later, rfl⟩ := List.exists_cons_of_ne_nil hne
  have hword := h word List.mem_cons_self
  obtain ⟨c, rest, rfl⟩ := List.exists_cons_of_ne_nil hword.filled
  refine ⟨?_, ?_, fun d hd => ?_⟩
  · rw [joinWith_cons]
    exact List.cons_ne_nil _ _
  · have hfirst : c ≠ language.wordSeparator := by
      rintro rfl
      exact language.wordSeparator_not_mem hword List.mem_cons_self
    simpa [joinWith_cons] using hfirst
  · rcases mem_joinWith hd with hseparator | ⟨piece, hpiece, hmem⟩
    · rw [List.mem_singleton.mp hseparator]
      cases language <;> decide
    · exact ⟨not_mem_pathSigns ((h piece hpiece).chars d hmem),
        isBlank_of_isFileNameChar ((h piece hpiece).chars d hmem)⟩

theorem splitOn_joinWith (language : Language) {words : List (List Char)} (hne : words ≠ [])
    (h : ∀ word ∈ words, IsFileWord word) :
    (joinWith [language.wordSeparator] words).splitOn language.wordSeparator = words :=
  List.splitOn_intercalate _ (fun word hword => language.wordSeparator_not_mem (h word hword)) hne

theorem isFileHere_stem {language : Language} {stem : List Char} (h : language.IsStem stem) :
    (Path.ofText (String.ofList (stem ++ language.extension))).IsFileHere
      (stem ++ language.extension) := by
  have hplain (c : Char) (hsign : c ∈ pathSigns)
      (hextension : c ∉ language.extension) : c ∉ stem ++ language.extension := by
    rw [List.mem_append, not_or]
    exact ⟨fun hc => (h.chars c hc).1 hsign, hextension⟩
  have hlong (name : List Char) (hname : name.length ≤ 2) : stem ++ language.extension ≠ name := by
    have hlength : language.extension.length = 3 := by cases language <;> rfl
    rintro rfl
    rw [List.length_append] at hname
    omega
  exact Path.isFileHere_ofText (hplain '/' (by decide) (by cases language <;> decide))
    (hplain '\x00' (by decide) (by cases language <;> decide))
    (hlong [] (by decide)) (hlong ['.'] (by decide)) (hlong ['.', '.'] (by decide))

end Language

/-- Whatever a base is called, its declarations are written into a file of the folder that the
program runs in. The stem of its name is made of the words of the name of the base and falls into
them again, the same words for both languages. -/
theorem standardOutput_is_file_here (baseName : String) :
    fileWords baseName.toList = (if positionedWords baseName.toList = [] then ["airtable".toList]
      else (positionedWords baseName.toList).map lower) ∧
    ∀ language : Language, ∃ stem : List Char, language.IsStem stem ∧
      (standardOutput baseName language).IsFileHere (stem ++ language.extension) ∧
      stem = joinWith [language.wordSeparator] (fileWords baseName.toList) ∧
      stem.splitOn language.wordSeparator = fileWords baseName.toList := by
  refine ⟨fileWords_eq baseName.toList, fun language => ?_⟩
  have hwords : ∀ word ∈ fileWords baseName.toList, IsFileWord word :=
    fun word => isFileWord_of_mem_fileWords
  have hne := fileWords_ne_nil baseName.toList
  have hstem := language.isStem_joinWith hne hwords
  refine ⟨_, hstem, ?_, rfl, language.splitOn_joinWith hne hwords⟩
  rw [language.standardOutput_eq]
  exact Language.isFileHere_stem hstem

example : standardOutput "../İzmir (2024)\x00.ts" .python = ⟨"", ["i̇zmir_2024_ts.py"]⟩ := by
  decide +kernel

end RecordTypes

import RecordTypes.Proofs.Metadata.RoundTrip
import RecordTypes.Proofs.Reading.Levels
import RecordTypes.Proofs.Reading.TableList
import RecordTypes.Proofs.Reading.Tag

/-! Fields as the results of results. If all that it holds is opened, a field that is wrapped in
computed ones is read as it is on its own, and what is wrong with it is told under a longer path. -/

namespace RecordTypes

/-- An object that holds a computed type, options with a result, and nothing else. -/
def IsDescriptor (type : ComputedType) (result raw : Json) : Prop :=
  ∃ members options : Members, raw = .obj members ∧
    (∀ key, members.find? key =
      Members.find? [("type", nameJson type), ("options", .obj options)] key) ∧
    ∀ key, options.find? key = Members.find? [("result", result)] key

/-- One value wrapped in descriptors of these types, the outermost first. -/
inductive Wraps : List ComputedType → Json → Json → Prop where
  | nil (d : Json) : Wraps [] d d
  | cons {type : ComputedType} {types : List ComputedType} {d result raw : Json}
      (hraw : IsDescriptor type result raw) (h : Wraps types d result) :
      Wraps (type :: types) d raw

def nameless : Heading := ⟨none, none, none⟩

def resultPlaces (type : ComputedType) : Location :=
  [.tag (Named.name type), .key "options", .key "result"]

/-- The path from a field to a result that lies some levels below. -/
def resultSteps : Nat → String
  | 0 => ""
  | n + 1 => ".options.result" ++ resultSteps n

/-- The reading of a result, as that of the descriptor around it. -/
def Reading.asResult (type : ComputedType) (x : Reading Field) : Reading Field :=
  (((Field.computed nameless type <$> x).under (.key "result")).under (.key "options")).under
    (.tag (Named.name type))

/-! ## One descriptor -/

namespace IsDescriptor

variable {type : ComputedType} {result raw : Json} (h : IsDescriptor type result raw)
include h

theorem exists_members :
    ∃ members, raw = .obj members ∧ formOf FieldType members = .ok (.computed type) ∧
      readHeading members = .value nameless ∧
      (result ≠ .null → rawResult members = .value (some result)) := by
  obtain ⟨members, options, rfl, hmembers, hoptions⟩ := h
  refine ⟨members, rfl, ?_, ?_, fun hresult => ?_⟩
  · have htype : members.find? "type" = some (.str (Named.name (FieldType.computed type))) :=
      hmembers "type"
    simp only [formOf, htype, LawfulNamed.ofName?_name]
  · simp only [readHeading, optional, withDefault, Members.spelled?, hmembers]
    rfl
  · have hfound : members.spelled? "options" = some (.obj options) := by
      rw [Members.spelled?, hmembers]
      rfl
    have hraw : options.spelled? "result" = some result := by
      rw [Members.spelled?, hoptions]
      rfl
    exact rawResult_of_obj hfound hraw hresult

theorem readFieldWith_eq (hresult : result ≠ .null) {guard : Guard}
    (hopens : guard.opens (.computed type) = true) :
    readFieldWith guard raw = (readFieldWith guard.below result).asResult type := by
  obtain ⟨members, rfl, hform, hheading, hraw⟩ := h.exists_members
  rw [readFieldWith_computed guard hform, Guard.opening_of_opens hopens, hheading, hraw hresult]
  dsimp only
  cases readFieldWith guard.below result <;> rfl

theorem descriptorTypes_eq (hresult : result ≠ .null) :
    descriptorTypes raw = .computed type :: descriptorTypes result := by
  obtain ⟨members, rfl, hform, -, hraw⟩ := h.exists_members
  exact descriptorTypes_computed hform (hraw hresult)

theorem pathTail_eq (location : Location) :
    pathTail raw (resultPlaces type ++ location) = ".options.result" ++ pathTail result location := by
  obtain ⟨members, options, rfl, hmembers, hoptions⟩ := h
  have htag : Place.isTypeOf (.tag (Named.name type)) (.obj members) = true := by
    simp only [Place.isTypeOf, Members.has, hmembers]
    cases type <;> rfl
  have hkey : Place.isTypeOf (.key "options") (.obj members) = false := by
    simp only [Place.isTypeOf, Members.has, hmembers]
    rfl
  have hresult : Place.isTypeOf (.key "result") (.obj options) = false := by
    simp only [Place.isTypeOf, Members.has, hoptions]
    rfl
  have hchild : Json.child? (.obj members) (.key "options") = some (.obj options) := hmembers _
  have hinner : Json.child? (.obj options) (.key "result") = some result := hoptions _
  rw [resultPlaces, List.cons_append, pathTail, if_pos htag, List.cons_append,
    pathTail_cons hkey hchild, List.cons_append, pathTail_cons hresult hinner, ← String.append_assoc]
  rfl

theorem raw_ne_null : raw ≠ .null := by
  obtain ⟨members, options, rfl, -⟩ := h
  nofun

end IsDescriptor

theorem issues_asResult (type : ComputedType) (x : Reading Field) :
    (x.asResult type).issues =
      x.issues.map fun issue => ⟨resultPlaces type ++ issue.location, issue.fault⟩ := by
  cases x with
  | value a => rfl
  | faulty issues =>
    simp [Reading.asResult, Reading.issues_under, Reading.issues_map, resultPlaces,
      Function.comp_def, Issue.under]

theorem asResult_eq_value_iff {type : ComputedType} {x : Reading Field} {w : Field} :
    x.asResult type = .value w ↔ ∃ f, x = .value f ∧ w = .computed nameless type f := by
  cases x with
  | value f => simp [Reading.asResult, Reading.under, Functor.map, Reading.map, eq_comm]
  | faulty issues => simp [Reading.asResult, Reading.under, Functor.map, Reading.map]

/-! ## Descriptors in descriptors -/

namespace Wraps

variable {types : List ComputedType} {d raw : Json}

theorem ne_null (h : Wraps types d raw) (hd : d ≠ .null) : raw ≠ .null := by
  cases h with
  | nil => exact hd
  | cons hraw h => exact hraw.raw_ne_null

theorem descriptorTypes_eq (h : Wraps types d raw) (hd : d ≠ .null) :
    descriptorTypes raw = types.map .computed ++ descriptorTypes d := by
  induction h with
  | nil => rfl
  | cons hraw h ih =>
    rw [hraw.descriptorTypes_eq (h.ne_null hd), ih hd]
    rfl

/-- The value is read inside as the same guard has it read on its own. -/
theorem readFieldWith_eq (h : Wraps types d raw) (hd : d ≠ .null) {guard : Guard}
    (hopens : guard.opensAll (types.map .computed ++ descriptorTypes d) = true) :
    readFieldWith guard raw = types.foldr Reading.asResult (readFieldWith guard d) := by
  induction h generalizing guard with
  | nil => rfl
  | @cons type types d result raw hraw h ih =>
    obtain ⟨htype, htypes⟩ := Guard.opensAll_cons.mp hopens
    have hinner : readFieldWith guard.below result =
        types.foldr Reading.asResult (readFieldWith guard.below d) := ih hd htypes
    -- The guard below opens all of the value, and so does the one above.
    have hbelow := Guard.opensAll_of_append htypes
    have hsame : readFieldWith guard.below d = readFieldWith guard d :=
      readFieldWith_congr hbelow (Guard.opensAll_of_below hbelow)
    rw [hraw.readFieldWith_eq (h.ne_null hd) htype, hinner, hsame, List.foldr_cons]

theorem pathTails_eq (h : Wraps types d raw) (x : Reading Field) :
    (types.foldr Reading.asResult x).issues.map (fun issue => pathTail raw issue.location) =
      x.issues.map fun issue => resultSteps types.length ++ pathTail d issue.location := by
  induction h with
  | nil => exact List.map_congr_left fun issue _ => String.empty_append.symm
  | @cons type types d result raw hraw h ih =>
    let issues := (types.foldr Reading.asResult x).issues
    calc ((types.foldr Reading.asResult x).asResult type).issues.map
          (fun issue => pathTail raw issue.location)
        = issues.map fun issue => pathTail raw (resultPlaces type ++ issue.location) := by
          rw [issues_asResult, List.map_map]
          rfl
      _ = issues.map fun issue => ".options.result" ++ pathTail result issue.location :=
          List.map_congr_left fun issue _ => hraw.pathTail_eq issue.location
      _ = (issues.map fun issue => pathTail result issue.location).map (".options.result" ++ ·) :=
          List.map_map.symm
      _ = (x.issues.map fun issue => resultSteps types.length ++ pathTail d issue.location).map
            (".options.result" ++ ·) := congrArg _ ih
      _ = x.issues.map fun issue =>
            resultSteps (types.length + 1) ++ pathTail d issue.location := by
          rw [List.map_map]
          exact List.map_congr_left fun issue _ => (String.append_assoc ..).symm

theorem resultAt_of_foldr (types : List ComputedType) {x : Reading Field} {f w : Field}
    (hx : x = .value f) (hw : types.foldr Reading.asResult x = .value w) :
    w.resultAt? types.length = some f := by
  induction types generalizing w with
  | nil =>
    cases hx.symm.trans hw
    rfl
  | cons type types ih =>
    obtain ⟨inner, hinner, rfl⟩ := asResult_eq_value_iff.mp hw
    exact ih hinner

theorem foldr_asResult_isValue_iff (types : List ComputedType) {x : Reading Field} :
    (∃ w, types.foldr Reading.asResult x = .value w) ↔ ∃ f, x = .value f := by
  induction types with
  | nil => rfl
  | cons type types ih => simp [asResult_eq_value_iff, ih]

end Wraps

theorem ofJsonWith_standard (raw : Json) : Field.ofJsonWith .standard raw = Field.ofJson raw := rfl

/-- A field and the same field wrapped in `n` descriptors: either both are read or neither, the one
is found in the other, and the paths of what is wrong differ in how they begin. -/
structure ResultsCompose (guard : Guard) (n : Nat) (d raw : Json) : Prop where
  isOk_iff : (∃ w, Field.ofJsonWith guard raw = .ok w) ↔ ∃ f, Field.ofJsonWith guard d = .ok f
  result : ∀ f w, Field.ofJsonWith guard d = .ok f → Field.ofJsonWith guard raw = .ok w →
    w.resultAt? n = some f
  paths : mismatchPaths (Field.ofJsonWith guard raw) =
    (mismatchPaths (Field.ofJsonWith guard d)).map (rebase "field" ("field" ++ resultSteps n))
  leading : ∀ path ∈ mismatchPaths (Field.ofJsonWith guard d), ∃ tail, path = "field" ++ tail

/-- Whatever the guard is, it alone can keep results from being read as they are on their own. -/
theorem resultsCompose (guard : Guard) {types : List ComputedType} {d raw : Json} (hd : d ≠ .null)
    (h : Wraps types d raw) :
    (guard.opensAll (types.map .computed ++ descriptorTypes d) = true →
      ResultsCompose guard types.length d raw) ∧
    (guard.opensAll (types.map .computed ++ descriptorTypes d) = false →
      ∃ m, Field.ofJsonWith guard raw = .error m) := by
  refine ⟨fun hopens => ?_, fun hcloses => ?_⟩
  · have hread : readFieldWith guard raw = types.foldr Reading.asResult (readFieldWith guard d) :=
      h.readFieldWith_eq hd hopens
    refine ⟨?_, ?_, ?_, ?_⟩
    · simp only [Field.ofJsonWith, Reading.toExcept_eq_ok_iff, hread]
      exact Wraps.foldr_asResult_isValue_iff types
    · intro f w hf hw
      rw [Field.ofJsonWith, Reading.toExcept_eq_ok_iff] at hf hw
      exact Wraps.resultAt_of_foldr types hf (hread ▸ hw)
    · have htails := congrArg (List.map ("field" ++ ·)) (h.pathTails_eq (readFieldWith guard d))
      rw [← hread, List.map_map, List.map_map] at htails
      rw [mismatchPaths_fieldWith, mismatchPaths_fieldWith, List.map_map]
      simp only [Function.comp_def, rebase_append, String.append_assoc] at htails ⊢
      exact htails
    · intro path hpath
      rw [mismatchPaths_fieldWith] at hpath
      obtain ⟨issue, -, rfl⟩ := List.mem_map.mp hpath
      exact ⟨_, rfl⟩
  · cases hread : readFieldWith guard raw with
    | value w =>
      have hall := opensAll_of_read hread
      rw [h.descriptorTypes_eq hd, hcloses] at hall
      cases hall
    | faulty issues =>
      rw [Field.ofJsonWith, hread]
      exact ⟨_, rfl⟩

/-! ## Two results, and too many -/

/-- The value wrapped in descriptors, each with its type before its options. -/
def wrapped (types : List ComputedType) (d : Json) : Json :=
  types.foldr (fun type result =>
    .obj [("type", nameJson type), ("options", .obj [("result", result)])]) d

theorem wraps_wrapped (types : List ComputedType) (d : Json) : Wraps types d (wrapped types d) := by
  induction types with
  | nil => exact .nil d
  | cons type types ih => exact .cons ⟨_, _, rfl, fun _ => rfl, fun _ => rfl⟩ ih

theorem descriptorTypes_numberMembers (options others : Members) :
    descriptorTypes (.obj (numberMembers options others)) = [.number .number] := by
  have hform : formOf FieldType (numberMembers options others) = .ok (.number .number) := rfl
  exact descriptorTypes_of_other hform (fun _ => FieldType.noConfusion)
    fun _ => FieldType.noConfusion

theorem number_in_two_results :
    (∃ w, Field.ofJson (wrapped [.formula, .lookup] scoreResult) = .ok w ∧
      w.resultAt? 2 = some scorePercent) ∧
    mismatchPaths (Field.ofJson (wrapped [.formula, .lookup] (.obj (numberMembers [] [])))) =
      ["field.options.result.options.result.options.precision"] := by
  refine ⟨?_, ?_⟩
  · have hform : formOf FieldType
        [("type", .str "percent"), ("options", .obj [("precision", .bool true)])] =
          .ok (.number .percent) := rfl
    have htypes : descriptorTypes scoreResult = [.number .percent] :=
      descriptorTypes_of_other hform (fun _ => FieldType.noConfusion) fun _ => FieldType.noConfusion
    have hread : Field.ofJson scoreResult = .ok scorePercent :=
      Reading.toExcept_eq_ok_iff.mpr (FieldFrom.readFieldWith_eq
        (.plain hform (fun _ => FieldType.noConfusion) rfl rfl rfl))
    have hnull : scoreResult ≠ .null := fun h => Json.noConfusion h
    obtain ⟨hwithin, -⟩ :=
      resultsCompose .standard hnull (wraps_wrapped [.formula, .lookup] scoreResult)
    rw [htypes] at hwithin
    have hcompose := hwithin (by decide)
    obtain ⟨w, hw⟩ := hcompose.isOk_iff.mpr ⟨_, hread⟩
    exact ⟨w, hw, hcompose.result _ w hread hw⟩
  · have hpaths : mismatchPaths (Field.ofJson (.obj (numberMembers [] []))) =
        ["field.options.precision"] := by
      rw [Field.ofJson, readField, readFieldWith_numberMembers (by decide) rfl rfl]
      decide
    have hnull : Json.obj (numberMembers [] []) ≠ .null := fun h => Json.noConfusion h
    obtain ⟨hwithin, -⟩ := resultsCompose .standard hnull
      (wraps_wrapped [.formula, .lookup] (.obj (numberMembers [] [])))
    rw [descriptorTypes_numberMembers] at hwithin
    have hcompose := hwithin (by decide)
    have hnested := hcompose.paths
    rw [ofJsonWith_standard, ofJsonWith_standard, hpaths] at hnested
    rw [hnested]
    decide

def checkbox : Json := .obj [("type", .str "checkbox")]

theorem checkbox_in_too_many_results :
    Wraps (List.replicate 127 .formula) checkbox (wrapped (List.replicate 127 .formula) checkbox) ∧
    (∃ f, Field.ofJson checkbox = .ok f) ∧
    ¬∃ w, Field.ofJson (wrapped (List.replicate 127 .formula) checkbox) = .ok w := by
  have hform : formOf FieldType [("type", .str "checkbox")] = .ok (.basic .checkbox) := rfl
  have hwraps := wraps_wrapped (List.replicate 127 .formula) checkbox
  refine ⟨hwraps, ⟨.plain nameless (.basic .checkbox none), ?_⟩, ?_⟩
  · exact Reading.toExcept_eq_ok_iff.mpr
      (FieldFrom.readFieldWith_eq (.plain hform (fun _ => FieldType.noConfusion) rfl rfl rfl))
  · rintro ⟨w, hw⟩
    have htypes : descriptorTypes checkbox = [.basic .checkbox] :=
      descriptorTypes_of_other hform (fun _ => FieldType.noConfusion) fun _ => FieldType.noConfusion
    have hall := opensAll_of_read (Reading.toExcept_eq_ok_iff.mp hw)
    have hnull : checkbox ≠ .null := fun h => Json.noConfusion h
    rw [hwraps.descriptorTypes_eq hnull, htypes] at hall
    exact absurd hall (by decide)

end RecordTypes

import RecordTypes.Proofs.Reading.PathText
import RecordTypes.Proofs.Reading.Readers

/-! Paths that leave out the tags of a location and nothing else. A place is taken for the tag of an
object if it is the `type` of the object and not the key of a member. So a path is wrong where a
member is called as the type of its object is, or where a missing key is. -/

namespace RecordTypes

/-! ## Places that locations are made of -/

/-- The keys that objects may have for a model. -/
def Model.spellings (m : Model) : List String := m.keys ++ m.keys.map underscored

/-- A declared key in one of its spellings, an index, or the name of a type. -/
def Place.IsKnown : Place → Prop
  | .key name => ∃ m : Model, name ∈ m.spellings
  | .index i => 0 ≤ i
  | .tag name => name ∈ Named.names FieldType

theorem Named.name_mem_names (type : FieldType) : Named.name type ∈ Named.names FieldType := by
  by_contra h
  have hnone := Named.ofName?_eq_none_iff.mpr h
  rw [LawfulNamed.ofName?_name] at hnone
  cases hnone

theorem Model.mem_names_of_tag? {m : Model} {members : Members} {name : String}
    (h : m.tag? members = some name) : name ∈ Named.names FieldType := by
  cases m with
  | field =>
    obtain ⟨type, rfl, -⟩ := find?_type_of_typeName? h
    exact Named.name_mem_names type
  | temporal =>
    obtain ⟨type, rfl, -⟩ := find?_type_of_typeName? h
    exact Named.name_mem_names (.temporal type)
  | _ => cases h

theorem Model.mem_spellings {m : Model} {key : String} (h : key ∈ m.keys) : key ∈ m.spellings :=
  List.mem_append_left _ h

theorem Model.spelling_mem_spellings {m : Model} {key : String} (h : key ∈ m.keys)
    (members : Members) : members.spelling key ∈ m.spellings := by
  obtain hkey | hkey := members.spelling_eq key <;> rw [hkey]
  · exact mem_spellings h
  · exact List.mem_append_right _ (List.mem_map_of_mem h)

theorem Slot.Leads.isKnown {slot : Slot} {raw : Json} {location : Location}
    (h : slot.Leads raw location) : ∀ place ∈ location, place.IsKnown := by
  induction h with
  | here => nofun
  | item hitem h ih => exact List.forall_mem_cons.mpr ⟨Int.natCast_nonneg _, ih⟩
  | absent hpart hraw =>
    exact List.forall_mem_singleton.mpr ⟨_, Model.mem_spellings (Model.key_mem_keys hpart)⟩
  | @part m members key slot raw rest hpart hraw h ih =>
    have hkey := Model.spelling_mem_spellings (Model.key_mem_keys hpart) members
    exact List.forall_mem_cons.mpr ⟨⟨m, hkey⟩, ih⟩
  | tag htag h ih => exact List.forall_mem_cons.mpr ⟨Model.mem_names_of_tag? htag, ih⟩

def isPlainName (name : String) : Bool := name.toList.all fun c => !isPathMark c

theorem not_isPathMark_of_isPlainName {name : String} (h : isPlainName name = true) :
    ∀ c ∈ name.toList, isPathMark c = false := by
  simpa [isPlainName] using h

theorem Model.all_isPlainName_spellings (m : Model) : m.spellings.all isPlainName = true := by
  cases m <;> decide

theorem all_isPlainName_names : (Named.names FieldType).all isPlainName = true := by
  rfl

theorem not_isPathMark_of_isDigit {c : Char} (h : c.isDigit = true) : isPathMark c = false := by
  have hpoint : c ≠ '.' := by
    rintro rfl
    cases h
  have hbracket : c ≠ '[' := by
    rintro rfl
    cases h
  simp [isPathMark, hpoint, hbracket]

theorem Place.IsKnown.isMarked {place : Place} (h : place.IsKnown) : place.IsMarked := by
  cases place with
  | key name =>
    obtain ⟨m, hkey⟩ := h
    have hplain := List.all_eq_true.mp m.all_isPlainName_spellings name hkey
    exact ⟨'.', name.toList, String.toList_append, rfl, not_isPathMark_of_isPlainName hplain⟩
  | tag name =>
    have hplain := List.all_eq_true.mp all_isPlainName_names name h
    exact ⟨'.', name.toList, String.toList_append, rfl, not_isPathMark_of_isPlainName hplain⟩
  | index i =>
    refine ⟨'[', intText i ++ [']'], by simp [text], rfl, ?_⟩
    intro c hc
    rw [intText, if_neg (Int.not_lt.mpr h), List.mem_append, List.mem_singleton] at hc
    obtain hdigit | rfl := hc
    · exact not_isPathMark_of_isDigit (Nat.isDigit_of_mem_toDigits (by decide) (by decide) hdigit)
    · rfl

theorem Model.not_mem_names {m : Model} {key : String} (h : key ∈ m.spellings) :
    key ∉ Named.names FieldType := by
  have hall : ∀ key ∈ m.spellings, key ∉ Named.names FieldType := by
    cases m <;> decide
  exact hall key h

theorem Place.IsKnown.isTag_eq_false {place other : Place} (h : place.IsKnown)
    (hother : other.IsKnown) (htag : other.isTag = false) (htext : place.text = other.text) :
    place.isTag = false := by
  cases place with
  | tag name =>
    cases other with
    | tag other => cases htag
    | key key =>
      obtain ⟨m, hkey⟩ := hother
      have hname : name = key := by simpa [text] using htext
      exact absurd (hname ▸ h) (Model.not_mem_names hkey)
    | index i =>
      have hchars := congrArg String.toList htext
      simp [text] at hchars
  | _ => rfl

/-! ## Places told apart -/

/-- The name of a type is no member, and a key is a member or not the `type`. -/
def Place.IsToldApart : Place → Json → Prop
  | .tag name, .obj members => Members.has members name = false
  | .key name, .obj members =>
    Members.has members name = true ∨ Members.find? members "type" ≠ some (.str name)
  | _, _ => True

/-- Where the next place is looked up. -/
def Place.next (raw : Json) : Place → Json
  | .tag _ => raw
  | place => (raw.child? place).getD .null

/-- All places of a location are told apart where they are looked up. -/
def TellsApart (raw : Json) : Location → Prop
  | [] => True
  | place :: rest => place.IsToldApart raw ∧ TellsApart (place.next raw) rest

theorem Place.isTypeOf_key_eq_false_iff {name : String} {members : Members} :
    Place.isTypeOf (.key name) (.obj members) = false ↔
      (Place.key name).IsToldApart (.obj members) := by
  rw [isTypeOf, IsToldApart]
  cases members.has name <;> cases members.find? "type" with
    | none => simp
    | some type => cases type <;> simp

theorem Place.isTypeOf_tag_iff {name : String} {members : Members}
    (h : members.find? "type" = some (.str name)) :
    Place.isTypeOf (.tag name) (.obj members) = true ↔
      (Place.tag name).IsToldApart (.obj members) := by
  simp [isTypeOf, IsToldApart, h]

theorem keptPlaces_ne_cons {raw : Json} {place : Place} {rest : Location}
    (hplace : place.isTag = false) : keptPlaces raw rest ≠ place :: withoutTags rest := by
  intro h
  have hsublist := (keptPlaces_sublist raw rest).filter fun place => !place.isTag
  rw [h, List.filter_cons_of_pos (by simpa using hplace), List.filter_filter] at hsublist
  have hlength := hsublist.length_le
  simp only [Bool.and_self, List.length_cons] at hlength
  omega

theorem keptPlaces_cons_eq_iff {raw : Json} {place : Place} {rest : Location}
    (hplace : place.isTag = false) :
    keptPlaces raw (place :: rest) = withoutTags (place :: rest) ↔
      place.isTypeOf raw = false ∧
        keptPlaces ((raw.child? place <|> raw.childFromEnd? place).getD .null) rest =
          withoutTags rest := by
  rw [keptPlaces, withoutTags, List.filter_cons_of_pos (by simpa using hplace)]
  by_cases htype : place.isTypeOf raw = true
  · rw [if_pos htype]
    simp [htype, keptPlaces_ne_cons hplace]
  · rw [if_neg htype]
    simp [Bool.eq_false_iff.mpr htype]

theorem keptPlaces_cons_key_iff {members : Members} {key : String} {rest : Location}
    (hrest : keptPlaces ((members.find? key).getD .null) rest = withoutTags rest ↔
      TellsApart ((members.find? key).getD .null) rest) :
    keptPlaces (.obj members) (.key key :: rest) = withoutTags (.key key :: rest) ↔
      TellsApart (.obj members) (.key key :: rest) := by
  have hchild : (Json.child? (.obj members) (.key key) <|>
      Json.childFromEnd? (.obj members) (.key key)) = members.find? key := by
    simp [Json.child?, Json.childFromEnd?]
  rw [keptPlaces_cons_eq_iff rfl, Place.isTypeOf_key_eq_false_iff, hchild, hrest]
  rfl

theorem keptPlaces_eq_iff {slot : Slot} {raw : Json} {location : Location}
    (h : slot.Leads raw location) :
    keptPlaces raw location = withoutTags location ↔ TellsApart raw location := by
  induction h with
  | here => exact iff_of_true rfl trivial
  | @item m items i raw rest hitem h ih =>
    have hchild : (Json.child? (.arr items) (.index i) <|>
        Json.childFromEnd? (.arr items) (.index i)) = some raw := by
      simp [Json.child?, hitem]
    have hnext : (Place.index i).next (.arr items) = raw := by
      simp [Place.next, Json.child?, hitem]
    rw [keptPlaces_cons_eq_iff rfl, hchild, Option.getD_some, ih, TellsApart, hnext]
    simp [Place.isTypeOf, Place.IsToldApart]
  | absent hpart hraw => exact keptPlaces_cons_key_iff (iff_of_true rfl trivial)
  | @part m members key slot raw rest hpart hraw h ih =>
    refine keptPlaces_cons_key_iff ?_
    rw [Members.find?_spelling hraw]
    exact ih
  | @tag m members name rest htag h ih =>
    have htype := Place.isTypeOf_tag_iff (Model.find?_type_of_tag? htag)
    rw [keptPlaces, withoutTags, List.filter_cons_of_neg (by simp [Place.isTag]), TellsApart,
      Place.next, ← htype, ← ih]
    by_cases hkept : Place.isTypeOf (.tag name) (.obj members) = true
    · rw [if_pos hkept]
      simp [hkept]
    · -- A tag that is kept stands where the other list has none.
      rw [if_neg hkept]
      refine iff_of_false (fun heq => ?_) fun hboth => hkept hboth.1
      have hmem : Place.tag name ∈ withoutTags rest := by
        rw [withoutTags, ← heq]
        exact List.mem_cons_self
      simpa [Place.isTag] using List.of_mem_filter hmem

/-! ## Paths of errors -/

section
variable {slot : Slot} {raw : Json} {location : Location}

theorem keptPlaces_eq_of_map_text (h : slot.Leads raw location)
    (htext : (keptPlaces raw location).map Place.text = (withoutTags location).map Place.text) :
    keptPlaces raw location = withoutTags location := by
  have hkept := keptPlaces_sublist raw location
  have hplain : ∀ place ∈ keptPlaces raw location, (!place.isTag) = true := by
    intro place hplace
    have hmem : place.text ∈ (withoutTags location).map Place.text := by
      rw [← htext]
      exact List.mem_map_of_mem hplace
    obtain ⟨other, hother, hsame⟩ := List.mem_map.mp hmem
    obtain ⟨hother, htag⟩ := List.mem_filter.mp hother
    have hknown := h.isKnown place (hkept.subset hplace)
    rw [hknown.isTag_eq_false (h.isKnown other hother) (by simpa using htag) hsame.symm]
    rfl
  have hsublist := hkept.filter fun place => !place.isTag
  rw [List.filter_eq_self.mpr hplain] at hsublist
  exact hsublist.eq_of_length (by simpa using congrArg List.length htext)

theorem map_text_eq_of_paths (h : slot.Leads raw location) {root : String}
    (hroot : root.isEmpty = false) {xs ys : Location} (hxs : xs.Sublist location)
    (hys : ys.Sublist location) (hpath : toldPath root xs = toldPath root ys) :
    xs.map Place.text = ys.map Place.text :=
  map_text_eq_of_toldPath hroot (fun place hplace => (h.isKnown place (hxs.subset hplace)).isMarked)
    (fun place hplace => (h.isKnown place (hys.subset hplace)).isMarked) hpath

theorem pathOf_eq_untaggedPath_iff (h : slot.Leads raw location) {root : String}
    (hroot : root.isEmpty = false) :
    pathOf root raw location = untaggedPath root location ↔ TellsApart raw location := by
  rw [← keptPlaces_eq_iff h, pathOf_eq_toldPath, untaggedPath]
  refine ⟨fun hpath => keptPlaces_eq_of_map_text h ?_, congrArg _⟩
  exact map_text_eq_of_paths h hroot (keptPlaces_sublist raw location) List.filter_sublist hpath

theorem toldPath_key (key : String) (places : Location) :
    toldPath "" (.key key :: places) = toldPath key places := by
  simp [toldPath, extendPath]

theorem eq_nil_of_isTypeOf {m : Model} {members : Members} {key : String} {rest : Location}
    (h : (Slot.model m).Leads (.obj members) (.key key :: rest))
    (htype : Place.isTypeOf (.key key) (.obj members) = true) : rest = [] := by
  cases h with
  | absent => rfl
  | part hpart hraw =>
    simp [Place.isTypeOf, Members.has, Members.find?_spelling hraw] at htype

theorem map_text_eq_of_documentPath {m : Model} {members : Members} {key : String}
    {rest : Location} (h : (Slot.model m).Leads (.obj members) (.key key :: rest))
    (hkey : key.isEmpty = false ∧ key ≠ "<root>")
    (hpath : toldPath "" (keptPlaces (.obj members) (.key key :: rest)) =
      toldPath "" (withoutTags (.key key :: rest))) :
    (keptPlaces (.obj members) (.key key :: rest)).map Place.text =
      (withoutTags (.key key :: rest)).map Place.text := by
  obtain ⟨hnonempty, hroot⟩ := hkey
  rw [keptPlaces] at hpath ⊢
  rw [withoutTags, List.filter_cons_of_pos rfl] at hpath ⊢
  by_cases htype : Place.isTypeOf (.key key) (.obj members) = true
  · obtain rfl := eq_nil_of_isTypeOf h htype
    have htold : "<root>" = key := by
      rw [if_pos htype, toldPath_key] at hpath
      simpa [keptPlaces, toldPath, hnonempty] using hpath
    exact absurd htold.symm hroot
  · rw [if_neg htype, toldPath_key, toldPath_key] at hpath
    rw [if_neg htype, List.map_cons, List.map_cons]
    refine congrArg _ (map_text_eq_of_paths h hnonempty ?_ ?_ hpath)
    · exact (keptPlaces_sublist _ rest).cons _
    · exact List.filter_sublist.cons _

theorem pathOf_document_iff {m : Model} (hm : m = .tableList ∨ m = .baseList ∨ m = .metadata)
    (h : (Slot.model m).Leads raw location) :
    pathOf "" raw location = untaggedPath "" location ↔ TellsApart raw location := by
  rw [← keptPlaces_eq_iff h, pathOf_eq_toldPath, untaggedPath]
  refine ⟨fun hpath => keptPlaces_eq_of_map_text h ?_, congrArg _⟩
  have hkeys : ∀ key ∈ m.spellings, key.isEmpty = false ∧ key ≠ "<root>" := by
    obtain rfl | rfl | rfl := hm <;> decide
  -- A document has no tag of its own, so that any location but the empty one begins with a key.
  cases h with
  | here => rfl
  | absent hpart hraw =>
    have hkey := Model.mem_spellings (Model.key_mem_keys hpart)
    exact map_text_eq_of_documentPath (.absent hpart hraw) (hkeys _ hkey) hpath
  | @part _ members key slot raw rest hpart hraw h =>
    have hkey := Model.spelling_mem_spellings (Model.key_mem_keys hpart) members
    exact map_text_eq_of_documentPath (.part hpart hraw h) (hkeys _ hkey) hpath
  | tag htag h => obtain rfl | rfl | rfl := hm <;> cases htag

end

/-- The paths of all errors leave out the tags and nothing else, just where these are told apart. -/
def TellsTags {α : Type} (root : String) (raw : Json) (parsed : Except Mismatch α) : Prop :=
  ∀ m, parsed = .error m → ∀ issue ∈ m.issues,
    (m.path issue = untaggedPath root issue.location ↔ TellsApart raw issue.location)

theorem tellsTags_toExcept {α : Type} {root : String} {raw : Json} {x : Reading α}
    (h : ∀ issue ∈ x.issues,
      (pathOf root raw issue.location = untaggedPath root issue.location ↔
        TellsApart raw issue.location)) : TellsTags root raw (x.toExcept root raw) := by
  intro m hm issue hissue
  cases x with
  | value a => cases hm
  | faulty issues =>
    cases hm
    exact h issue hissue

theorem path_eq_untaggedPath_iff (raw : Json) :
    TellsTags "field" raw (Field.ofJson raw) ∧ TellsTags "" raw (Table.listOfJson raw) ∧
      TellsTags "" raw (Base.listOfJson raw) ∧ TellsTags "" raw (Metadata.ofJson raw) := by
  refine ⟨tellsTags_toExcept fun issue hissue => ?_, tellsTags_toExcept fun issue hissue => ?_,
    tellsTags_toExcept fun issue hissue => ?_, tellsTags_toExcept fun issue hissue => ?_⟩
  · have hleads := (describes_readFieldWith .standard raw).leads issue hissue
    exact pathOf_eq_untaggedPath_iff hleads rfl
  · exact pathOf_document_iff (by simp) ((describes_readTableList raw).leads issue hissue)
  · exact pathOf_document_iff (by simp) ((describes_readBaseList raw).leads issue hissue)
  · exact pathOf_document_iff (by simp) ((describes_readMetadata raw).leads issue hissue)

/-- A key is told as it is spelled. -/
example : (readTemporalFormat .date (.obj [("date_format",
    .obj [("name", .str "bad"), ("format", .str "l")])])).issues.map Issue.location =
      [[.key "date_format", .key "name"]] := rfl

/-! ## Numbers without their precision -/

def numberMembers (options others : Members) : Members :=
  ("type", .str "number") :: ("options", .obj options) :: others

def missingPrecision : Issue := ⟨[.tag "number", .key "options", .key "precision"], .missing⟩

section
variable {options others : Members} {heading : Heading}

theorem readFieldWith_numberMembers {guard : Guard}
    (hopens : guard.opens (.number .number) = true)
    (hoptions : options.spelled? "precision" = none)
    (hothers : readHeading others = .value heading) :
    readFieldWith guard (.obj (numberMembers options others)) = .faulty [missingPrecision] := by
  have hform : formOf FieldType (numberMembers options others) = .ok (.number .number) := rfl
  have hheading : readHeading (numberMembers options others) = .value heading := hothers
  have hprecision : readPrecision (.obj options) = .faulty [⟨[.key "precision"], .missing⟩] := by
    simp only [readPrecision, readModel, required, hoptions]
    rfl
  have hshape : readShape guard (numberMembers options others) (.number .number) =
      .faulty [⟨[.key "options", .key "precision"], .missing⟩] := by
    change Shape.number .number <$> (readPrecision (.obj options)).under (.key "options") = _
    rw [hprecision]
    rfl
  rw [readFieldWith_plain guard hform fun _ => FieldType.noConfusion,
    Guard.opening_of_opens hopens, hheading, hshape]
  rfl

/-- A formula whose result is such a number. -/
def formulaMembers (others : Members) : Members :=
  ("type", .str "formula") :: ("options", .obj [("result", .obj (numberMembers [] []))]) :: others

def missingResultPrecision : Issue :=
  ⟨[.tag "formula", .key "options", .key "result", .tag "number", .key "options",
    .key "precision"], .missing⟩

theorem readField_formulaMembers (hothers : readHeading others = .value heading) :
    readField (.obj (formulaMembers others)) = .faulty [missingResultPrecision] := by
  have hform : formOf FieldType (formulaMembers others) = .ok (.computed .formula) := rfl
  have hheading : readHeading (formulaMembers others) = .value heading := hothers
  have hresult : rawResult (formulaMembers others) =
      .value (some (.obj (numberMembers [] []))) := rfl
  have hinner : readFieldWith Guard.standard.below (.obj (numberMembers [] [])) =
      .faulty [missingPrecision] := readFieldWith_numberMembers (by decide) rfl rfl
  rw [readField, readFieldWith_computed .standard hform, Guard.opening_of_opens (by decide),
    hheading, hresult]
  dsimp only
  rw [hinner]
  rfl

end

theorem path_of_formula :
    ∃ m issue, Field.ofJson (.obj (formulaMembers [])) = .error m ∧ issue ∈ m.issues ∧
      TellsApart (.obj (formulaMembers [])) issue.location ∧
      m.path issue = "field.options.result.options.precision" := by
  have hfield : Field.ofJson (.obj (formulaMembers [])) =
      .error ⟨"field", .obj (formulaMembers []), [missingResultPrecision]⟩ := by
    rw [Field.ofJson, readField_formulaMembers rfl]
    rfl
  have hissue : missingResultPrecision ∈ [missingResultPrecision] := List.mem_singleton_self _
  have happart : TellsApart (.obj (formulaMembers [])) missingResultPrecision.location :=
    ⟨rfl, .inl rfl, .inl rfl, rfl, .inl rfl, .inr nofun, trivial⟩
  exact ⟨_, _, hfield, hissue, happart,
    ((path_eq_untaggedPath_iff _).1 _ hfield _ hissue).mpr happart⟩

theorem paths_not_told_apart :
    (∃ m, Field.ofJson (.obj (numberMembers [("type", .str "precision")] [])) = .error m ∧
      m.paths = ["field.options"] ∧
      m.issues.map (fun issue => untaggedPath "field" issue.location) =
        ["field.options.precision"]) ∧
    ∃ m, Field.ofJson (.obj (numberMembers [] [("number", .int 1)])) = .error m ∧
      m.paths = ["field.number.options.precision"] ∧
      m.issues.map (fun issue => untaggedPath "field" issue.location) =
        ["field.options.precision"] := by
  have hread {options others : Members} (hoptions : options.spelled? "precision" = none)
      (hothers : readHeading others = .value ⟨none, none, none⟩) :
      Field.ofJson (.obj (numberMembers options others)) =
        .error ⟨"field", .obj (numberMembers options others), [missingPrecision]⟩ := by
    rw [Field.ofJson, readField, readFieldWith_numberMembers (by decide) hoptions hothers]
    rfl
  exact ⟨⟨_, hread rfl rfl, by decide, by decide⟩, _, hread rfl rfl, by decide, by decide⟩

end RecordTypes

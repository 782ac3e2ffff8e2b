import RecordTypes.Proofs.Json.Members
import RecordTypes.Proofs.Reading.Identity
import RecordTypes.Proofs.Reading.Issues
import RecordTypes.Proofs.Reading.Path

/-! Lists of tables read as a whole and one table at a time. -/

namespace RecordTypes

def tableDocument (ts : List Json) : Json := .obj [("tables", .arr ts)]

def tablePath (i : Nat) : String := "tables[" ++ integerText i ++ "]"

/-- The path of a field of the first table. -/
def fieldPath (j : Nat) : String := tablePath 0 ++ ".fields[" ++ integerText j ++ "]"

/-- The paths of all that is wrong, if anything is. -/
def mismatchPaths {α : Type} : Except Mismatch α → List String
  | .ok _ => []
  | .error m => m.paths

theorem mismatchPaths_toExcept {α : Type} (root : String) (raw : Json) (x : Reading α) :
    mismatchPaths (x.toExcept root raw) =
      x.issues.map fun issue => pathOf root raw issue.location := by
  cases x <;> rfl

/-! ## The tables of a document -/

theorem readTableList_tableDocument (ts : List Json) :
    readTableList (tableDocument ts) = (readItems readTable 0 ts).under (.key "tables") := rfl

theorem listOfJson_eq_ok_iff {ts : List Json} {tables : List Table} :
    Table.listOfJson (tableDocument ts) = .ok tables ↔
      List.Forall₂ (fun t table => readTable t = .value table) ts tables := by
  rw [Table.listOfJson, Reading.toExcept_eq_ok_iff, readTableList_tableDocument,
    Reading.under_eq_value_iff, readItems_eq_value_iff]

theorem listOfJson_singleton_eq_ok_iff {t : Json} {tables : List Table} :
    Table.listOfJson (tableDocument [t]) = .ok tables ↔
      ∃ table, readTable t = .value table ∧ tables = [table] := by
  rw [listOfJson_eq_ok_iff]
  constructor
  · rintro (_ | ⟨htable, _ | _⟩)
    exact ⟨_, htable, rfl⟩
  · rintro ⟨table, htable, rfl⟩
    exact .cons htable .nil

theorem listOfJson_singleton_isOk_iff {t : Json} :
    (∃ tables, Table.listOfJson (tableDocument [t]) = .ok tables) ↔
      ∃ table, readTable t = .value table := by
  simp only [listOfJson_singleton_eq_ok_iff]
  constructor
  · rintro ⟨-, table, htable, -⟩
    exact ⟨table, htable⟩
  · rintro ⟨table, htable⟩
    exact ⟨[table], table, htable, rfl⟩

theorem pathOf_tableDocument {ts : List Json} {i : Nat} {t : Json} (h : ts[i]? = some t)
    (location : Location) :
    pathOf "" (tableDocument ts) (.key "tables" :: .index i :: location) =
      tablePath i ++ pathTail t location := by
  have hpath : (tablePath i).isEmpty = false :=
    isEmpty_append_eq_false (isEmpty_append_eq_false rfl _) _
  have hkey : Place.isTypeOf (.key "tables") (tableDocument ts) = false := rfl
  have hindex : Place.isTypeOf (.index i) (.arr ts) = false := rfl
  have hchild : (tableDocument ts).child? (.key "tables") = some (.arr ts) := rfl
  have hitem : (Json.arr ts).child? (.index i) = some t := by simp [Json.child?, h]
  have hfrom : pathFrom "" (tableDocument ts) (.key "tables" :: .index i :: location) =
      pathFrom (tablePath i) t location := by
    rw [pathFrom_cons hkey hchild, pathFrom_cons hindex hitem]
    rfl
  simp only [pathOf, hfrom, pathFrom_eq_append hpath, isEmpty_append_eq_false hpath,
    Bool.false_eq_true, if_false]

theorem mismatchPaths_tableDocument (ts : List Json) :
    mismatchPaths (Table.listOfJson (tableDocument ts)) =
      ts.zipIdx.flatMap fun p =>
        (readTable p.1).issues.map fun issue => tablePath p.2 ++ pathTail p.1 issue.location := by
  rw [Table.listOfJson, mismatchPaths_toExcept, readTableList_tableDocument,
    Reading.issues_under, issues_readItems]
  simp only [List.map_flatMap, List.map_map]
  refine List.flatMap_congr fun p hp => List.map_congr_left fun issue _ => ?_
  exact pathOf_tableDocument (List.mk_mem_zipIdx_iff_getElem?.mp hp) issue.location

theorem mismatchPaths_singleton (t : Json) :
    mismatchPaths (Table.listOfJson (tableDocument [t])) =
      (readTable t).issues.map fun issue => tablePath 0 ++ pathTail t issue.location := by
  rw [mismatchPaths_tableDocument]
  simp

/-! ## The fields of a table -/

theorem required_insert_of_ne {α : Type} {key other : String} (h : key ≠ other)
    (hspelled : underscored key ≠ other) (read : Json → Reading α) (members : Members)
    (value : Json) :
    required key read (members.insert other value) = required key read members := by
  simp only [required, Members.spelled?_insert_of_ne h hspelled, Members.spelling_insert_of_ne h]

theorem withDefault_insert_of_ne {α : Type} {key other : String} (h : key ≠ other)
    (hspelled : underscored key ≠ other) (default : α) (read : Json → Reading α)
    (members : Members) (value : Json) :
    withDefault key default read (members.insert other value) =
      withDefault key default read members := by
  simp only [withDefault, Members.spelled?_insert_of_ne h hspelled, Members.spelling_insert_of_ne h]

/-- A table that would be read if it had no fields is read as far as its fields are. -/
theorem readTable_of_others {members : Members} {others : Table}
    (h : readTable (.obj (members.insert "fields" (.arr []))) = .value others) :
    readTable (.obj members) =
      (fun fields => { others with fields := fields }) <$>
        required "fields" readFields members := by
  obtain ⟨changed, hchanged, hid, hname, hprimary, hdescription, -, hviews⟩ :=
    readTable_eq_value h
  obtain rfl : members.insert "fields" (.arr []) = changed := Json.obj.inj hchanged
  rw [required_insert_of_ne (by decide) (by decide)] at hid hname hprimary
  rw [optional, withDefault_insert_of_ne (by decide) (by decide)] at hdescription
  rw [withDefault_insert_of_ne (by decide) (by decide)] at hviews
  simp only [readTable, readModel, optional, hid, hname, hprimary, hdescription, hviews]
  cases required "fields" readFields members <;> rfl

theorem required_of_find? {α : Type} {key : String} {raw : Json} {members : Members}
    (h : members.find? key = some raw) (read : Json → Reading α) :
    required key read members = (read raw).under (.key key) := by
  simp [required, Members.spelled?, Members.spelling, Members.has, h]

section
variable {members : Members} {fs : List Json} {others : Table}

theorem readTable_of_fields (hfields : members.find? "fields" = some (.arr fs))
    (hothers : readTable (.obj (members.insert "fields" (.arr []))) = .value others) :
    readTable (.obj members) =
      (fun fields => { others with fields := fields }) <$>
        (readFields (.arr fs)).under (.key "fields") := by
  rw [readTable_of_others hothers, required_of_find? hfields]

theorem pathTail_fields (hfields : members.find? "fields" = some (.arr fs)) {j : Nat} {f : Json}
    (h : fs[j]? = some f) (location : Location) :
    tablePath 0 ++ pathTail (.obj members) (.key "fields" :: .index j :: location) =
      fieldPath j ++ pathTail f location := by
  have hkey : Place.isTypeOf (.key "fields") (.obj members) = false := by
    simp [Place.isTypeOf, Members.has, hfields]
  have hindex : Place.isTypeOf (.index j) (.arr fs) = false := rfl
  have hitem : (Json.arr fs).child? (.index j) = some f := by simp [Json.child?, h]
  rw [pathTail_cons hkey hfields, pathTail_cons hindex hitem]
  simp only [fieldPath, Place.text, integerText, String.append_assoc]
  rfl

theorem mismatchPaths_fieldWith (guard : Guard) (f : Json) :
    mismatchPaths (Field.ofJsonWith guard f) =
      (readFieldWith guard f).issues.map fun issue => "field" ++ pathTail f issue.location := by
  rw [Field.ofJsonWith, mismatchPaths_toExcept]
  exact List.map_congr_left fun issue _ => pathOf_eq_append rfl f issue.location

theorem mismatchPaths_field (f : Json) :
    mismatchPaths (Field.ofJson f) =
      (readField f).issues.map fun issue => "field" ++ pathTail f issue.location :=
  mismatchPaths_fieldWith .standard f

theorem readFields_of_unread {issues : List Issue}
    (hread : readItems readField 0 fs = .faulty issues) :
    readFields (.arr fs) = .faulty issues := by
  simp only [readFields, readList, hread, Reading.check]

theorem mismatchPaths_of_unread (hfields : members.find? "fields" = some (.arr fs))
    (hothers : readTable (.obj (members.insert "fields" (.arr []))) = .value others)
    {issues : List Issue} (hread : readItems readField 0 fs = .faulty issues) :
    mismatchPaths (Table.listOfJson (tableDocument [.obj members])) =
      fs.zipIdx.flatMap fun p =>
        (readField p.1).issues.map fun issue => fieldPath p.2 ++ pathTail p.1 issue.location := by
  have hissues : issues = (readItems readField 0 fs).issues := by rw [hread]; rfl
  rw [mismatchPaths_singleton, readTable_of_fields hfields hothers, Reading.issues_map,
    Reading.issues_under, readFields_of_unread hread, Reading.issues, hissues, issues_readItems]
  simp only [List.map_flatMap, List.map_map]
  refine List.flatMap_congr fun p hp => List.map_congr_left fun issue _ => ?_
  exact pathTail_fields hfields (List.mk_mem_zipIdx_iff_getElem?.mp hp) issue.location

end

/-! ## Documents table by table, tables field by field -/

/-- A list of tables is read as documents of one table each are, and the paths of what is wrong with
it are those of these documents, each under the index of its table. -/
structure TablesCompose (ts : List Json) : Prop where
  isOk_iff : (∃ tables, Table.listOfJson (tableDocument ts) = .ok tables) ↔
    ∀ t ∈ ts, ∃ tables, Table.listOfJson (tableDocument [t]) = .ok tables
  tables : ∀ tables, Table.listOfJson (tableDocument ts) = .ok tables →
    List.Forall₂ (fun t table => Table.listOfJson (tableDocument [t]) = .ok [table]) ts tables
  paths : mismatchPaths (Table.listOfJson (tableDocument ts)) =
    ts.zipIdx.flatMap fun p =>
      (mismatchPaths (Table.listOfJson (tableDocument [p.1]))).map
        (rebase (tablePath 0) (tablePath p.2))
  leading : ∀ t ∈ ts, ∀ path ∈ mismatchPaths (Table.listOfJson (tableDocument [t])),
    ∃ tail, path = tablePath 0 ++ tail

/-- What is wrong with a table whose other members are right is what is wrong with its fields; once
they can all be read, one without a name or an id is left to be told. -/
structure FieldsCompose (members : Members) (fs : List Json) : Prop where
  unread : (∃ f ∈ fs, ∃ m, Field.ofJson f = .error m) →
    ∃ m, Table.listOfJson (tableDocument [.obj members]) = .error m ∧
      m.paths = fs.zipIdx.flatMap fun p =>
        (mismatchPaths (Field.ofJson p.1)).map (rebase "field" (fieldPath p.2))
  leading : ∀ f ∈ fs, ∀ path ∈ mismatchPaths (Field.ofJson f), ∃ tail, path = "field" ++ tail
  identified : ∀ fields, List.Forall₂ (fun f field => Field.ofJson f = .ok field) fs fields →
    (∀ field ∈ fields, field.HasIdentity) →
      ∃ table, Table.listOfJson (tableDocument [.obj members]) = .ok [table] ∧
        table.fields = fields
  unidentified : ∀ fields, List.Forall₂ (fun f field => Field.ofJson f = .ok field) fs fields →
    ∀ (i : Nat) (field : Field), fields[i]? = some field → ¬ field.HasIdentity →
      (∀ k < i, ∀ earlier, fields[k]? = some earlier → earlier.HasIdentity) →
        ∃ m, Table.listOfJson (tableDocument [.obj members]) = .error m ∧
          m.paths = ["tables[0].fields"] ∧
          m.issues.map (fun issue => issue.fault.message) =
            ["Value error, field at index " ++ integerText i ++ " (" ++ field.typeName ++
              ") is missing an id or a name"]

theorem tablesCompose (ts : List Json) : TablesCompose ts where
  isOk_iff := by
    simp only [listOfJson_singleton_isOk_iff]
    simp only [listOfJson_eq_ok_iff]
    constructor
    · rintro ⟨tables, h⟩ t ht
      obtain ⟨i, hi, rfl⟩ := List.mem_iff_getElem.mp ht
      exact ⟨_, h.get hi (h.length_eq ▸ hi)⟩
    · intro h
      induction ts with
      | nil => exact ⟨[], .nil⟩
      | cons t ts ih =>
        obtain ⟨table, htable⟩ := h t List.mem_cons_self
        obtain ⟨tables, htables⟩ := ih fun t' ht' => h t' (List.mem_cons_of_mem t ht')
        exact ⟨table :: tables, .cons htable htables⟩
  tables := by
    intro tables h
    refine (listOfJson_eq_ok_iff.mp h).imp fun t table htable => ?_
    exact listOfJson_singleton_eq_ok_iff.mpr ⟨table, htable, rfl⟩
  paths := by
    rw [mismatchPaths_tableDocument]
    refine List.flatMap_congr fun p _ => ?_
    rw [mismatchPaths_singleton, List.map_map]
    exact List.map_congr_left fun issue _ => (rebase_append _ _ _).symm
  leading := by
    intro t _ path hpath
    rw [mismatchPaths_singleton] at hpath
    obtain ⟨issue, -, rfl⟩ := List.mem_map.mp hpath
    exact ⟨_, rfl⟩

theorem readItems_readField_eq_value_iff {fs : List Json} {fields : List Field} :
    readItems readField 0 fs = .value fields ↔
      List.Forall₂ (fun f field => Field.ofJson f = .ok field) fs fields := by
  simp only [readItems_eq_value_iff, Field.ofJson, Reading.toExcept_eq_ok_iff]

section
variable {members : Members} {fs : List Json} {others : Table}

theorem exists_faulty_of_error {f : Json} (hf : f ∈ fs) {m : Mismatch}
    (hm : Field.ofJson f = .error m) :
    ∃ issues, readItems readField 0 fs = .faulty issues := by
  cases hread : readItems readField 0 fs with
  | faulty issues => exact ⟨issues, rfl⟩
  | value fields =>
    have hall := readItems_readField_eq_value_iff.mp hread
    obtain ⟨i, hi, rfl⟩ := List.mem_iff_getElem.mp hf
    have hok : Field.ofJson fs[i] = .ok _ := hall.get hi (hall.length_eq ▸ hi)
    rw [hm] at hok
    cases hok

theorem listOfJson_of_unread (hfields : members.find? "fields" = some (.arr fs))
    (hothers : readTable (.obj (members.insert "fields" (.arr []))) = .value others)
    {issues : List Issue} (hread : readItems readField 0 fs = .faulty issues) :
    ∃ m, Table.listOfJson (tableDocument [.obj members]) = .error m := by
  have htable : ∃ found, readTable (.obj members) = .faulty found := by
    rw [readTable_of_fields hfields hothers, readFields_of_unread hread]
    exact ⟨_, rfl⟩
  obtain ⟨found, hfound⟩ := htable
  rw [Table.listOfJson, readTableList_tableDocument, readItems, hfound]
  exact ⟨_, rfl⟩

theorem listOfJson_of_unidentified (hfields : members.find? "fields" = some (.arr fs))
    (hothers : readTable (.obj (members.insert "fields" (.arr []))) = .value others)
    {fields : List Field} (hread : readItems readField 0 fs = .value fields) {i : Nat}
    {field : Field}
    (hcheck : checkIdentified 0 fields = .fault (.unidentified i field.typeName)) :
    ∃ m, Table.listOfJson (tableDocument [.obj members]) = .error m ∧
      m.paths = ["tables[0].fields"] ∧
      m.issues.map (fun issue => issue.fault.message) =
        ["Value error, field at index " ++ integerText i ++ " (" ++ field.typeName ++
          ") is missing an id or a name"] := by
  have hfs : readFields (.arr fs) = .fault (.unidentified i field.typeName) := by
    simp only [readFields, readList, hread, Reading.check, hcheck]
    rfl
  have htable : readTable (.obj members) =
      .faulty [⟨[.key "fields"], .unidentified i field.typeName⟩] := by
    rw [readTable_of_fields hfields hothers, hfs]
    rfl
  have hlist : Table.listOfJson (tableDocument [.obj members]) =
      .error ⟨"", tableDocument [.obj members],
        [⟨[.key "tables", .index 0, .key "fields"], .unidentified i field.typeName⟩]⟩ := by
    rw [Table.listOfJson, readTableList_tableDocument, readItems, htable]
    rfl
  have hpaths := mismatchPaths_singleton (.obj members)
  have hkey : Place.isTypeOf (.key "fields") (.obj members) = false := by
    simp [Place.isTypeOf, Members.has, hfields]
  rw [hlist, htable, Reading.issues, List.map_singleton, pathTail_cons hkey hfields] at hpaths
  exact ⟨_, hlist, hpaths, rfl⟩

theorem fieldsCompose (hfields : members.find? "fields" = some (.arr fs))
    (hothers : readTable (.obj (members.insert "fields" (.arr []))) = .value others) :
    FieldsCompose members fs where
  unread := by
    rintro ⟨f, hf, m, hm⟩
    obtain ⟨issues, hread⟩ := exists_faulty_of_error hf hm
    obtain ⟨whole, hlist⟩ := listOfJson_of_unread hfields hothers hread
    have hpaths := mismatchPaths_of_unread hfields hothers hread
    rw [hlist] at hpaths
    refine ⟨whole, hlist, hpaths.trans (List.flatMap_congr fun p _ => ?_)⟩
    rw [mismatchPaths_field, List.map_map]
    exact List.map_congr_left fun issue _ => (rebase_append _ _ _).symm
  leading := by
    intro f _ path hpath
    rw [mismatchPaths_field] at hpath
    obtain ⟨issue, -, rfl⟩ := List.mem_map.mp hpath
    exact ⟨_, rfl⟩
  identified := by
    intro fields hall hidentity
    have hread := readItems_readField_eq_value_iff.mpr hall
    have hfs : readFields (.arr fs) = .value fields := by
      simp only [readFields, readList, hread, Reading.check, checkIdentified_of_forall hidentity]
      rfl
    refine ⟨{ others with fields := fields }, ?_, rfl⟩
    rw [listOfJson_singleton_eq_ok_iff]
    refine ⟨_, ?_, rfl⟩
    rw [readTable_of_fields hfields hothers, hfs]
    rfl
  unidentified := by
    intro fields hall i field hfield hlacks hbefore
    have hread := readItems_readField_eq_value_iff.mpr hall
    have hcheck := checkIdentified_of_first hfield hlacks hbefore 0
    rw [Nat.zero_add] at hcheck
    exact listOfJson_of_unidentified hfields hothers hread hcheck

end

/-- Reading composes over the tables of a document and over the fields of a table. The other members
of a table are right if it would be read without any fields. -/
theorem listOfJson_composes :
    (∀ ts : List Json, TablesCompose ts) ∧
    ∀ (members : Members) (fs : List Json) (others : List Table),
      members.find? "fields" = some (.arr fs) →
      Table.listOfJson (tableDocument [.obj (members.insert "fields" (.arr []))]) = .ok others →
        FieldsCompose members fs := by
  refine ⟨tablesCompose, fun members fs others hfields hothers => ?_⟩
  obtain ⟨table, htable, -⟩ := listOfJson_singleton_eq_ok_iff.mp hothers
  exact fieldsCompose hfields htable

def lampField : Json :=
  .obj [("id", .str "fldLamp"), ("name", .str "Lamp"), ("type", .str "checkbox")]

def namelessField : Json := .obj [("id", .str "fldPost"), ("type", .str "email")]

def lampMembers : Members :=
  [("id", .str "tblLamps"), ("name", .str "Lamps"), ("primaryFieldId", .str "fldLamp"),
   ("fields", .arr [lampField, namelessField])]

theorem forall₂_lampFields :
    List.Forall₂ (fun f field => Field.ofJson f = .ok field) [lampField, namelessField]
      [.plain ⟨some "fldLamp", some "Lamp", none⟩ (.basic .checkbox none),
       .plain ⟨some "fldPost", none, none⟩ (.basic .email none)] := by
  refine .cons ?_ (.cons ?_ .nil)
  · rw [Field.ofJson, lampField, readField, readFieldWith]
    rfl
  · rw [Field.ofJson, namelessField, readField, readFieldWith]
    rfl

theorem listOfJson_composes_lamps :
    lampMembers.find? "fields" = some (.arr [lampField, namelessField]) ∧
    Table.listOfJson (tableDocument [.obj (lampMembers.insert "fields" (.arr []))]) =
      .ok [⟨"tblLamps", "Lamps", "fldLamp", none, [], []⟩] ∧
    ∃ m, Table.listOfJson (tableDocument [.obj lampMembers]) = .error m ∧
      m.paths = ["tables[0].fields"] ∧
      m.issues.map (fun issue => issue.fault.message) =
        ["Value error, field at index 1 (email) is missing an id or a name"] := by
  have hfields : lampMembers.find? "fields" = some (.arr [lampField, namelessField]) := rfl
  have hothers :
      Table.listOfJson (tableDocument [.obj (lampMembers.insert "fields" (.arr []))]) =
        .ok [⟨"tblLamps", "Lamps", "fldLamp", none, [], []⟩] := rfl
  have hcomposes := listOfJson_composes.2 lampMembers _ _ hfields hothers
  have hlacks : ¬ (Field.plain ⟨some "fldPost", none, none⟩ (.basic .email none)).HasIdentity := by
    simp [Field.HasIdentity, Field.heading]
  have hbefore : ∀ k < 1, ∀ earlier,
      [Field.plain ⟨some "fldLamp", some "Lamp", none⟩ (.basic .checkbox none),
        .plain ⟨some "fldPost", none, none⟩ (.basic .email none)][k]? = some earlier →
        earlier.HasIdentity := by
    rintro k hk earlier hearlier
    obtain rfl : k = 0 := by omega
    cases hearlier
    exact ⟨"fldLamp", "Lamp", rfl, by decide, rfl, by decide⟩
  exact ⟨hfields, hothers, hcomposes.unidentified _ forall₂_lampFields 1 _ rfl hlacks hbefore⟩

end RecordTypes

import RecordTypes.Proofs.Metadata.Field
import RecordTypes.Proofs.Reading.Identity

/-! Metadata that was read, written out and read again. Nothing is lost or added on the way, so a
second writing is the same as the first. -/

namespace RecordTypes

/-! ## Tables, bases and documents -/

/-- Every field can be read and is known by an id and a name. -/
def Table.Fits (table : Table) : Prop :=
  ∀ field ∈ table.fields, field.FitsIn .standard ∧ field.HasIdentity

theorem fitsIn_of_readFields {raw : Json} {fields : List Field}
    (h : readFields raw = .value fields) : ∀ field ∈ fields, field.FitsIn .standard := by
  obtain ⟨read, hread, hcheck⟩ := Reading.check_eq_value h
  obtain ⟨⟨⟩, -, rfl⟩ := Reading.map_eq_value hcheck
  cases raw with
  | arr fs =>
    intro field hfield
    obtain ⟨j, hj, rfl⟩ := List.mem_iff_getElem.mp hfield
    have hall := readItems_eq_value_iff.mp hread
    exact Field.fitsIn_of_read (hall.get (hall.length_eq ▸ hj) hj)
  | _ => cases hread

theorem Table.fits_of_readTable {raw : Json} {table : Table} (h : readTable raw = .value table) :
    table.Fits := by
  obtain ⟨members, -, -, -, -, -, hfields, -⟩ := readTable_eq_value h
  obtain ⟨rawFields, -, hread⟩ := required_eq_value hfields
  intro field hfield
  exact ⟨fitsIn_of_readFields hread field hfield,
    (Field.isIdentified_iff field).mp (isIdentified_of_readFields hread field hfield)⟩

theorem readFields_toJson {fields : List Field} (hfits : ∀ field ∈ fields, field.FitsIn .standard)
    (hidentity : ∀ field ∈ fields, field.HasIdentity) :
    readFields (.arr (fields.map Field.toJson)) = .value fields := by
  have hread : readList readField (.arr (fields.map Field.toJson)) = .value fields :=
    readList_map fun field hfield => Field.readFieldWith_toJson (hfits field hfield)
  rw [readFields, hread, Reading.check, checkIdentified_of_forall hidentity]
  rfl

theorem readView_toJson (view : View) : readView view.toJson = .value view := by
  obtain ⟨id, name, type⟩ := view
  cases type <;> rfl

theorem Table.readTable_toJson {table : Table} (h : table.Fits) :
    readTable table.toJson = .value table := by
  have hfields : readFields (.arr (table.fields.map Field.toJson)) = .value table.fields :=
    readFields_toJson (fun field hfield => (h field hfield).1)
      fun field hfield => (h field hfield).2
  have hviews : readList readView (.arr (table.views.map View.toJson)) = .value table.views :=
    readList_map fun view _ => readView_toJson view
  change Table.mk <$> .value table.id <*> .value table.name <*> .value table.primaryFieldId <*>
    (readOrNull readText (textOrNull table.description)).under (.key "description") <*>
    (readFields (.arr (table.fields.map Field.toJson))).under (.key "fields") <*>
    (readList readView (.arr (table.views.map View.toJson))).under (.key "views") = _
  rw [readOrNull_textOrNull, hfields, hviews]
  rfl

theorem readBase_toJson (base : Base) : readBase base.toJson = .value base := by
  obtain ⟨id, name, permission⟩ := base
  cases permission <;> rfl

theorem fits_of_readTables {members : Members} {tables : List Table}
    (h : readTables members = .value tables) : ∀ table ∈ tables, table.Fits := by
  obtain ⟨raw, -, hread⟩ := required_eq_value h
  cases raw with
  | arr ts =>
    intro table htable
    obtain ⟨i, hi, rfl⟩ := List.mem_iff_getElem.mp htable
    have hall := readItems_eq_value_iff.mp hread
    exact Table.fits_of_readTable (hall.get (hall.length_eq ▸ hi) hi)
  | _ => cases hread

theorem fits_of_readMetadata {raw : Json} {metadata : Metadata}
    (h : readMetadata raw = .value metadata) : ∀ table ∈ metadata.tables, table.Fits := by
  cases raw with
  | obj members =>
    obtain ⟨ofTables, tables, hofTables, htables, rfl⟩ := Reading.seq_eq_value h
    obtain ⟨base, -, rfl⟩ := Reading.map_eq_value hofTables
    exact fits_of_readTables htables
  | _ => cases h

theorem readMetadata_toJson {metadata : Metadata} (h : ∀ table ∈ metadata.tables, table.Fits) :
    readMetadata metadata.toJson = .value metadata := by
  have htables : readList readTable (.arr (metadata.tables.map Table.toJson)) =
      .value metadata.tables :=
    readList_map fun table htable => Table.readTable_toJson (h table htable)
  change Metadata.mk <$> (readBase metadata.base.toJson).under (.key "base") <*>
    (readList readTable (.arr (metadata.tables.map Table.toJson))).under (.key "tables") = _
  rw [readBase_toJson, htables]
  rfl

/-! ## Results at every depth -/

/-- The result of the result, and so on, of a field. -/
def Field.resultAt? : Nat → Field → Option Field
  | 0, field => some field
  | n + 1, field => field.result?.bind (resultAt? n)

theorem Shape.FitsIn.of_below {guard : Guard} {shape : Shape} (h : shape.FitsIn guard.below) :
    shape.FitsIn guard := by
  cases shape with
  | timestamp type result =>
    cases result with
    | none => trivial
    | some t => exact Guard.opens_of_below h
  | _ => exact h

theorem Field.FitsIn.of_below {guard : Guard} {field : Field} (h : field.FitsIn guard.below) :
    field.FitsIn guard := by
  induction field generalizing guard with
  | plain heading shape => exact ⟨Guard.opens_of_below h.1, h.2.of_below⟩
  | computed heading type result ih => exact ⟨Guard.opens_of_below h.1, ih h.2⟩

theorem Field.fitsIn_result {guard : Guard} {field result : Field} (h : field.FitsIn guard)
    (hresult : field.result? = some result) : result.FitsIn guard := by
  cases field with
  | computed heading type inner =>
    cases hresult
    exact h.2.of_below
  | plain heading shape =>
    cases shape with
    | timestamp type t =>
      cases t with
      | none => cases hresult
      | some t =>
        cases hresult
        exact ⟨Guard.opens_of_below h.2, trivial⟩
    | _ => cases hresult

theorem Field.fitsIn_resultAt {guard : Guard} {n : Nat} {field result : Field}
    (h : field.FitsIn guard) (hresult : field.resultAt? n = some result) :
    result.FitsIn guard := by
  induction n generalizing field with
  | zero =>
    cases hresult
    exact h
  | succ n ih =>
    obtain ⟨inner, hinner, hresult⟩ := Option.bind_eq_some_iff.mp hresult
    exact ih (fitsIn_result h hinner) hresult

theorem Field.fitsIn_of_ofJson {raw : Json} {field : Field} (h : Field.ofJson raw = .ok field) :
    field.FitsIn .standard :=
  fitsIn_of_read (Reading.toExcept_eq_ok_iff.mp h)

theorem Field.ofJson_toJson {field : Field} (h : field.FitsIn .standard) :
    Field.ofJson field.toJson = .ok field :=
  Reading.toExcept_eq_ok_iff.mpr (readFieldWith_toJson h)

theorem Metadata.ofJson_toJson {raw : Json} {metadata : Metadata}
    (h : Metadata.ofJson raw = .ok metadata) : Metadata.ofJson metadata.toJson = .ok metadata :=
  Reading.toExcept_eq_ok_iff.mpr
    (readMetadata_toJson (fits_of_readMetadata (Reading.toExcept_eq_ok_iff.mp h)))

/-! ## Normal forms -/

/-- A document, and a field, written out in full. -/
def Metadata.normalized (raw : Json) : Except Mismatch Json :=
  (Metadata.ofJson raw).map Metadata.toJson

def Field.normalized (raw : Json) : Except Mismatch Json := (Field.ofJson raw).map Field.toJson

theorem map_eq_of_read {α : Type} {read : Json → Except Mismatch α} {write : α → Json}
    (hread : ∀ raw a, read raw = .ok a → read (write a) = .ok a) {raw form : Json}
    (h : (read raw).map write = .ok form) : (read form).map write = .ok form := by
  cases ha : read raw with
  | ok a =>
    rw [ha] at h
    cases h
    rw [hread raw a ha]
    rfl
  | error m =>
    rw [ha] at h
    cases h

/-- What was read is read back from what is written of it, for documents and for the results of a
field at every depth; so a normal form is its own normal form. -/
theorem ofJson_toJson_of_ofJson :
    (∀ raw metadata, Metadata.ofJson raw = .ok metadata →
      Metadata.ofJson metadata.toJson = .ok metadata) ∧
    (∀ raw form, Metadata.normalized raw = .ok form → Metadata.normalized form = .ok form) ∧
    (∀ raw field, Field.ofJson raw = .ok field → ∀ n result, field.resultAt? n = some result →
      Field.ofJson result.toJson = .ok result) ∧
    ∀ raw form, Field.normalized raw = .ok form → Field.normalized form = .ok form := by
  refine ⟨fun _ _ => Metadata.ofJson_toJson, ?_, ?_, ?_⟩
  · exact fun _ _ => map_eq_of_read fun _ _ => Metadata.ofJson_toJson
  · intro raw field h n result hresult
    exact Field.ofJson_toJson (Field.fitsIn_resultAt (Field.fitsIn_of_ofJson h) hresult)
  · exact fun _ _ => map_eq_of_read fun _ _ h => Field.ofJson_toJson (Field.fitsIn_of_ofJson h)

def scoreResult : Json :=
  .obj [("type", .str "percent"), ("options", .obj [("precision", .bool true)])]

def scoreField : Json :=
  .obj [("id", .str "fldScore"), ("name", .str "Score"), ("type", .str "formula"),
    ("isValid", .bool true), ("options", .obj [("result", scoreResult)])]

def scoreTable : Json :=
  .obj [("id", .str "tblScores"), ("name", .str "Scores"), ("primary_field_id", .str "fldScore"),
    ("fields", .arr [scoreField])]

def scoreDocument : Json :=
  .obj [("base", .obj [("id", .str "appGames"), ("name", .str "Games"),
      ("permission_level", .str "edit")]),
    ("tables", .arr [scoreTable])]

def scorePercent : Field := .plain ⟨none, none, none⟩ (.number .percent 1)

def score : Field := .computed ⟨some "fldScore", some "Score", none⟩ .formula scorePercent

def scoresTable : Table := ⟨"tblScores", "Scores", "fldScore", none, [score], []⟩

def scores : Metadata where
  base := ⟨"appGames", "Games", .edit⟩
  tables := [scoresTable]

theorem readField_score : readField scoreField = .value score := by
  have hresult : readFieldWith Guard.standard.below scoreResult = .value scorePercent :=
    FieldFrom.readFieldWith_eq (.plain rfl nofun rfl rfl rfl)
  exact FieldFrom.readFieldWith_eq (.computed rfl rfl rfl rfl hresult)

theorem readTable_score : readTable scoreTable = .value scoresTable := by
  have hfields : readFields (.arr [scoreField]) = .value [score] := by
    simp only [readFields, readList, readItems, readField_score]
    rfl
  change _ <*> (readFields (.arr [scoreField])).under (.key "fields") <*> _ = _
  rw [hfields]
  rfl

theorem ofJson_score : Metadata.ofJson scoreDocument = .ok scores := by
  refine Reading.toExcept_eq_ok_iff.mpr ?_
  change _ <*> ((List.cons <$> (readTable _).under (.index 0) <*> _).under (.key "tables")) = _
  rw [readTable_score]
  rfl

theorem ofJson_toJson_scores :
    Metadata.ofJson scoreDocument = .ok scores ∧ Metadata.ofJson scores.toJson = .ok scores ∧
    Metadata.normalized scoreDocument = .ok scores.toJson ∧
    Metadata.normalized scores.toJson = .ok scores.toJson ∧
    Field.ofJson scoreField = .ok score ∧ score.resultAt? 1 = some scorePercent ∧
    Field.ofJson scorePercent.toJson = .ok scorePercent ∧
    Field.normalized scoreField = .ok score.toJson ∧
    Field.normalized score.toJson = .ok score.toJson := by
  have hfield : Field.ofJson scoreField = .ok score :=
    Reading.toExcept_eq_ok_iff.mpr readField_score
  have hform : Metadata.normalized scoreDocument = .ok scores.toJson := by
    rw [Metadata.normalized, ofJson_score]
    rfl
  have hfieldForm : Field.normalized scoreField = .ok score.toJson := by
    rw [Field.normalized, hfield]
    rfl
  obtain ⟨hmetadata, hnormalized, hresults, hfieldNormalized⟩ := ofJson_toJson_of_ofJson
  exact ⟨ofJson_score, hmetadata _ _ ofJson_score, hform, hnormalized _ _ hform, hfield, rfl,
    hresults _ _ hfield 1 _ rfl, hfieldForm, hfieldNormalized _ _ hfieldForm⟩

end RecordTypes

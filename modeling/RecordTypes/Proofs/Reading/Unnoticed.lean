import Mathlib.Logic.Relation
import RecordTypes.Generation.Basic
import RecordTypes.Proofs.Metadata.RoundTrip
import RecordTypes.Proofs.Reading.Readers

/-! Documents that differ in undeclared keys and in the spelling of declared ones hold the same
metadata, so the same text is generated from them. -/

namespace RecordTypes

/-- The text that is generated from a document, if it can be read. -/
def generatedFrom (raw : Json) (options : GenerationOptions) :
    Option (Except GenerationError String) :=
  match Metadata.ofJson raw with
  | .ok metadata => some (generate metadata.base metadata.tables options)
  | .error _ => none

abbrev EditedDocument := Relation.ReflTransGen (Slot.model .metadata).Edited

theorem outcome_readMetadata_of_edited {raw edited : Json} (h : EditedDocument raw edited) :
    (readMetadata edited).outcome = (readMetadata raw).outcome := by
  induction h with
  | refl => rfl
  | @tail before after _ hedit ih =>
    rw [(describes_readMetadata before).unnoticed after hedit, ih]

theorem ofJson_of_edited {raw edited : Json} (h : EditedDocument raw edited) :
    (∀ metadata, Metadata.ofJson edited = .ok metadata ↔ Metadata.ofJson raw = .ok metadata) ∧
    ∀ options, generatedFrom edited options = generatedFrom raw options := by
  have hread (metadata : Metadata) :
      Metadata.ofJson edited = .ok metadata ↔ Metadata.ofJson raw = .ok metadata := by
    rw [Metadata.ofJson, Metadata.ofJson, Reading.toExcept_eq_ok_iff, Reading.toExcept_eq_ok_iff,
      ← Reading.outcome_eq_ok_iff, ← Reading.outcome_eq_ok_iff, outcome_readMetadata_of_edited h]
  refine ⟨hread, fun options => ?_⟩
  rw [generatedFrom, generatedFrom]
  cases hraw : Metadata.ofJson raw with
  | ok metadata => rw [(hread metadata).mpr hraw]
  | error m =>
    cases hedited : Metadata.ofJson edited with
    | ok metadata => cases hraw.symm.trans ((hread metadata).mp hedited)
    | error m' => rfl

/-! ## The scores once more -/

def percentWith (more : Members) : Members :=
  [("type", .str "percent"), ("options", .obj (("precision", .bool true) :: more))]

def scoreMembersWith (more : Members) : Members :=
  [("id", .str "fldScore"), ("name", .str "Score"), ("type", .str "formula"),
    ("isValid", .bool true), ("options", .obj [("result", .obj (percentWith more))])]

def scoreTableWith (primaryKey : String) (more : Members) : Members :=
  [("id", .str "tblScores"), ("name", .str "Scores"), (primaryKey, .str "fldScore"),
    ("fields", .arr [.obj (scoreMembersWith more)])]

/-- The document of the scores, with the key of the primary field spelled in some way and more
members in the options of the percentage. -/
def scoreDocumentWith (primaryKey : String) (more : Members) : Json :=
  .obj [("base", .obj [("id", .str "appGames"), ("name", .str "Games"),
      ("permission_level", .str "edit")]),
    ("tables", .arr [.obj (scoreTableWith primaryKey more)])]

theorem edited_scoreDocument {key key' : String} {more more' : Members}
    (h : (Slot.model .table).Edited (.obj (scoreTableWith key more))
      (.obj (scoreTableWith key' more'))) :
    (Slot.model .metadata).Edited (scoreDocumentWith key more) (scoreDocumentWith key' more') := by
  have hlist : (Slot.list .table).Edited (.arr [.obj (scoreTableWith key more)])
      (.arr [.obj (scoreTableWith key' more')]) := .item (i := 0) rfl h
  have htables (members : Members) : ("tables", .list .table) ∈ Model.metadata.parts members :=
    .tail _ (.head _)
  have hpart := Slot.Edited.part (htables [("base", .obj [("id", .str "appGames"),
    ("name", .str "Games"), ("permission_level", .str "edit")]),
    ("tables", .arr [.obj (scoreTableWith key more)])]) rfl hlist
  exact hpart

theorem respelled_scores :
    (Slot.model .metadata).Edited (scoreDocumentWith "primaryFieldId" [])
      (scoreDocumentWith "primary_field_id" []) := by
  refine edited_scoreDocument (.keys (.respelled "primaryFieldId" (by decide) rfl rfl rfl ?_))
  intro k hk hk'
  have hspelled : k ≠ "primary_field_id" := hk'
  simp only [scoreTableWith, Members.find?, List.lookup_cons, beq_eq_false_iff_ne.mpr hk,
    beq_eq_false_iff_ne.mpr hspelled]

theorem extended_scores :
    (Slot.model .metadata).Edited (scoreDocumentWith "primary_field_id" [])
      (scoreDocumentWith "primary_field_id" [("symbol", .str "%")]) := by
  have hprecision : (Slot.model .precision).Edited (.obj [("precision", .bool true)])
      (.obj [("precision", .bool true), ("symbol", .str "%")]) := by
    refine .keys (.undeclared "symbol" (by decide) (by decide) fun k hk => ?_)
    simp only [Members.find?, List.lookup_cons, beq_eq_false_iff_ne.mpr hk]
  have hpercent : ("options", .model .precision) ∈ Model.field.parts (percentWith []) :=
    .tail _ (.tail _ (.tail _ (.tail _ (.head _))))
  have hresult := Slot.Edited.part hpercent rfl hprecision
  have hcomputed : ("result", .model .field) ∈
      Model.computed.parts [("result", .obj (percentWith []))] := .head _
  have hoptions := Slot.Edited.part hcomputed rfl hresult
  have hscore : ("options", .model .computed) ∈ Model.field.parts (scoreMembersWith []) :=
    .tail _ (.tail _ (.tail _ (.tail _ (.head _))))
  have hfield := Slot.Edited.part hscore rfl hoptions
  have hitem : [Json.obj (scoreMembersWith [])][0]? = some (.obj (scoreMembersWith [])) := rfl
  have hfields : ("fields", .list .field) ∈
      Model.table.parts (scoreTableWith "primary_field_id" []) :=
    .tail _ (.tail _ (.tail _ (.tail _ (.head _))))
  have htable := Slot.Edited.part hfields rfl (.item hitem hfield)
  exact edited_scoreDocument htable

theorem ofJson_of_edited_scores :
    EditedDocument (scoreDocumentWith "primaryFieldId" [])
      (scoreDocumentWith "primary_field_id" [("symbol", .str "%")]) ∧
    Metadata.ofJson (scoreDocumentWith "primaryFieldId" []) = .ok scores ∧
    Metadata.ofJson (scoreDocumentWith "primary_field_id" [("symbol", .str "%")]) = .ok scores ∧
    ∀ options, generatedFrom (scoreDocumentWith "primary_field_id" [("symbol", .str "%")])
      options = generatedFrom (scoreDocumentWith "primaryFieldId" []) options := by
  have hedited := Relation.ReflTransGen.tail (.single respelled_scores) extended_scores
  have hplain := (ofJson_of_edited (.single respelled_scores)).1 scores
  obtain ⟨hboth, htexts⟩ := ofJson_of_edited hedited
  have hraw := hplain.mp ofJson_score
  exact ⟨hedited, hraw, (hboth scores).mpr hraw, htexts⟩

end RecordTypes

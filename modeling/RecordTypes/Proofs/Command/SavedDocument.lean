import RecordTypes.Command.Plan
import RecordTypes.Proofs.Metadata.RoundTrip
import RecordTypes.Proofs.Service.Fetch
import RecordTypes.Proofs.Service.Indexing

/-! A document that was saved and is read later. It holds the value it was saved for, so it is
accepted or refused as that value is, and declarations generated from it are those that the service
itself would have led to. -/

namespace RecordTypes

/-- A document as it is written when a value is saved. -/
def Document.IsSaved (document : Document) (raw : Json) : Prop :=
  ∃ folder, Step.write document.path document.text ∈ (savePlan folder raw).steps

theorem Document.IsSaved.text_eq {document : Document} {raw : Json} (h : document.IsSaved raw) :
    document.text = documentText raw := by
  obtain ⟨folder, hwrite⟩ := h
  simp only [savePlan, List.mem_cons, Step.write.injEq, reduceCtorEq, List.not_mem_nil, or_false]
    at hwrite
  exact hwrite.2

/-! ## Reading it -/

section
variable {raw : Json} (h : raw.Writable)
include h

theorem ofText_documentText : Json.ofText? (documentText raw).toList = some raw := by
  rw [documentText, String.toList_ofList]
  exact Json.ofText_spreadText h

theorem metadataOfText_documentText (source : String) :
    metadataOfText source (documentText raw) = metadataOfJson raw := by
  rw [metadataOfText, ofText_documentText h]

theorem metadataOfBytes_documentText (source : String) :
    metadataOfBytes source (documentText raw).toUTF8 = metadataOfJson raw := by
  rw [metadataOfBytes, fromUTF8?_toUTF8]
  exact metadataOfText_documentText h source

end

/-! ## The base that was asked for -/

theorem id_of_readBase {baseId : String} {raw : Json} {base : Base} (hid : hasId baseId raw = true)
    (h : readBase raw = .value base) : base.id = baseId := by
  rw [hasId_of_readBase h] at hid
  exact beq_iff_eq.mp hid

theorem id_of_ofJson {baseId : String} {base : Json} {tables : List Json} {metadata : Metadata}
    (hid : hasId baseId base = true)
    (h : Metadata.ofJson (baseWithTables base tables) = .ok metadata) :
    metadata.base.id = baseId := by
  have hread : readMetadata (baseWithTables base tables) = .value metadata :=
    Reading.toExcept_eq_ok_iff.mp h
  obtain ⟨ofTables, readTables, hofTables, -, rfl⟩ := Reading.seq_eq_value hread
  obtain ⟨read, hbase, rfl⟩ := Reading.map_eq_value hofTables
  exact id_of_readBase hid (Reading.under_eq_value hbase)

theorem Exchange.fetch_eq_ok {script : List Reply} {environment : Environment}
    {given : Option String} {baseId : String} {raw : Json}
    (h : ((start script).fetch environment given baseId).1 = .ok raw) :
    ∃ base tables, hasId baseId base = true ∧ raw = baseWithTables base tables := by
  obtain ⟨token, hfetched⟩ := exists_fetched (Prod.ext h rfl)
  exact hfetched.eq_baseWithTables

theorem result_fetchRaw (environment : Environment) (replies : List Reply)
    (source : MetadataSource) :
    (fetchRaw environment replies source).result =
      ((Exchange.start replies).fetch environment source.token (source.baseId.getD "")).1 := rfl

/-! ## Generating from it -/

/-- The same command, with a document to read from or without. -/
def GenerateCommand.reading (command : GenerateCommand) (document : Option Document) :
    GenerateCommand :=
  { command with source := { command.source with document := document } }

theorem checkBase_of_id {baseId : Option String} {metadata : Metadata}
    (h : metadata.base.id = baseId.getD "") : checkBase baseId metadata = .ok metadata := by
  cases baseId with
  | none => rfl
  | some id => simp [checkBase, h]

theorem loadDocument_of_fetched {raw : Json} (h : raw.Writable) {document : Document}
    (hsaved : document.IsSaved raw) {environment : Environment} {replies : List Reply}
    {source : MetadataSource} (hfetch : (fetchRaw environment replies source).result = .ok raw) :
    loadDocument source.baseId document = metadataOfJson raw := by
  rw [result_fetchRaw] at hfetch
  obtain ⟨base, tables, hid, rfl⟩ := Exchange.fetch_eq_ok hfetch
  rw [loadDocument, hsaved.text_eq, metadataOfText_documentText h]
  cases hread : Metadata.ofJson (baseWithTables base tables) with
  | error m =>
    rw [metadataOfJson, hread]
    rfl
  | ok metadata =>
    rw [metadataOfJson, hread]
    exact checkBase_of_id (id_of_ofJson hid hread)

def Plan.after (steps : List Step) (plan : Plan) : Plan := ⟨steps ++ plan.steps, plan.ending⟩

theorem Loaded.plan_after {α : Type} (steps : List Step) (result : Except FetchError α)
    (next : α → Plan) :
    (Loaded.mk steps result).plan next = Plan.after steps ((Loaded.mk [] result).plan next) := by
  cases result with
  | ok a => rfl
  | error error => cases error <;> simp [Loaded.plan, Plan.after, Plan.failing]

theorem plan_generate_saved {raw : Json} (h : raw.Writable) {document : Document}
    (hsaved : document.IsSaved raw) {environment : Environment} {replies : List Reply}
    {command : GenerateCommand}
    (hfetch : (fetchRaw environment replies command.source).result = .ok raw)
    (hbase : command.source.baseId.getD "" ≠ "") (other : Environment) (more : List Reply) :
    (Command.generate (command.reading none)).plan environment replies =
      Plan.after (fetchRaw environment replies command.source).steps
        ((Command.generate (command.reading (some document))).plan other more) := by
  have hload := loadDocument_of_fetched h hsaved hfetch
  have hsource : (command.reading none).isWithoutSource = false := by
    simp [GenerateCommand.isWithoutSource, GenerateCommand.reading, hbase]
  have hdocument : (command.reading (some document)).isWithoutSource = false := by
    simp [GenerateCommand.isWithoutSource, GenerateCommand.reading]
  have hdirect : loadMetadata environment replies (command.reading none).source =
      ⟨(fetchRaw environment replies command.source).steps,
        (metadataOfJson raw).mapError .failed⟩ := by
    change (fetchRaw environment replies command.source).bind metadataOfJson = _
    rw [Loaded.bind, hfetch]
  have hoffline : loadMetadata other more (command.reading (some document)).source =
      ⟨[], (metadataOfJson raw).mapError .failed⟩ := by
    change Loaded.mk [] ((loadDocument command.source.baseId document).mapError .failed) = _
    rw [hload]
  rw [Command.plan, hsource, Command.plan, hdocument, hdirect, hoffline, Loaded.plan_after]
  rfl

/-- A saved document is read as the value it was saved for, with its members in the same order, and
stands for it wherever metadata is needed: what a command generates from it is what the command
generates from the service, when that is where the value came from. -/
theorem saved_document_reads_as_data {raw : Json} (h : raw.Writable) {document : Document}
    (hsaved : document.IsSaved raw) :
    Json.ofText? document.text.toList = some raw ∧
    (∀ source, metadataOfBytes source document.text.toUTF8 = metadataOfJson raw) ∧
    ∀ (command : GenerateCommand) (environment : Environment) (replies : List Reply),
      (fetchRaw environment replies command.source).result = .ok raw →
      command.source.baseId.getD "" ≠ "" →
      ∀ (other : Environment) (more : List Reply),
        (Command.generate (command.reading none)).plan environment replies =
          Plan.after (fetchRaw environment replies command.source).steps
            ((Command.generate (command.reading (some document))).plan other more) := by
  rw [hsaved.text_eq]
  refine ⟨ofText_documentText h, metadataOfBytes_documentText h, ?_⟩
  intro command environment replies hfetch hbase other more
  exact plan_generate_saved h hsaved hfetch hbase other more

def gamesBase : Json :=
  .obj [("id", .str "appGames"), ("name", .str "Games \"🎲\"\n\\"), ("permissionLevel", .str "edit"),
    ("weight", .float 2.5), ("plays", .int (-12))]

def gamesDocument : Document :=
  ⟨(Path.ofText "data").child documentName,
    documentText (baseWithTables gamesBase [scoreTable])⟩

def gamesCommand : GenerateCommand where
  source := ⟨some "appGames", none, some "pat"⟩
  output := none
  options := ⟨.typescript, .types, false, none⟩

def gamesReplies : List Reply :=
  [.error ⟨"ReadTimeout", ""⟩, .holding "bases" [gamesBase], .holding "tables" [scoreTable]]

theorem readsBack_weight : ReadsBack 2.5 := by
  intro _
  rfl

theorem writable_gamesBase : gamesBase.Writable := by
  have hplays : (Json.int (-12)).Writable := .int (by decide)
  have hweight : (Json.float 2.5).Writable := .float rfl readsBack_weight
  exact .obj (by decide) (by simp [Json.Writable.str, hplays, hweight])

theorem writable_scoreTable : scoreTable.Writable := by
  have hprecision : (Json.obj [("precision", .bool true)]).Writable :=
    .obj (by decide) (by simp [Json.Writable.bool])
  have hresult : scoreResult.Writable := .obj (by decide) (by simp [Json.Writable.str, hprecision])
  have hoptions : (Json.obj [("result", scoreResult)]).Writable :=
    .obj (by decide) (by simp [hresult])
  have hfield : scoreField.Writable :=
    .obj (by decide) (by simp [Json.Writable.str, Json.Writable.bool, hoptions])
  have hfields : (Json.arr [scoreField]).Writable := .arr (by simp [hfield])
  exact .obj (by decide) (by simp [Json.Writable.str, hfields])

theorem writable_gamesData : (baseWithTables gamesBase [scoreTable]).Writable := by
  have htables : (Json.arr [scoreTable]).Writable := .arr (by simp [writable_scoreTable])
  exact .obj (by decide) (by simp [writable_gamesBase, htables])

theorem listOfJson_score :
    Table.listOfJson (.obj [("tables", .arr [scoreTable])]) = .ok [scoresTable] := by
  refine Reading.toExcept_eq_ok_iff.mpr ?_
  change (List.cons <$> (readTable _).under (.index 0) <*> _).under (.key "tables") = _
  rw [readTable_score]
  rfl

theorem fetchRaw_games : (fetchRaw [] gamesReplies gamesCommand.source).result =
    .ok (baseWithTables gamesBase [scoreTable]) := by
  have hfetch : (Exchange.start gamesReplies).fetch [] (some "pat") "appGames" = _ :=
    Exchange.fetch_holding rfl (by decide) rfl
      (List.forall_mem_singleton.mpr writable_gamesBase)
      (List.forall_mem_singleton.mpr writable_scoreTable) rfl rfl rfl listOfJson_score
  rw [result_fetchRaw]
  exact congrArg Prod.fst hfetch

theorem saved_document_reads_as_data_games :
    (baseWithTables gamesBase [scoreTable]).Writable ∧
    gamesDocument.IsSaved (baseWithTables gamesBase [scoreTable]) ∧
    Json.ofText? gamesDocument.text.toList = some (baseWithTables gamesBase [scoreTable]) ∧
    metadataOfBytes "meta.json" gamesDocument.text.toUTF8 =
      metadataOfJson (baseWithTables gamesBase [scoreTable]) ∧
    (Command.generate (gamesCommand.reading none)).plan [] gamesReplies =
      Plan.after (fetchRaw [] gamesReplies gamesCommand.source).steps
        ((Command.generate (gamesCommand.reading (some gamesDocument))).plan [] []) := by
  have hsaved : gamesDocument.IsSaved (baseWithTables gamesBase [scoreTable]) :=
    ⟨Path.ofText "data", List.mem_cons_self⟩
  obtain ⟨htext, hbytes, hoffline⟩ := saved_document_reads_as_data writable_gamesData hsaved
  exact ⟨writable_gamesData, hsaved, htext, hbytes "meta.json",
    hoffline gamesCommand [] gamesReplies fetchRaw_games (by decide) [] []⟩

end RecordTypes

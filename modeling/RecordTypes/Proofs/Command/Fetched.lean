import RecordTypes.Proofs.Command.SavedDocument

/-! Data that was fetched is metadata. It is put together from parts of two responses that were
accepted one by one, so it is accepted as a whole, and what is read from it is what was read from
the responses. -/

namespace RecordTypes

/-! ## Responses -/

/-- The JSON value of a reply that is a success. -/
def Exchange.Event.json? : Exchange.Event → Option Json
  | .asked _ (.ok response) => if response.isSuccess then response.json? else none
  | _ => none

theorem Exchange.Round.filterMap_json? {request : Request} {round : List Event}
    {response : Response} {raw : Json} (h : Round request round (.ok response))
    (hstatus : response.isSuccess = true) (hjson : response.json? = some raw) :
    round.filterMap Event.json? = [raw] := by
  have hlast : Event.json? (.asked request (.ok response)) = some raw := by
    simp only [Event.json?, hstatus, if_true, hjson]
  have hpause : Event.json? (.paused 5) = none := rfl
  cases h with
  | once hreply => simp only [List.filterMap_cons, hlast, List.filterMap_nil]
  | @twice first last hfirst =>
    have hnone : Event.json? (.asked request first) = none := by
      cases first with
      | error failure => rfl
      | ok response => cases hfirst
    simp only [List.filterMap_cons, hnone, hpause, hlast, List.filterMap_nil]

/-- The base and the tables are read from the two responses of a fetch, the base as the first one
with the id. -/
def IsFetched (baseId : String) (events : List Exchange.Event) (metadata : Metadata) : Prop :=
  ∃ rawBases rawTables bases, events.filterMap Exchange.Event.json? = [rawBases, rawTables] ∧
    Base.listOfJson rawBases = .ok bases ∧
    bases.find? (fun base => base.id == baseId) = some metadata.base ∧
    Table.listOfJson rawTables = .ok metadata.tables

/-! ## The parts and the whole -/

theorem find?_of_readBase {rawBases : List Json} {bases : List Base}
    (h : List.Forall₂ (fun raw base => readBase raw = .value base) rawBases bases)
    {baseId : String} {raw : Json} (hfind : rawBases.find? (hasId baseId) = some raw) :
    ∃ base, bases.find? (fun base => base.id == baseId) = some base ∧
      readBase raw = .value base := by
  induction h with
  | nil => cases hfind
  | @cons first base rawBases bases hbase hrest ih =>
    have hhas := hasId_of_readBase hbase baseId
    by_cases hsame : base.id = baseId
    · rw [List.find?_cons_of_pos (by simp [hhas, hsame])] at hfind
      cases hfind
      exact ⟨base, List.find?_cons_of_pos (by simp [hsame]), hbase⟩
    · rw [List.find?_cons_of_neg (by simp [hhas, hsame])] at hfind
      rw [List.find?_cons_of_neg (by simp [hsame])]
      exact ih hfind

theorem readMetadata_baseWithTables {rawBase : Json} {rawTables : List Json} {base : Base}
    {tables : List Table} (hbase : readBase rawBase = .value base)
    (htables : List.Forall₂ (fun raw table => readTable raw = .value table) rawTables tables) :
    readMetadata (baseWithTables rawBase rawTables) = .value ⟨base, tables⟩ := by
  change Metadata.mk <$> (readBase rawBase).under (.key "base") <*>
    (readItems readTable 0 rawTables).under (.key "tables") = _
  rw [hbase, readItems_eq_value_iff.mpr htables]
  rfl

theorem Reply.Answers.exists_read {α : Type} {url key root model : String}
    {read : Json → Reading α} {reply : Reply} {items : List Json} (hkey : underscored key = key)
    (h : reply.Answers url key (fun raw =>
      (readModel model (required key (readList read)) raw).toExcept root raw) (.ok items)) :
    ∃ response raw as, reply = .ok response ∧ response.isSuccess = true ∧
      response.json? = some raw ∧
      (readModel model (required key (readList read)) raw).toExcept root raw = .ok as ∧
      List.Forall₂ (fun item a => read item = .value a) items as := by
  cases h with
  | @listed response members items as hstatus hjson hread hitems =>
    obtain ⟨found, foundItems, hfound, hfind, hall⟩ := exists_items_of_toExcept hkey hread
    cases hfound
    rw [hitems] at hfind
    cases hfind
    exact ⟨response, _, as, rfl, hstatus, hjson, hread, hall⟩

theorem Fetched.exists_metadata {token baseId : String} {events : List Exchange.Event}
    {data : Json} (h : Fetched token baseId events (.ok data)) :
    ∃ metadata, Metadata.ofJson data = .ok metadata ∧ IsFetched baseId events metadata := by
  cases h with
  | @fetched round later base url reply tables hbase hurl hlater htables =>
    obtain ⟨first, rawBases, hround, hbases, hfind⟩ := hbase
    obtain ⟨response, basesJson, bases, rfl, hstatus, hjson, hread, hall⟩ :=
      Reply.Answers.exists_read (by decide) hbases
    obtain ⟨response', tablesJson, readTables, rfl, hstatus', hjson', hread', hall'⟩ :=
      Reply.Answers.exists_read (by decide) htables
    obtain ⟨found, hfound, hbase⟩ := find?_of_readBase hall hfind
    refine ⟨⟨found, readTables⟩, ?_, basesJson, tablesJson, bases, ?_, hread, hfound, hread'⟩
    · exact Reading.toExcept_eq_ok_iff.mpr (readMetadata_baseWithTables hbase hall')
    · rw [List.filterMap_append, hround.filterMap_json? hstatus hjson,
        hlater.filterMap_json? hstatus' hjson']
      rfl

/-- Whatever the service answers, data that is fetched is accepted as metadata: that of the first
base with the id and of the tables, as they are read from the two responses. So whoever loads it
meets no mismatch after the fetch, and no response is taken apart where it cannot be. -/
theorem fetched_data_is_valid (environment : Environment) (script : List Reply) :
    (∀ given baseId data e,
      (Exchange.start script).fetch environment given baseId = (.ok data, e) →
        ∃ metadata, Metadata.ofJson data = .ok metadata ∧ IsFetched baseId e.events metadata) ∧
    (∀ source : MetadataSource, source.document = none →
      ∀ data, (fetchRaw environment script source).result = .ok data →
        ∃ metadata, Metadata.ofJson data = .ok metadata ∧
          (loadMetadata environment script source).result = .ok metadata) ∧
    ∀ given baseId, (Exchange.start script).take environment given baseId =
      .ok ((Exchange.start script).fetch environment given baseId) := by
  have hvalid : ∀ given baseId data e,
      (Exchange.start script).fetch environment given baseId = (.ok data, e) →
        ∃ metadata, Metadata.ofJson data = .ok metadata ∧ IsFetched baseId e.events metadata := by
    intro given baseId data e h
    obtain ⟨token, hfetched⟩ := Exchange.exists_fetched h
    exact hfetched.exists_metadata
  refine ⟨hvalid, fun source hsource data hdata => ?_, fun given baseId => ?_⟩
  · have hfetch := hdata
    rw [result_fetchRaw] at hfetch
    obtain ⟨metadata, hread, -⟩ := hvalid _ _ data _ (Prod.ext hfetch rfl)
    refine ⟨metadata, hread, ?_⟩
    simp only [loadMetadata, hsource, Loaded.bind, hdata, metadataOfJson, hread]
    rfl
  · exact Exchange.take_eq (Exchange.start script) environment given baseId

/-- A later base with the same id, and with a key in its other spelling. -/
def copyBase : Json :=
  .obj [("permission_level", .str "read"), ("name", .str "Copy"), ("id", .str "appGames")]

def arcadeReplies : List Reply :=
  [.error ⟨"ReadTimeout", ""⟩, .holding "bases" [lampBase, gamesBase, copyBase],
    .holding "tables" [scoreTable]]

def arcadeEvents : List Exchange.Event :=
  [.asked (basesRequest "pat") (.error ⟨"ReadTimeout", ""⟩), .paused 5,
    .asked (basesRequest "pat") (.holding "bases" [lampBase, gamesBase, copyBase]),
    .asked ⟨"https://api.airtable.com/v0/meta/bases/appGames/tables", "Bearer pat"⟩
      (.holding "tables" [scoreTable])]

def arcade : Metadata := ⟨⟨"appGames", "Games \"🎲\"\n\\", .edit⟩, [scoresTable]⟩

theorem fetch_arcade : (Exchange.start arcadeReplies).fetch [] (some "pat") "appGames" =
    (.ok (baseWithTables gamesBase [scoreTable]), ⟨[], arcadeEvents⟩) := by
  have hcopy : copyBase.Writable := .obj (by decide) (by simp [Json.Writable.str])
  have hbases : ∀ base ∈ [lampBase, gamesBase, copyBase], base.Writable := by
    simp [writable_lampBase, writable_gamesBase, hcopy]
  exact Exchange.fetch_holding rfl (by decide) rfl hbases
    (List.forall_mem_singleton.mpr writable_scoreTable) rfl rfl rfl listOfJson_score

theorem ofJson_arcade : Metadata.ofJson (baseWithTables gamesBase [scoreTable]) = .ok arcade :=
  Reading.toExcept_eq_ok_iff.mpr
    (readMetadata_baseWithTables rfl (.cons readTable_score .nil))

theorem fetched_data_is_valid_arcade :
    (Exchange.start arcadeReplies).fetch [] (some "pat") "appGames" =
      (.ok (baseWithTables gamesBase [scoreTable]), ⟨[], arcadeEvents⟩) ∧
    Metadata.ofJson (baseWithTables gamesBase [scoreTable]) = .ok arcade ∧
    IsFetched "appGames" arcadeEvents arcade ∧
    (loadMetadata [] arcadeReplies gamesCommand.source).result = .ok arcade ∧
    (Exchange.start arcadeReplies).take [] (some "pat") "appGames" =
      .ok (.ok (baseWithTables gamesBase [scoreTable]), ⟨[], arcadeEvents⟩) := by
  have hraw : (fetchRaw [] arcadeReplies gamesCommand.source).result =
      .ok (baseWithTables gamesBase [scoreTable]) := by
    rw [result_fetchRaw]
    exact congrArg Prod.fst fetch_arcade
  obtain ⟨hvalid, hloaded, htaken⟩ := fetched_data_is_valid [] arcadeReplies
  obtain ⟨metadata, hmetadata, hfetched⟩ := hvalid _ _ _ _ fetch_arcade
  obtain ⟨loaded, hread, hload⟩ := hloaded gamesCommand.source rfl _ hraw
  have htake := htaken (some "pat") "appGames"
  rw [fetch_arcade] at htake
  rw [ofJson_arcade] at hmetadata hread
  cases hmetadata
  cases hread
  exact ⟨fetch_arcade, ofJson_arcade, hfetched, hload, htake⟩

end RecordTypes

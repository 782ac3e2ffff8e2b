import Mathlib.Data.List.TakeWhile
import RecordTypes.Proofs.Json.Bytes
import RecordTypes.Proofs.Service.Exchange
import RecordTypes.Proofs.Service.Url

/-! What happens while the metadata of a base is fetched, told as a list of events. The list of
bases comes first, and only a base that is in it leads to the list of its tables. -/

namespace RecordTypes

/-! ## Requests -/

/-- Words that can be sent along with a request. -/
def IsSendable (token : String) : Prop := ∀ c ∈ token.toList, isAscii c = true

instance (token : String) : Decidable (IsSendable token) :=
  decidable_of_iff (token.toList.all isAscii = true) List.all_eq_true

def basesRequest (token : String) : Request := ⟨basesUrl, "Bearer " ++ token⟩

theorem authorizationFor_of_sendable {token : String} (h : IsSendable token) :
    authorizationFor token = .ok ("Bearer " ++ token) := by
  have hnone : ("Bearer " ++ token).toList.dropWhile isAscii = [] := by
    rw [List.dropWhile_eq_nil_iff]
    intro c hc
    rw [String.toList_append] at hc
    rcases List.mem_append.mp hc with hbearer | htoken
    · have hall : "Bearer ".toList.all isAscii = true := by decide
      exact List.all_eq_true.mp hall c hbearer
    · exact h c htoken
  simp only [authorizationFor, hnone]

theorem authorizationFor_of_not_sendable {token : String} (h : ¬ IsSendable token) :
    ∃ run position, authorizationFor token = .error (.notAscii run position) := by
  have hsome : ("Bearer " ++ token).toList.dropWhile isAscii ≠ [] := by
    rw [ne_eq, List.dropWhile_eq_nil_iff]
    intro hall
    refine h fun c hc => hall c ?_
    rw [String.toList_append]
    exact List.mem_append_right _ hc
  unfold authorizationFor
  dsimp only
  split
  · rename_i hnone
    exact absurd hnone hsome
  · exact ⟨_, _, rfl⟩

theorem make_of_sendable {token : String} (h : IsSendable token) (resource : String) :
    Request.make resource token =
      (canonicalUrl resource).map fun url => ⟨url, "Bearer " ++ token⟩ := by
  rw [Request.make, authorizationFor_of_sendable h]
  cases canonicalUrl resource <;> rfl

theorem make_bases {token : String} (h : IsSendable token) :
    Request.make basesResource token = .ok (basesRequest token) := by
  rw [make_of_sendable h, canonicalUrl_bases]
  rfl

theorem make_of_not_sendable {token : String} (h : ¬ IsSendable token) (resource : String) :
    ∃ run position, Request.make resource token = .error (.notAscii run position) := by
  obtain ⟨run, position, hfault⟩ := authorizationFor_of_not_sendable h
  refine ⟨run, position, ?_⟩
  rw [Request.make, hfault]
  rfl

/-! ## Both lists -/

def tablesUrl (baseId : String) : String := serviceHost ++ tablesResource baseId

/-- A round for the list of bases that brings a base with the id, the first one in the list. -/
def BaseFound (token baseId : String) (round : List Exchange.Event) (base : Json) : Prop :=
  ∃ reply bases, Exchange.Round (basesRequest token) round reply ∧
    reply.Answers basesUrl "bases" Base.listOfJson (.ok bases) ∧
    bases.find? (hasId baseId) = some base

/-- How far it goes: a round for the list of bases, and if it brings the base a round for its
tables. Each way to fail is that of the first step that fails. -/
inductive Fetched (token baseId : String) :
    List Exchange.Event → Except FetchError Json → Prop where
  | basesFailed {round : List Exchange.Event} {reply : Reply} {error : FetchError}
      (hround : Exchange.Round (basesRequest token) round reply)
      (hbases : reply.Answers basesUrl "bases" Base.listOfJson (.error error)) :
      Fetched token baseId round (.error error)
  | baseMissing {round : List Exchange.Event} {reply : Reply} {bases : List Json}
      (hround : Exchange.Round (basesRequest token) round reply)
      (hbases : reply.Answers basesUrl "bases" Base.listOfJson (.ok bases))
      (hmissing : bases.find? (hasId baseId) = none) :
      Fetched token baseId round (.error (.failed (.baseNotFound baseId)))
  | tablesUnsent {round : List Exchange.Event} {base : Json} {fault : RequestFault}
      (hbase : BaseFound token baseId round base)
      (hurl : canonicalUrl (tablesResource baseId) = .error fault) :
      Fetched token baseId round (.error (.unsent fault))
  | tablesFailed {round later : List Exchange.Event} {base : Json} {url : String} {reply : Reply}
      {error : FetchError}
      (hbase : BaseFound token baseId round base)
      (hurl : canonicalUrl (tablesResource baseId) = .ok url)
      (hlater : Exchange.Round ⟨url, "Bearer " ++ token⟩ later reply)
      (htables : reply.Answers (tablesUrl baseId) "tables" Table.listOfJson (.error error)) :
      Fetched token baseId (round ++ later) (.error error)
  | fetched {round later : List Exchange.Event} {base : Json} {url : String} {reply : Reply}
      {tables : List Json}
      (hbase : BaseFound token baseId round base)
      (hurl : canonicalUrl (tablesResource baseId) = .ok url)
      (hlater : Exchange.Round ⟨url, "Bearer " ++ token⟩ later reply)
      (htables : reply.Answers (tablesUrl baseId) "tables" Table.listOfJson (.ok tables)) :
      Fetched token baseId (round ++ later) (.ok (baseWithTables base tables))

theorem Fetched.eq_baseWithTables {token baseId : String} {events : List Exchange.Event}
    {data : Json} (h : Fetched token baseId events (.ok data)) :
    ∃ base tables, hasId baseId base = true ∧ data = baseWithTables base tables := by
  cases h with
  | @fetched round later base url reply tables hbase hurl hlater htables =>
    obtain ⟨first, bases, -, -, hfind⟩ := hbase
    exact ⟨base, tables, List.find?_some hfind, rfl⟩

namespace Exchange

theorem fetched_tables {token baseId : String} (h : IsSendable token) {base : Json} {e : Exchange}
    (hbase : BaseFound token baseId e.events base) :
    Fetched token baseId (e.list (tablesResource baseId) token "tables" Table.listOfJson).2.events
      ((e.list (tablesResource baseId) token "tables" Table.listOfJson).1.map
        (baseWithTables base)) := by
  cases hurl : canonicalUrl (tablesResource baseId) with
  | error fault =>
    have hmake : Request.make (tablesResource baseId) token = .error fault := by
      rw [make_of_sendable h, hurl]
      rfl
    rw [list_of_unsent hmake]
    exact .tablesUnsent hbase hurl
  | ok url =>
    have hmake : Request.make (tablesResource baseId) token = .ok ⟨url, "Bearer " ++ token⟩ := by
      rw [make_of_sendable h, hurl]
      rfl
    obtain ⟨later, reply, hlater, hevents, htables⟩ := list_of_sent hmake readsList_tables e
    rw [hevents]
    cases hanswer : (e.list (tablesResource baseId) token "tables" Table.listOfJson).1 with
    | error error =>
      rw [hanswer] at htables
      exact .tablesFailed hbase hurl hlater htables
    | ok tables =>
      rw [hanswer] at htables
      exact .fetched hbase hurl hlater htables

theorem fetchWith_eq (e : Exchange) (token baseId : String) :
    e.fetchWith token baseId =
      match e.list basesResource token "bases" Base.listOfJson with
      | (.error error, e) => (.error error, e)
      | (.ok bases, e) =>
        match bases.find? (hasId baseId) with
        | none => (.error (.failed (.baseNotFound baseId)), e)
        | some base =>
          ((e.list (tablesResource baseId) token "tables" Table.listOfJson).1.map
            (baseWithTables base),
            (e.list (tablesResource baseId) token "tables" Table.listOfJson).2) := by
  unfold fetchWith
  rcases e.list basesResource token "bases" Base.listOfJson with ⟨answer, later⟩
  cases answer with
  | error error => rfl
  | ok bases =>
    dsimp only
    cases bases.find? (hasId baseId) with
    | none => rfl
    | some base =>
      dsimp only
      rcases later.list (tablesResource baseId) token "tables" Table.listOfJson with ⟨_ | _, e⟩ <;>
        rfl

theorem fetched_fetchWith {token : String} (h : IsSendable token) (baseId : String)
    (script : List Reply) :
    Fetched token baseId ((start script).fetchWith token baseId).2.events
      ((start script).fetchWith token baseId).1 := by
  obtain ⟨round, reply, hround, hevents, hbases⟩ :=
    list_of_sent (make_bases h) readsList_bases (start script)
  rw [fetchWith_eq]
  rcases hlist : (start script).list basesResource token "bases" Base.listOfJson with ⟨answer, e⟩
  rw [hlist] at hevents hbases
  obtain rfl : e.events = round := hevents
  cases answer with
  | error error => exact .basesFailed hround hbases
  | ok bases =>
    dsimp only
    cases hfind : bases.find? (hasId baseId) with
    | none => exact .baseMissing hround hbases hfind
    | some base => exact fetched_tables h ⟨reply, bases, hround, hbases, hfind⟩

theorem exists_fetched {script : List Reply} {environment : Environment} {given : Option String}
    {baseId : String} {data : Json} {e : Exchange}
    (h : (start script).fetch environment given baseId = (.ok data, e)) :
    ∃ token, Fetched token baseId e.events (.ok data) := by
  cases hcredential : credential? environment given with
  | none =>
    rw [fetch, hcredential] at h
    cases h
  | some token =>
    rw [fetch, hcredential] at h
    dsimp only at h
    by_cases hsendable : IsSendable token
    · have hfetched := fetched_fetchWith hsendable baseId script
      rw [h] at hfetched
      exact ⟨token, hfetched⟩
    · obtain ⟨run, position, hmake⟩ := make_of_not_sendable hsendable basesResource
      rw [fetchWith, list_of_unsent hmake] at h
      cases h

theorem Follows.fetchWith {script : List Reply} {e : Exchange} (h : e.Follows script)
    (token baseId : String) : (e.fetchWith token baseId).2.Follows script := by
  have hbases := h.list basesResource token "bases" Base.listOfJson
  rw [fetchWith_eq]
  rcases hlist : e.list basesResource token "bases" Base.listOfJson with ⟨answer, later⟩
  rw [hlist] at hbases
  cases answer with
  | error error => exact hbases
  | ok bases =>
    dsimp only
    cases bases.find? (hasId baseId) with
    | none => exact hbases
    | some base => exact hbases.list (tablesResource baseId) token "tables" Table.listOfJson

theorem Follows.fetch {script : List Reply} {e : Exchange} (h : e.Follows script)
    (environment : Environment) (given : Option String) (baseId : String) :
    (e.fetch environment given baseId).2.Follows script := by
  unfold Exchange.fetch
  split
  · exact h
  · exact h.fetchWith _ baseId

end Exchange

/-! ## Answers that hold what is asked for -/

def Reply.holding (key : String) (items : List Json) : Reply :=
  .ok ⟨200, String.ofList (Json.obj [(key, .arr items)]).text⟩

theorem Reply.json_holding {items : List Json} (h : ∀ item ∈ items, item.Writable)
    (key url : String) :
    (Reply.holding key items).json url = .ok (.obj [(key, .arr items)]) := by
  have hwritable : (Json.obj [(key, .arr items)]).Writable :=
    .obj (List.nodup_singleton key) (List.forall_mem_singleton.mpr (.arr h))
  have hsuccess : Response.isSuccess ⟨200, String.ofList (Json.obj [(key, .arr items)]).text⟩ =
      true := rfl
  rw [Reply.holding, Reply.json, if_pos hsuccess]
  dsimp only
  rw [Json.ofBytes_text hwritable]

theorem Exchange.list_holding {α : Type} {resource token key : String} {request : Request}
    {read : Json → Except Mismatch α} {items : List Json} {a : α} {e : Exchange}
    (hrequest : Request.make resource token = .ok request) (h : ∀ item ∈ items, item.Writable)
    (hread : read (.obj [(key, .arr items)]) = .ok a)
    (hreply : (e.askTwice request).1 = Reply.holding key items) :
    e.list resource token key read = (.ok items, (e.askTwice request).2) := by
  rw [list_eq hrequest, hreply, Reply.json_holding h]
  simp only [checkedItems, hread, itemsUnder, Members.find?_cons_self]

theorem Exchange.fetch_holding {environment : Environment} {given : Option String}
    {token baseId url : String} {first : Reply} {base : Json} {bases tables : List Json}
    {readBases : List Base} {readTables : List Table}
    (hcredential : credential? environment given = some token) (hsendable : IsSendable token)
    (hfirst : first.timesOut = true) (hbases : ∀ base ∈ bases, base.Writable)
    (htables : ∀ table ∈ tables, table.Writable)
    (hreadBases : Base.listOfJson (.obj [("bases", .arr bases)]) = .ok readBases)
    (hfind : bases.find? (hasId baseId) = some base)
    (hurl : canonicalUrl (tablesResource baseId) = .ok url)
    (hreadTables : Table.listOfJson (.obj [("tables", .arr tables)]) = .ok readTables) :
    (start [first, .holding "bases" bases, .holding "tables" tables]).fetch environment given
        baseId =
      (.ok (baseWithTables base tables),
        ⟨[], [.asked (basesRequest token) first, .paused 5,
          .asked (basesRequest token) (.holding "bases" bases),
          .asked ⟨url, "Bearer " ++ token⟩ (.holding "tables" tables)]⟩) := by
  have hslow : (start [first, .holding "bases" bases, .holding "tables" tables]).askTwice
      (basesRequest token) = (.holding "bases" bases, ⟨[.holding "tables" tables],
        [.asked (basesRequest token) first, .paused 5,
          .asked (basesRequest token) (.holding "bases" bases)]⟩) := by
    rw [askTwice_eq]
    exact if_pos hfirst
  have hmake : Request.make (tablesResource baseId) token = .ok ⟨url, "Bearer " ++ token⟩ := by
    rw [make_of_sendable hsendable, hurl]
    rfl
  rw [fetch, hcredential]
  dsimp only
  rw [fetchWith_eq, list_holding (make_bases hsendable) hbases hreadBases (by rw [hslow]), hslow]
  dsimp only
  rw [hfind]
  dsimp only
  rw [list_holding hmake htables hreadTables rfl]
  rfl

/-! ## The whole fetch -/

/-- One or two requests for the list of bases, and after them none, one or two for the tables, which
have another address. All are authorized by the same words. -/
def AsksInTurn (token baseId : String) (requests : List Request) : Prop :=
  ∃ n later, (n = 1 ∨ n = 2) ∧ requests = List.replicate n (basesRequest token) ++ later ∧
    (later = [] ∨ ∃ url m, canonicalUrl (tablesResource baseId) = .ok url ∧ url ≠ basesUrl ∧
      (m = 1 ∨ m = 2) ∧ later = List.replicate m ⟨url, "Bearer " ++ token⟩)

/-- Both rounds end with a list that could be read, and the base is in the first one. -/
def Succeeds (token baseId : String) (events : List Exchange.Event) (data : Json) : Prop :=
  ∃ round later base url reply tables, events = round ++ later ∧
    BaseFound token baseId round base ∧ canonicalUrl (tablesResource baseId) = .ok url ∧
    Exchange.Round ⟨url, "Bearer " ++ token⟩ later reply ∧
    reply.Answers (tablesUrl baseId) "tables" Table.listOfJson (.ok tables) ∧
    data = baseWithTables base tables

section
variable {token baseId : String}

theorem asksInTurn_of_round {round : List Exchange.Event} {reply : Reply}
    (h : Exchange.Round (basesRequest token) round reply) :
    AsksInTurn token baseId (round.filterMap Exchange.Event.request?) := by
  obtain ⟨n, hn, hrequests⟩ := h.requests
  exact ⟨n, [], hn, by rw [hrequests, List.append_nil], Or.inl rfl⟩

theorem asksInTurn_of_rounds {round later : List Exchange.Event} {base : Json} {url : String}
    {reply : Reply} (hbase : BaseFound token baseId round base)
    (hurl : canonicalUrl (tablesResource baseId) = .ok url)
    (hlater : Exchange.Round ⟨url, "Bearer " ++ token⟩ later reply) :
    AsksInTurn token baseId ((round ++ later).filterMap Exchange.Event.request?) := by
  obtain ⟨first, bases, hround, -, -⟩ := hbase
  obtain ⟨n, hn, hbases⟩ := hround.requests
  obtain ⟨m, hm, htables⟩ := hlater.requests
  refine ⟨n, List.replicate m ⟨url, "Bearer " ++ token⟩, hn, ?_, Or.inr ?_⟩
  · rw [List.filterMap_append, hbases, htables]
  · exact ⟨url, m, hurl, tablesUrl_ne hurl, hm, rfl⟩

theorem BaseFound.unique {round round' later later' : List Exchange.Event} {base base' : Json}
    (h : BaseFound token baseId round base) (h' : BaseFound token baseId round' base')
    (heq : round ++ later = round' ++ later') : base = base' ∧ later = later' := by
  obtain ⟨reply, bases, hround, hbases, hbase⟩ := h
  obtain ⟨reply', bases', hround', hbases', hbase'⟩ := h'
  obtain ⟨rfl, rfl⟩ := hround.unique hround' heq
  cases hbases.unique hbases'
  rw [hbase] at hbase'
  cases hbase'
  exact ⟨rfl, rfl⟩

variable {events : List Exchange.Event} {result : Except FetchError Json}

theorem Fetched.asksInTurn (h : Fetched token baseId events result) :
    AsksInTurn token baseId (events.filterMap Exchange.Event.request?) := by
  cases h with
  | basesFailed hround hbases => exact asksInTurn_of_round hround
  | baseMissing hround hbases hmissing => exact asksInTurn_of_round hround
  | tablesUnsent hbase hurl =>
    obtain ⟨reply, bases, hround, -, -⟩ := hbase
    exact asksInTurn_of_round hround
  | tablesFailed hbase hurl hlater htables => exact asksInTurn_of_rounds hbase hurl hlater
  | fetched hbase hurl hlater htables => exact asksInTurn_of_rounds hbase hurl hlater

theorem Fetched.not_succeeds {round : List Exchange.Event} {reply : Reply} {data : Json}
    (hround : Exchange.Round (basesRequest token) round reply)
    (hnone : ∀ bases, reply.Answers basesUrl "bases" Base.listOfJson (.ok bases) →
      bases.find? (hasId baseId) = none) : ¬ Succeeds token baseId round data := by
  rintro ⟨round', later, base, url, reply', tables, hevents, hfound, -⟩
  obtain ⟨first, bases, hfirst, hbases, hbase⟩ := hfound
  have heq : round ++ [] = round' ++ later := by rwa [List.append_nil]
  obtain ⟨rfl, -⟩ := hround.unique hfirst heq
  rw [hnone bases hbases] at hbase
  cases hbase

theorem Fetched.eq_ok_iff (h : Fetched token baseId events result) (data : Json) :
    result = .ok data ↔ Succeeds token baseId events data := by
  cases h with
  | basesFailed hround hbases =>
    refine iff_of_false nofun (Fetched.not_succeeds hround fun bases hok => ?_)
    cases hbases.unique hok
  | baseMissing hround hbases hmissing =>
    refine iff_of_false nofun (Fetched.not_succeeds hround fun bases hok => ?_)
    cases hbases.unique hok
    exact hmissing
  | tablesUnsent hbase hurl =>
    refine iff_of_false nofun ?_
    rintro ⟨round, later, base, url, reply, tables, -, -, hurl', -⟩
    rw [hurl] at hurl'
    cases hurl'
  | tablesFailed hbase hurl hlater htables =>
    refine iff_of_false nofun ?_
    rintro ⟨round, later, base, url, reply, tables, hevents, hbase', hurl', hlater', htables', -⟩
    -- Events are two rounds in one way only, so the last reply would have to answer twice.
    obtain ⟨-, rfl⟩ := hbase.unique hbase' hevents
    cases hurl.symm.trans hurl'
    obtain rfl := hlater.reply_unique hlater'
    cases htables.unique htables'
  | fetched hbase hurl hlater htables =>
    constructor
    · intro hdata
      cases hdata
      exact ⟨_, _, _, _, _, _, rfl, hbase, hurl, hlater, htables, rfl⟩
    · rintro ⟨round, later, base, url, reply, tables, hevents, hbase', hurl', hrest⟩
      obtain ⟨hlater', htables', rfl⟩ := hrest
      obtain ⟨rfl, rfl⟩ := hbase.unique hbase' hevents
      cases hurl.symm.trans hurl'
      obtain rfl := hlater.reply_unique hlater'
      cases htables.unique htables'
      rfl

end

/-- What a fetch does and comes to. Nothing is asked for without words to authorize it that can be
sent; otherwise the two lists are asked for in turn, and all replies are those of the script. -/
theorem fetch_protocol {script : List Reply} {environment : Environment} {given : Option String}
    {baseId : String} {result : Except FetchError Json} {e : Exchange}
    (h : (Exchange.start script).fetch environment given baseId = (result, e)) :
    e.Follows script ∧
    (credential? environment given = none →
      result = .error (.failed .missingCredential) ∧ e.requests = [] ∧ e.pauses = []) ∧
    ∀ token, credential? environment given = some token →
      (¬ IsSendable token →
        (∃ run position, result = .error (.unsent (.notAscii run position))) ∧
          e.requests = [] ∧ e.pauses = []) ∧
      (IsSendable token →
        Fetched token baseId e.events result ∧ AsksInTurn token baseId e.requests ∧
          ∀ data, result = .ok data ↔ Succeeds token baseId e.events data) := by
  obtain ⟨rfl, rfl⟩ : result = ((Exchange.start script).fetch environment given baseId).1 ∧
      e = ((Exchange.start script).fetch environment given baseId).2 := by
    rw [h]
    exact ⟨rfl, rfl⟩
  refine ⟨(Exchange.follows_start script).fetch environment given baseId, ?_, ?_⟩
  · intro hnone
    rw [Exchange.fetch, hnone]
    exact ⟨rfl, rfl, rfl⟩
  · intro token htoken
    rw [Exchange.fetch, htoken]
    dsimp only
    constructor
    · intro hsendable
      obtain ⟨run, position, hmake⟩ := make_of_not_sendable hsendable basesResource
      rw [Exchange.fetchWith, Exchange.list_of_unsent hmake]
      exact ⟨⟨run, position, rfl⟩, rfl, rfl⟩
    · intro hsendable
      have hfetched := Exchange.fetched_fetchWith hsendable baseId script
      exact ⟨hfetched, hfetched.asksInTurn, hfetched.eq_ok_iff⟩

def lampBase : Json :=
  .obj [("id", .str "appLamp"), ("name", .str "Lamps"), ("permissionLevel", .str "read")]

/-- A service that is slow at first, and then answers with one base that has no tables. -/
def lampScript : List Reply :=
  [.error ⟨"ReadTimeout", ""⟩, .holding "bases" [lampBase], .holding "tables" []]

def lampEvents : List Exchange.Event :=
  [.asked (basesRequest "pat") (.error ⟨"ReadTimeout", ""⟩), .paused 5,
    .asked (basesRequest "pat") (.holding "bases" [lampBase]),
    .asked ⟨"https://api.airtable.com/v0/meta/bases/appLamp/tables", "Bearer pat"⟩
      (.holding "tables" [])]

theorem writable_lampBase : lampBase.Writable := .obj (by decide) (by simp [Json.Writable.str])

theorem fetch_lamps : (Exchange.start lampScript).fetch [] (some "pat") "appLamp" =
    (.ok (baseWithTables lampBase []), ⟨[], lampEvents⟩) :=
  Exchange.fetch_holding rfl (by decide) rfl (List.forall_mem_singleton.mpr writable_lampBase)
    nofun rfl rfl rfl rfl

theorem fetch_protocol_lamps :
    (Exchange.start lampScript).fetch [] (some "pat") "appLamp" =
      (.ok (baseWithTables lampBase []), ⟨[], lampEvents⟩) ∧
    credential? [] (some "pat") = some "pat" ∧ IsSendable "pat" ∧
    Exchange.Follows lampScript ⟨[], lampEvents⟩ ∧
    Fetched "pat" "appLamp" lampEvents (.ok (baseWithTables lampBase [])) ∧
    AsksInTurn "pat" "appLamp" (Exchange.requests ⟨[], lampEvents⟩) ∧
    Succeeds "pat" "appLamp" lampEvents (baseWithTables lampBase []) := by
  have hcredential : credential? [] (some "pat") = some "pat" := rfl
  have hsendable : IsSendable "pat" := by decide
  obtain ⟨hfollows, -, hall⟩ := fetch_protocol fetch_lamps
  obtain ⟨hfetched, hasks, hok⟩ := (hall "pat" hcredential).2 hsendable
  exact ⟨fetch_lamps, hcredential, hsendable, hfollows, hfetched, hasks, (hok _).mp rfl⟩

/-- A token beyond ASCII is found, but cannot be sent along, so that nothing is asked for. -/
theorem not_asksInTurn_unsendable :
    credential? [] (some "é") = some "é" ∧
      ¬ AsksInTurn "é" "appLamp"
        ((Exchange.start lampScript).fetch [] (some "é") "appLamp").2.requests := by
  have hnone : ((Exchange.start lampScript).fetch [] (some "é") "appLamp").2.requests = [] := rfl
  refine ⟨rfl, ?_⟩
  rw [hnone]
  rintro ⟨n, later, hn, hrequests, -⟩
  rcases hn with rfl | rfl <;> cases hrequests

end RecordTypes

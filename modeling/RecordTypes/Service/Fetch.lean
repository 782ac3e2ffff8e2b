import RecordTypes.Json.OfBytes
import RecordTypes.Reading.Base
import RecordTypes.Service.Error
import RecordTypes.Service.Request

/-! Fetching the metadata of a base. The list of all bases is asked for first, then the tables of
the base; each answer is checked before anything else is done. A request that nobody answers in
time is made once more after a pause. What is told of a request names its address as it was meant,
not the form in which it is asked for. -/

namespace RecordTypes

abbrev Environment := List (String × String)

/-- The value of a variable. An empty value counts as none. -/
def Environment.value? (environment : Environment) (name : String) : Option String :=
  match environment.lookup name with
  | some value => if value.isEmpty then none else some value
  | none => none

def credentialVariables : List String := ["AIRTABLE_TYPEGEN_ACCESS_TOKEN", "AIRTABLE_API_KEY"]

/-- The credential given, if it is not empty, or else the first one in the environment. -/
def credential? (environment : Environment) (given : Option String) : Option String :=
  match given with
  | some token =>
    if token.isEmpty then credentialVariables.findSome? environment.value? else some token
  | none => credentialVariables.findSome? environment.value?

structure Response where
  status : Int
  body : String

def Response.isSuccess (response : Response) : Bool :=
  200 ≤ response.status && response.status < 300

/-- Why a request got no response. The kinds that are faults of the request itself, not of the
connection, are not accounted for. -/
structure TransportFailure where
  kind : String
  detail : String

def TransportFailure.isTimeout (failure : TransportFailure) : Bool := failure.kind == "ReadTimeout"

def requestFaults : List String :=
  ["InvalidURL", "CookieConflict", "StreamError", "StreamConsumed", "StreamClosed",
   "ResponseNotRead", "RequestNotRead"]

def TransportFailure.isRequestFault (failure : TransportFailure) : Bool :=
  requestFaults.contains failure.kind

def TransportFailure.reason (failure : TransportFailure) : String :=
  if failure.detail.isEmpty then failure.kind else failure.detail

abbrev Reply := Except TransportFailure Response

inductive Exchange.Event where
  | asked (request : Request) (reply : Reply)
  | paused (seconds : Nat)

/-- The replies still to come, and what has happened so far. -/
structure Exchange where
  replies : List Reply
  events : List Exchange.Event

def Exchange.start (replies : List Reply) : Exchange := ⟨replies, []⟩

def Exchange.Event.request? : Exchange.Event → Option Request
  | .asked request _ => some request
  | .paused _ => none

def Exchange.Event.pause? : Exchange.Event → Option Nat
  | .asked .. => none
  | .paused seconds => some seconds

def Exchange.requests (e : Exchange) : List Request := e.events.filterMap Event.request?

def Exchange.pauses (e : Exchange) : List Nat := e.events.filterMap Event.pause?

/-- Once the replies are used up nobody can be reached. -/
def noReply : Reply := .error ⟨"ConnectError", ""⟩

def Exchange.ask (e : Exchange) (request : Request) : Reply × Exchange :=
  let reply := e.replies.headD noReply
  (reply, ⟨e.replies.tail, e.events ++ [.asked request reply]⟩)

def retryPause : Nat := 5

def Exchange.pause (e : Exchange) : Exchange :=
  { e with events := e.events ++ [.paused retryPause] }

def Exchange.askTwice (e : Exchange) (request : Request) : Reply × Exchange :=
  match e.ask request with
  | (.error failure, e) =>
    if failure.isTimeout then e.pause.ask request else (.error failure, e)
  | (.ok response, e) => (.ok response, e)

/-- A request that cannot be made, a fault of one that was made, or an error that is told to the
user. -/
inductive FetchError where
  | unsent (fault : RequestFault)
  | fault (failure : TransportFailure)
  | failed (error : MetadataError)

def Reply.json (url : String) : Reply → Except FetchError Json
  | .error failure =>
    .error (if failure.isRequestFault then .fault failure
      else .failed (.unreachable url failure.reason))
  | .ok response =>
    if response.isSuccess then
      match Json.ofBytes? response.body.toUTF8.toList with
      | some raw => .ok raw
      | none => .error (.failed (.malformed url))
    else .error (.failed (.refused response.status url response.body))

def basesResource : String := "/v0/meta/bases"

def tablesResource (baseId : String) : String := basesResource ++ "/" ++ baseId ++ "/tables"

def itemsUnder (key : String) : Json → List Json
  | .obj members =>
    match Members.find? members key with
    | some (.arr items) => items
    | _ => []
  | _ => []

def checkedItems {α : Type} (key : String) (read : Json → Except Mismatch α) (raw : Json) :
    Except FetchError (List Json) :=
  match read raw with
  | .ok _ => .ok (itemsUnder key raw)
  | .error m => .error (.failed (.mismatch m))

def hasId (baseId : String) : Json → Bool
  | .obj members =>
    match Members.find? members "id" with
    | some (.str id) => id == baseId
    | _ => false
  | _ => false

def Exchange.list {α : Type} (e : Exchange) (resource token key : String)
    (read : Json → Except Mismatch α) : Except FetchError (List Json) × Exchange :=
  match Request.make resource token with
  | .error fault => (.error (.unsent fault), e)
  | .ok request =>
    let (reply, e) := e.askTwice request
    match reply.json (serviceHost ++ resource) with
    | .ok raw => (checkedItems key read raw, e)
    | .error error => (.error error, e)

def baseWithTables (base : Json) (tables : List Json) : Json :=
  .obj [("base", base), ("tables", .arr tables)]

def Exchange.fetchWith (e : Exchange) (token baseId : String) :
    Except FetchError Json × Exchange :=
  match e.list basesResource token "bases" Base.listOfJson with
  | (.error error, e) => (.error error, e)
  | (.ok bases, e) =>
    match bases.find? (hasId baseId) with
    | none => (.error (.failed (.baseNotFound baseId)), e)
    | some base =>
      match e.list (tablesResource baseId) token "tables" Table.listOfJson with
      | (.error error, e) => (.error error, e)
      | (.ok tables, e) => (.ok (baseWithTables base tables), e)

/-- Nothing is asked for without a credential. -/
def Exchange.fetch (e : Exchange) (environment : Environment) (given : Option String)
    (baseId : String) : Except FetchError Json × Exchange :=
  match credential? environment given with
  | none => (.error (.failed .missingCredential), e)
  | some token => e.fetchWith token baseId

end RecordTypes

import RecordTypes.Proofs.Json.Members
import RecordTypes.Proofs.Reading.Issues
import RecordTypes.Service.Fetch

/-! Requests for one list: each address is asked for once, or twice if the first request timed out,
and the reply that counts either holds the list or shows what is wrong. -/

namespace RecordTypes

def Reply.timesOut : Reply → Bool
  | .error failure => failure.isTimeout
  | .ok _ => false

namespace Exchange

/-! ## Rounds of requests -/

/-- The events of asking at one address, and the reply that counts. -/
inductive Round (request : Request) : List Event → Reply → Prop where
  | once {reply : Reply} (hreply : reply.timesOut = false) :
      Round request [.asked request reply] reply
  | twice {first last : Reply} (hfirst : first.timesOut = true) :
      Round request [.asked request first, .paused 5, .asked request last] last

theorem askTwice_eq (e : Exchange) (request : Request) :
    e.askTwice request =
      if (e.ask request).1.timesOut then (e.ask request).2.pause.ask request
      else e.ask request := by
  unfold askTwice
  obtain ⟨reply, later⟩ := e.ask request
  cases reply with
  | ok response => rfl
  | error failure => rfl

theorem round_askTwice (e : Exchange) (request : Request) :
    ∃ events, Round request events (e.askTwice request).1 ∧
      (e.askTwice request).2.events = e.events ++ events := by
  rw [askTwice_eq]
  cases htime : (e.ask request).1.timesOut with
  | false =>
    rw [if_neg Bool.false_ne_true]
    exact ⟨_, .once htime, rfl⟩
  | true =>
    rw [if_pos rfl]
    refine ⟨_, .twice htime, ?_⟩
    simp [ask, pause, retryPause]

theorem Round.unique {request : Request} {round round' later later' : List Event}
    {reply reply' : Reply} (h : Round request round reply) (h' : Round request round' reply')
    (heq : round ++ later = round' ++ later') : reply = reply' ∧ later = later' := by
  cases h with
  | once hreply =>
    cases h' with
    | once => simpa using heq
    | twice hfirst =>
      simp only [List.cons_append, List.cons.injEq, Event.asked.injEq] at heq
      rw [heq.1.2, hfirst] at hreply
      cases hreply
  | twice hfirst =>
    cases h' with
    | once hreply =>
      simp only [List.cons_append, List.cons.injEq, Event.asked.injEq] at heq
      rw [heq.1.2, hreply] at hfirst
      cases hfirst
    | twice =>
      simp only [List.cons_append, List.cons.injEq, Event.asked.injEq] at heq
      exact ⟨heq.2.2.1.2, heq.2.2.2⟩

theorem Round.reply_unique {request : Request} {round : List Event} {reply reply' : Reply}
    (h : Round request round reply) (h' : Round request round reply') : reply = reply' :=
  (h.unique h' (Eq.refl (round ++ []))).1

theorem Round.requests {request : Request} {round : List Event} {reply : Reply}
    (h : Round request round reply) :
    ∃ n, (n = 1 ∨ n = 2) ∧ round.filterMap Event.request? = List.replicate n request := by
  cases h with
  | once => exact ⟨1, Or.inl rfl, rfl⟩
  | twice => exact ⟨2, Or.inr rfl, rfl⟩

/-! ## The script of replies -/

def Event.reply? : Event → Option Reply
  | .asked _ reply => some reply
  | .paused _ => none

/-- The replies met so far are the first of a script, and those still to come the later ones. -/
def Follows (script : List Reply) (e : Exchange) : Prop :=
  ∃ n, e.events.filterMap Event.reply? = (List.range n).map (fun i => script.getD i noReply) ∧
    e.replies = script.drop n

theorem follows_start (script : List Reply) : (start script).Follows script := ⟨0, rfl, rfl⟩

section
variable {script : List Reply} {e : Exchange}

theorem Follows.ask (h : e.Follows script) (request : Request) :
    (e.ask request).2.Follows script := by
  obtain ⟨n, hmet, hreplies⟩ := h
  refine ⟨n + 1, ?_, ?_⟩
  · have hnext : e.replies.headD noReply = script.getD n noReply := by
      rw [hreplies, List.headD_eq_head?_getD, List.head?_drop, List.getD_eq_getElem?_getD]
    rw [List.range_succ, List.map_append, ← hmet, List.map_singleton, ← hnext]
    simp [Exchange.ask, Event.reply?]
  · simp [Exchange.ask, hreplies]

theorem Follows.pause (h : e.Follows script) : e.pause.Follows script := by
  obtain ⟨n, hmet, hreplies⟩ := h
  refine ⟨n, ?_, hreplies⟩
  rw [← hmet]
  simp [Exchange.pause, Event.reply?]

theorem Follows.askTwice (h : e.Follows script) (request : Request) :
    (e.askTwice request).2.Follows script := by
  rw [askTwice_eq]
  split
  · exact (h.ask request).pause.ask request
  · exact h.ask request

end

end Exchange

/-! ## Answers -/

section
variable {α : Type} {key : String} {read : Json → Except Mismatch α}

def Response.json? (response : Response) : Option Json :=
  Json.ofBytes? response.body.toUTF8.toList

/-- What a reply comes to when the list under some key is asked for: the first thing that is wrong
with it, or the list as it came. -/
inductive Reply.Answers (url key : String) (read : Json → Except Mismatch α) :
    Reply → Except FetchError (List Json) → Prop where
  | faulted {failure : TransportFailure} (hfault : failure.isRequestFault = true) :
      Answers url key read (.error failure) (.error (.fault failure))
  | unreachable {failure : TransportFailure} (hfault : failure.isRequestFault = false) :
      Answers url key read (.error failure) (.error (.failed (.unreachable url failure.reason)))
  | refused {response : Response} (hstatus : response.isSuccess = false) :
      Answers url key read (.ok response)
        (.error (.failed (.refused response.status url response.body)))
  | malformed {response : Response} (hstatus : response.isSuccess = true)
      (hjson : response.json? = none) :
      Answers url key read (.ok response) (.error (.failed (.malformed url)))
  | mismatched {response : Response} {raw : Json} {m : Mismatch}
      (hstatus : response.isSuccess = true) (hjson : response.json? = some raw)
      (hread : read raw = .error m) :
      Answers url key read (.ok response) (.error (.failed (.mismatch m)))
  | listed {response : Response} {members : Members} {items : List Json} {a : α}
      (hstatus : response.isSuccess = true) (hjson : response.json? = some (.obj members))
      (hread : read (.obj members) = .ok a) (hitems : members.find? key = some (.arr items)) :
      Answers url key read (.ok response) (.ok items)

theorem Reply.Answers.unique {url : String} {reply : Reply}
    {answer answer' : Except FetchError (List Json)} (h : reply.Answers url key read answer)
    (h' : reply.Answers url key read answer') : answer = answer' := by
  cases h with
  | faulted hfault => cases h' <;> simp_all
  | unreachable hfault => cases h' <;> simp_all
  | refused hstatus => cases h' <;> simp_all
  | malformed hstatus hjson => cases h' <;> simp_all
  | mismatched hstatus hjson hread => cases h' <;> simp_all
  | listed hstatus hjson hread hitems => cases h' <;> simp_all

/-- Whatever can be read is an object with a list under the key. -/
def ReadsList (key : String) (read : Json → Except Mismatch α) : Prop :=
  ∀ raw a, read raw = .ok a →
    ∃ (members : Members) (items : List Json), raw = .obj members ∧
      members.find? key = some (.arr items)

theorem readsList_of_required {β : Type} {model root : String} {readItem : Json → Reading β}
    (hkey : underscored key = key) :
    ReadsList key fun raw =>
      (readModel model (required key (readList readItem)) raw).toExcept root raw := by
  intro raw a h
  obtain ⟨members, items, hraw, hitems, -⟩ := exists_items_of_toExcept hkey h
  exact ⟨members, items, hraw, hitems⟩

theorem readsList_bases : ReadsList "bases" Base.listOfJson :=
  readsList_of_required (by decide)

theorem readsList_tables : ReadsList "tables" Table.listOfJson :=
  readsList_of_required (by decide)

theorem Reply.answers (hlist : ReadsList key read) (url : String) (reply : Reply) :
    reply.Answers url key read
      (match reply.json url with
        | .ok raw => checkedItems key read raw
        | .error error => .error error) := by
  cases reply with
  | error failure =>
    cases hfault : failure.isRequestFault with
    | true =>
      simp only [Reply.json, hfault, if_true]
      exact .faulted hfault
    | false =>
      simp only [Reply.json, hfault, Bool.false_eq_true, if_false]
      exact .unreachable hfault
  | ok response =>
    cases hstatus : response.isSuccess with
    | false =>
      simp only [Reply.json, hstatus, Bool.false_eq_true, if_false]
      exact .refused hstatus
    | true =>
      simp only [Reply.json, hstatus, if_true]
      cases hjson : Json.ofBytes? response.body.toUTF8.toList with
      | none => exact .malformed hstatus hjson
      | some raw =>
        cases hread : read raw with
        | error m =>
          simp only [checkedItems, hread]
          exact .mismatched hstatus hjson hread
        | ok a =>
          obtain ⟨members, items, rfl, hitems⟩ := hlist raw a hread
          simp only [checkedItems, hread, itemsUnder, hitems]
          exact .listed hstatus hjson hread hitems

end

namespace Exchange

/-! ## One list -/

theorem list_of_unsent {α : Type} {resource token : String} {fault : RequestFault}
    (h : Request.make resource token = .error fault) (e : Exchange) (key : String)
    (read : Json → Except Mismatch α) :
    e.list resource token key read = (.error (.unsent fault), e) := by
  rw [list, h]

theorem list_eq {α : Type} {resource token : String} {request : Request}
    (h : Request.make resource token = .ok request) (e : Exchange) (key : String)
    (read : Json → Except Mismatch α) :
    e.list resource token key read =
      (match (e.askTwice request).1.json (serviceHost ++ resource) with
        | .ok raw => checkedItems key read raw
        | .error error => .error error, (e.askTwice request).2) := by
  rw [list, h]
  dsimp only
  cases (e.askTwice request).1.json (serviceHost ++ resource) <;> rfl

theorem list_of_sent {α : Type} {resource token key : String} {request : Request}
    {read : Json → Except Mismatch α} (h : Request.make resource token = .ok request)
    (hlist : ReadsList key read) (e : Exchange) :
    ∃ round reply, Round request round reply ∧
      (e.list resource token key read).2.events = e.events ++ round ∧
      reply.Answers (serviceHost ++ resource) key read (e.list resource token key read).1 := by
  obtain ⟨round, hround, hevents⟩ := round_askTwice e request
  rw [list_eq h]
  exact ⟨round, (e.askTwice request).1, hround, hevents,
    Reply.answers hlist (serviceHost ++ resource) (e.askTwice request).1⟩

theorem Follows.list {α : Type} {script : List Reply} {e : Exchange} (h : e.Follows script)
    (resource token key : String) (read : Json → Except Mismatch α) :
    (e.list resource token key read).2.Follows script := by
  cases hmake : Request.make resource token with
  | error fault => rwa [list_of_unsent hmake]
  | ok request =>
    rw [list_eq hmake]
    exact h.askTwice request

end Exchange

end RecordTypes

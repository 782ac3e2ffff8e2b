import RecordTypes.Proofs.Service.Exchange

/-! Responses taken apart with nothing to fall back on: a key that is absent, or a value that is no
object or list, is a fault. A response is taken apart only after it was accepted, and then no fault
is met, so a fetch goes as it does where what is absent counts as nothing. -/

namespace RecordTypes

inductive IndexFault where
  | absentKey (key : String)
  | notObject
  | notList

def Json.member (key : String) : Json → Except IndexFault Json
  | .obj members =>
    match Members.find? members key with
    | some value => .ok value
    | none => .error (.absentKey key)
  | _ => .error .notObject

def Json.items : Json → Except IndexFault (List Json)
  | .arr items => .ok items
  | _ => .error .notList

/-- The bases are asked for their ids one after the other, up to the first that has the id. -/
def firstWithId (baseId : String) : List Json → Except IndexFault (Option Json)
  | [] => .ok none
  | base :: bases =>
    match base.member "id" with
    | .error fault => .error fault
    | .ok (.str id) => if id == baseId then .ok (some base) else firstWithId baseId bases
    | .ok _ => firstWithId baseId bases

namespace Exchange

def takeList {α : Type} (e : Exchange) (resource token key : String)
    (read : Json → Except Mismatch α) :
    Except IndexFault (Except FetchError (List Json) × Exchange) :=
  match Request.make resource token with
  | .error fault => .ok (.error (.unsent fault), e)
  | .ok request =>
    let (reply, e) := e.askTwice request
    match reply.json (serviceHost ++ resource) with
    | .error error => .ok (.error error, e)
    | .ok raw =>
      match read raw with
      | .error m => .ok (.error (.failed (.mismatch m)), e)
      | .ok _ => do
        let items ← (← raw.member key).items
        .ok (.ok items, e)

def takeWith (e : Exchange) (token baseId : String) :
    Except IndexFault (Except FetchError Json × Exchange) := do
  match ← e.takeList basesResource token "bases" Base.listOfJson with
  | (.error error, e) => .ok (.error error, e)
  | (.ok bases, e) =>
    match ← firstWithId baseId bases with
    | none => .ok (.error (.failed (.baseNotFound baseId)), e)
    | some base =>
      match ← e.takeList (tablesResource baseId) token "tables" Table.listOfJson with
      | (.error error, e) => .ok (.error error, e)
      | (.ok tables, e) => .ok (.ok (baseWithTables base tables), e)

def take (e : Exchange) (environment : Environment) (given : Option String) (baseId : String) :
    Except IndexFault (Except FetchError Json × Exchange) :=
  match credential? environment given with
  | none => .ok (.error (.failed .missingCredential), e)
  | some token => e.takeWith token baseId

end Exchange

/-! ## Bases and their ids -/

theorem readBase_eq_value {raw : Json} {base : Base} (h : readBase raw = .value base) :
    ∃ members : Members, raw = .obj members ∧ members.find? "id" = some (.str base.id) := by
  cases raw with
  | obj members =>
    obtain ⟨ofPermission, permission, hofPermission, -, rfl⟩ := Reading.seq_eq_value h
    obtain ⟨ofName, name, hofName, -, rfl⟩ := Reading.seq_eq_value hofPermission
    obtain ⟨id, hid, rfl⟩ := Reading.map_eq_value hofName
    obtain ⟨found, hfound, hread⟩ := required_eq_value hid
    refine ⟨members, rfl, ?_⟩
    rw [Members.find?_of_spelled? (by decide) hfound]
    cases found with
    | str s =>
      cases hread
      rfl
    | _ => cases hread
  | _ => cases h

theorem hasId_of_readBase {raw : Json} {base : Base} (h : readBase raw = .value base)
    (baseId : String) : hasId baseId raw = (base.id == baseId) := by
  obtain ⟨members, rfl, hid⟩ := readBase_eq_value h
  simp only [hasId, hid]

theorem firstWithId_eq {rawBases : List Json} {bases : List Base}
    (h : List.Forall₂ (fun raw base => readBase raw = .value base) rawBases bases)
    (baseId : String) : firstWithId baseId rawBases = .ok (rawBases.find? (hasId baseId)) := by
  induction h with
  | nil => rfl
  | @cons raw base rawBases bases hbase hrest ih =>
    have hhas := hasId_of_readBase hbase baseId
    obtain ⟨members, rfl, hid⟩ := readBase_eq_value hbase
    simp only [firstWithId, Json.member, hid]
    by_cases hsame : base.id = baseId
    · have hfirst : hasId baseId (.obj members) = true := by simp [hhas, hsame]
      rw [List.find?_cons_of_pos hfirst, if_pos (beq_iff_eq.mpr hsame)]
    · have hother : hasId baseId (.obj members) = false := by simp [hhas, hsame]
      rw [List.find?_cons_of_neg (by simp [hother]), if_neg (by simp [hsame])]
      exact ih

theorem forall₂_of_checkedItems {raw : Json} {rawBases : List Json}
    (h : checkedItems "bases" Base.listOfJson raw = .ok rawBases) :
    ∃ bases, List.Forall₂ (fun raw base => readBase raw = .value base) rawBases bases := by
  unfold checkedItems at h
  cases hread : Base.listOfJson raw with
  | error m =>
    rw [hread] at h
    cases h
  | ok bases =>
    rw [hread] at h
    cases h
    obtain ⟨members, items, rfl, hitems, hall⟩ := exists_items_of_toExcept (by decide) hread
    refine ⟨bases, ?_⟩
    simp only [itemsUnder, hitems]
    exact hall

/-! ## The same exchange -/

namespace Exchange

theorem takeList_eq {α : Type} {key : String} {read : Json → Except Mismatch α}
    (hlist : ReadsList key read) (e : Exchange) (resource token : String) :
    e.takeList resource token key read = .ok (e.list resource token key read) := by
  unfold takeList list
  cases Request.make resource token with
  | error fault => rfl
  | ok request =>
    dsimp only
    cases (e.askTwice request).1.json (serviceHost ++ resource) with
    | error error => rfl
    | ok raw =>
      cases hread : read raw with
      | error m => simp only [checkedItems, hread]
      | ok a =>
        obtain ⟨members, items, rfl, hitems⟩ := hlist raw a hread
        simp only [checkedItems, hread, itemsUnder, hitems, Json.member]
        rfl

theorem forall₂_of_list {resource token : String} {e later : Exchange} {rawBases : List Json}
    (h : e.list resource token "bases" Base.listOfJson = (.ok rawBases, later)) :
    ∃ bases, List.Forall₂ (fun raw base => readBase raw = .value base) rawBases bases := by
  cases hmake : Request.make resource token with
  | error fault =>
    rw [list_of_unsent hmake] at h
    cases h
  | ok request =>
    rw [list_eq hmake] at h
    have hanswer := (Prod.mk.inj h).1
    cases hjson : (e.askTwice request).1.json (serviceHost ++ resource) with
    | error error =>
      rw [hjson] at hanswer
      cases hanswer
    | ok raw =>
      rw [hjson] at hanswer
      exact forall₂_of_checkedItems hanswer

theorem takeWith_eq (e : Exchange) (token baseId : String) :
    e.takeWith token baseId = .ok (e.fetchWith token baseId) := by
  rw [takeWith, fetchWith, takeList_eq readsList_bases]
  cases hlist : e.list basesResource token "bases" Base.listOfJson with
  | mk answer later =>
    cases answer with
    | error error => rfl
    | ok rawBases =>
      obtain ⟨bases, hbases⟩ := forall₂_of_list hlist
      have hfirst := firstWithId_eq hbases baseId
      cases hfind : rawBases.find? (hasId baseId) with
      | none =>
        rw [hfind] at hfirst
        simp only [bind, Except.bind, hfirst, hfind]
      | some base =>
        rw [hfind] at hfirst
        simp only [bind, Except.bind, hfirst, hfind, takeList_eq readsList_tables]
        rcases later.list (tablesResource baseId) token "tables" Table.listOfJson
          with ⟨_ | _, _⟩ <;> rfl

theorem take_eq (e : Exchange) (environment : Environment) (given : Option String)
    (baseId : String) :
    e.take environment given baseId = .ok (e.fetch environment given baseId) := by
  unfold take fetch
  cases credential? environment given with
  | none => rfl
  | some token => exact takeWith_eq e token baseId

end Exchange

end RecordTypes

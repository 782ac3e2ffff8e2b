import Mathlib.Data.List.Nodup
import Mathlib.Data.List.Perm.Basic
import RecordTypes.Proofs.Generation.Outcome

/-! Tables selected by name or id. Names and ids share one namespace, so that a request can mean one
table by its name and another by its id. It counts as long as it means one table in all. Selection
goes by ids, which is why these have to tell the tables apart. -/

namespace RecordTypes

/-! ## What requests mean -/

/-- The request is the id of the table or its name, and may be both. -/
def Table.IsMeantBy (table : Table) (request : String) : Prop :=
  request = table.id ∨ request = table.name

theorem Table.isCalled_iff (table : Table) (request : String) :
    table.isCalled request = true ↔ table.IsMeantBy request := by
  simp [Table.isCalled, Table.IsMeantBy]

/-- One of the tables is meant, and no other. -/
def MeansOne (tables : List Table) (request : String) : Prop :=
  ∃! table, table ∈ tables ∧ table.IsMeantBy request

theorem meant?_eq_some (tables : List Table) (request : String) (table : Table) :
    meant? tables request = some table ↔
      tables.filter (fun table => table.isCalled request) = [table] := by
  rw [meant?]
  cases tables.filter fun table => table.isCalled request with
  | nil => simp
  | cons first rest => cases rest <;> simp

/-- Of some tables those with a property, each once and in their order. -/
structure ArePicked (tables : List Table) (P : Table → Prop) (found : List Table) : Prop where
  order : found.Sublist tables
  nodup : found.Nodup
  mem_iff : ∀ table, table ∈ found ↔ table ∈ tables ∧ P table

section
variable {tables : List Table} (hids : (tables.map fun table => table.id).Nodup)
include hids

theorem meant?_eq_some_iff (request : String) (table : Table) :
    meant? tables request = some table ↔
      MeansOne tables request ∧ table ∈ tables ∧ table.IsMeantBy request := by
  have hmem (other : Table) : other ∈ tables.filter (fun table => table.isCalled request) ↔
      other ∈ tables ∧ other.IsMeantBy request := by
    rw [List.mem_filter, Table.isCalled_iff]
  have hnodup := (List.Nodup.of_map _ hids).filter fun table => table.isCalled request
  rw [meant?_eq_some, ← List.perm_singleton,
    List.perm_ext_iff_of_nodup hnodup (List.nodup_singleton table)]
  simp only [hmem, List.mem_singleton]
  constructor
  · intro h
    exact ⟨⟨table, (h table).mpr rfl, fun other hother => (h other).mp hother⟩, (h table).mpr rfl⟩
  · rintro ⟨⟨one, -, hone⟩, htable⟩ other
    constructor
    · intro hother
      rw [hone other hother, hone table htable]
    · rintro rfl
      exact htable

theorem isNone_meant?_iff (request : String) :
    (meant? tables request).isNone = true ↔ ¬ MeansOne tables request := by
  rw [Option.isNone_iff_eq_none, Option.eq_none_iff_forall_ne_some]
  simp only [ne_eq, meant?_eq_some_iff hids]
  constructor
  · intro h hone
    obtain ⟨table, htable⟩ := ExistsUnique.exists hone
    exact h table ⟨hone, htable⟩
  · intro h table hmeant
    exact h hmeant.1

theorem arePicked_filter (requests : List String) :
    ArePicked tables
      (fun table => ∃ request ∈ requests, MeansOne tables request ∧ table.IsMeantBy request)
      (tables.filter fun table =>
        ((requests.filterMap (meant? tables)).map fun table => table.id).contains table.id) where
  order := List.filter_sublist
  nodup := (List.Nodup.of_map _ hids).filter _
  mem_iff table := by
    rw [List.mem_filter, List.contains_iff_mem, List.mem_map]
    simp only [List.mem_filterMap, meant?_eq_some_iff hids]
    constructor
    · -- A table that goes by the id of one that was meant is that table.
      rintro ⟨htable, other, ⟨request, hrequest, hone, hother, hmeant⟩, hid⟩
      obtain rfl := List.inj_on_of_nodup_map hids hother htable hid
      exact ⟨htable, request, hrequest, hone, hmeant⟩
    · rintro ⟨htable, request, hrequest, hone, hmeant⟩
      exact ⟨htable, table, ⟨request, hrequest, hone, htable, hmeant⟩, rfl⟩

end

/-! ## Selections -/

theorem selectIf_eq_ok_iff (tables : List Table) (requests : List String) (found : List Table) :
    selectIf tables (some requests) = .ok found ↔
      (∀ request ∈ requests, (meant? tables request).isNone = false) ∧
        found = tables.filter fun table =>
          ((requests.filterMap (meant? tables)).map fun table => table.id).contains table.id := by
  by_cases h : (requests.filter fun request => (meant? tables request).isNone).isEmpty = true
  · have hall := h
    rw [List.isEmpty_iff, List.filter_eq_nil_iff] at hall
    simp only [selectIf, select, h, if_true, Except.ok.injEq]
    constructor
    · rintro rfl
      exact ⟨fun request hrequest => Bool.eq_false_iff.mpr (hall request hrequest), rfl⟩
    · rintro ⟨-, rfl⟩
      rfl
  · have hsome := h
    rw [List.isEmpty_iff, List.filter_eq_nil_iff] at hsome
    simp only [selectIf, select, h, Bool.false_eq_true, if_false, reduceCtorEq, false_iff]
    rintro ⟨hall, -⟩
    exact hsome fun request hrequest => Bool.eq_false_iff.mp (hall request hrequest)

theorem selectIf_congr {tables found : List Table} {requests requests' : List String}
    (hsame : ∀ request, request ∈ requests' ↔ request ∈ requests)
    (h : selectIf tables (some requests) = .ok found) :
    selectIf tables (some requests') = .ok found := by
  obtain ⟨hall, rfl⟩ := (selectIf_eq_ok_iff tables requests found).mp h
  refine (selectIf_eq_ok_iff tables requests' _).mpr ⟨fun request hrequest => ?_, ?_⟩
  · exact hall request ((hsame request).mp hrequest)
  · refine List.filter_congr fun table _ => ?_
    rw [Bool.eq_iff_iff]
    simp only [List.contains_iff_mem, List.mem_map, List.mem_filterMap, hsame]

/-- What is told of requests that are refused: which of them mean no table or several, and the names
of the tables that the others mean. -/
structure IsRefusal (tables : List Table) (requests : List String) (u : Unresolved) : Prop where
  requested : u.requested = requests
  unresolved : ∃ isUnclear : String → Bool,
    (∀ request, isUnclear request = true ↔ ¬ MeansOne tables request) ∧
      u.unresolved = requests.filter isUnclear
  found : ∃ found : List Table, u.found = found.map (fun table => table.name) ∧
    ArePicked tables
      (fun table => ∃ request ∈ requests, MeansOne tables request ∧ table.IsMeantBy request) found

/-- Tables are selected if each request means exactly one of them. Then they are those that some
request means, in the order of the metadata and each once, however the requests are ordered and
repeated. Otherwise the requests are refused. -/
theorem selection_by_requests {tables : List Table}
    (hids : (tables.map fun table => table.id).Nodup) (requests : List String) :
    ((∃ found, selectIf tables (some requests) = .ok found) ↔
      ∀ request ∈ requests, MeansOne tables request) ∧
    (∀ found, selectIf tables (some requests) = .ok found →
      ArePicked tables (fun table => ∃ request ∈ requests, table.IsMeantBy request) found ∧
        ∀ requests' : List String, (∀ request, request ∈ requests' ↔ request ∈ requests) →
          selectIf tables (some requests') = .ok found) ∧
    ∀ u, selectIf tables (some requests) = .error u → IsRefusal tables requests u := by
  have hclear (request : String) :
      (meant? tables request).isNone = false ↔ MeansOne tables request := by
    rw [Bool.eq_false_iff, ne_eq, isNone_meant?_iff hids, not_not]
  have hpicked := arePicked_filter hids requests
  refine ⟨?_, fun found h => ?_, fun u h => ?_⟩
  · simp [selectIf_eq_ok_iff, hclear]
  · obtain ⟨hall, rfl⟩ := (selectIf_eq_ok_iff tables requests found).mp h
    refine ⟨⟨hpicked.order, hpicked.nodup, fun table => ?_⟩, fun requests' hsame =>
      selectIf_congr hsame h⟩
    rw [hpicked.mem_iff]
    refine and_congr_right fun _ => exists_congr fun request => and_congr_right fun hrequest => ?_
    exact and_iff_right ((hclear request).mp (hall request hrequest))
  · simp only [selectIf, select] at h
    split at h
    · cases h
    · cases h
      exact ⟨rfl, ⟨_, isNone_meant?_iff hids, rfl⟩, _, rfl, hpicked⟩

def emptyTable (id name : String) : Table where
  id := id
  name := name
  primaryFieldId := "fldName"
  description := none
  fields := []
  views := []

/-- The second table has the id of the first for its name, and the third its own. -/
def chores : List Table :=
  [emptyTable "tblA" "Tasks", emptyTable "tblB" "tblA", emptyTable "Rooms" "Rooms"]

theorem selection_of_chores : (chores.map fun table => table.id).Nodup ∧
    ArePicked chores (fun table => ∃ request ∈ ["Rooms", "Tasks", "Rooms"], table.IsMeantBy request)
      [emptyTable "tblA" "Tasks", emptyTable "Rooms" "Rooms"] ∧
    IsRefusal chores ["tblA", "Tasks", "tblA"] ⟨["tblA", "Tasks", "tblA"], ["Tasks"],
      ["tblA", "tblA"]⟩ := by
  have hids : (chores.map fun table => table.id).Nodup := by decide
  obtain ⟨-, hfound, -⟩ := selection_by_requests hids ["Rooms", "Tasks", "Rooms"]
  obtain ⟨-, -, hrefused⟩ := selection_by_requests hids ["tblA", "Tasks", "tblA"]
  exact ⟨hids, (hfound _ rfl).1, hrefused _ rfl⟩

end RecordTypes

import Mathlib.Data.List.Induction
import RecordTypes.Proofs.Reading.TableList
import RecordTypes.Proofs.Reading.Tag

/-! The field that is told with an error. It is the innermost value with the look of a field that is
met on the way to the error, though views and other parts of a document can have this look, too. -/

namespace RecordTypes

/-! ## Values on the way -/

/-- Fields stand in the list of a table, and as results of other fields. -/
def Slot.isField : Slot → Bool
  | .model .field | .model .temporal => true
  | _ => false

/-- The part with a key, in whichever way this is spelled. -/
def Model.partAt? (m : Model) (members : Members) (key : String) : Option (String × Slot) :=
  (m.parts members).find? fun part => key == part.1 || key == underscored part.1

/-- What is expected one place further down. -/
def Slot.below : Slot → Json → Place → Slot
  | .list m, .arr _, .index _ => .model m
  | .model m, .obj members, .key key => (m.partAt? members key).elim .plain Prod.snd
  | _, _, _ => .plain

/-- What a place of a location stands for. A tag stands for nothing but the value itself. -/
def Json.part? (raw : Json) : Place → Option Json
  | .tag _ => none
  | place => raw.child? place

/-- The values on the way down a location, each with what is expected there. Where nothing is found
the way goes on from the same value. -/
def valuesOn (find : Json → Place → Option Json) (slot : Slot) (raw : Json) :
    Location → List (Slot × Json)
  | [] => []
  | place :: rest =>
    match find raw place with
    | some child =>
      (slot.below raw place, child) :: valuesOn find (slot.below raw place) child rest
    | none => valuesOn find slot raw rest

/-- The fields that a location lies in. -/
def fieldsOn (slot : Slot) (raw : Json) (location : Location) : List (Slot × Json) :=
  (valuesOn Json.part? slot raw location).filter fun v => v.1.isField

def innermostName (values : List (Slot × Json)) : Option String :=
  (values.filterMap fun v => v.2.fieldName?).getLast?

/-- No name of a type is the key of a member where it stands for the type. -/
def TagsAreNoKeys (raw : Json) : Location → Prop
  | [] => True
  | .tag name :: rest => raw.child? (.tag name) = none ∧ TagsAreNoKeys raw rest
  | place :: rest => TagsAreNoKeys ((raw.child? place).getD raw) rest

section
variable {find : Json → Place → Option Json} {raw child : Json} {place : Place}

theorem valuesOn_cons_some (h : find raw place = some child) (slot : Slot) (rest : Location) :
    valuesOn find slot raw (place :: rest) =
      (slot.below raw place, child) :: valuesOn find (slot.below raw place) child rest := by
  simp [valuesOn, h]

theorem valuesOn_cons_none (h : find raw place = none) (slot : Slot) (rest : Location) :
    valuesOn find slot raw (place :: rest) = valuesOn find slot raw rest := by
  simp [valuesOn, h]

end

theorem fieldNameFrom_eq (slot : Slot) (name : Option String) (raw : Json) (location : Location) :
    fieldNameFrom name raw location =
      (innermostName (valuesOn Json.child? slot raw location) <|> name) := by
  induction location generalizing slot name raw with
  | nil => rfl
  | cons place rest ih =>
    rw [fieldNameFrom, valuesOn]
    cases raw.child? place with
    | none => exact ih slot name raw
    | some child =>
      dsimp only
      rw [ih (slot.below raw place), innermostName, innermostName]
      cases hname : child.fieldName? with
      | none => simp [hname]
      | some s => simp [hname, List.getLast?_cons]

theorem fieldNameAt_eq (slot : Slot) (raw : Json) (location : Location) :
    fieldNameAt raw location = innermostName (valuesOn Json.child? slot raw location) := by
  rw [fieldNameAt, fieldNameFrom_eq slot]
  simp

theorem Model.partAt?_spelling {m : Model} {members : Members} {key : String} {slot : Slot}
    (h : (key, slot) ∈ m.parts members) :
    m.partAt? members (members.spelling key) = some (key, slot) := by
  have hspelling := members.spelling_eq key
  cases hfound : m.partAt? members (members.spelling key) with
  | none =>
    have hnone := List.find?_eq_none.mp hfound (key, slot) h
    simp only [Bool.or_eq_true, beq_iff_eq] at hnone
    exact absurd hspelling hnone
  | some part =>
    obtain ⟨other, found⟩ := part
    have hother : (other, found) ∈ m.parts members := List.mem_of_find?_eq_some hfound
    have hsame := List.find?_some hfound
    simp only [Bool.or_eq_true, beq_iff_eq] at hsame
    -- No other key has a spelling in common with this one.
    obtain rfl : key = other := by
      by_contra hne
      obtain ⟨h₁, h₂, h₃, h₄⟩ := Model.spelledApart (key_mem_keys h) (key_mem_keys hother) hne
      obtain hkey | hkey := hspelling <;> rw [hkey] at hsame
      · exact hsame.elim h₁ h₃
      · exact hsame.elim h₂ h₄
    rw [slot_unique h hother]

theorem Slot.below_part {m : Model} {members : Members} {key : String} {slot : Slot}
    (h : (key, slot) ∈ m.parts members) :
    (model m).below (.obj members) (.key (members.spelling key)) = slot := by
  rw [below, Model.partAt?_spelling h]
  rfl

/-! ## Fields on the way -/

theorem filter_valuesOn_eq {slot : Slot} {raw : Json} {location : Location}
    (h : slot.Leads raw location) (hkeys : TagsAreNoKeys raw location) :
    (valuesOn Json.child? slot raw location).filter (fun v => v.1.isField) =
      fieldsOn slot raw location := by
  rw [fieldsOn]
  induction h with
  | here => rfl
  | @item m items i raw rest hitem h ih =>
    have hchild : Json.child? (.arr items) (.index i) = some raw := by simp [Json.child?, hitem]
    have hpart : Json.part? (.arr items) (.index i) = some raw := hchild
    have hrest : TagsAreNoKeys raw rest := by
      simpa only [TagsAreNoKeys, hchild, Option.getD_some] using hkeys
    rw [valuesOn_cons_some hchild, valuesOn_cons_some hpart, List.filter_cons, List.filter_cons]
    dsimp only [Slot.below]
    rw [ih hrest]
  | @absent m members key slot hslot hraw =>
    have hchild : Json.child? (.obj members) (.key key) = none := by
      cases hfind : members.find? key with
      | none => exact hfind
      | some child => cases hraw.symm.trans (Members.spelled?_of_find? hfind)
    have hpart : Json.part? (.obj members) (.key key) = none := hchild
    rw [valuesOn_cons_none hchild, valuesOn_cons_none hpart]
    rfl
  | @part m members key slot raw rest hslot hraw h ih =>
    have hchild : Json.child? (.obj members) (.key (members.spelling key)) = some raw :=
      Members.find?_spelling hraw
    have hpart : Json.part? (.obj members) (.key (members.spelling key)) = some raw := hchild
    have hrest : TagsAreNoKeys raw rest := by
      simpa only [TagsAreNoKeys, hchild, Option.getD_some] using hkeys
    rw [valuesOn_cons_some hchild, valuesOn_cons_some hpart, Slot.below_part hslot,
      List.filter_cons, List.filter_cons, ih hrest]
  | @tag m members name rest htag h ih =>
    obtain ⟨hchild, hrest⟩ := hkeys
    have hpart : Json.part? (.obj members) (.tag name) = none := rfl
    rw [valuesOn_cons_none hchild, valuesOn_cons_none hpart, ih hrest]

/-! ## Names of fields -/

theorem getLast?_filterMap_filter {α β : Type} {f : α → Option β} {p : α → Bool} {l : List α}
    (h : ∀ a ∈ (l.filter fun a => (f a).isSome).getLast?, p a = true) :
    ((l.filter p).filterMap f).getLast? = (l.filterMap f).getLast? := by
  induction l using List.reverseRecOn with
  | nil => rfl
  | append_singleton l a ih =>
    cases ha : f a with
    | none =>
      rw [List.filter_append, List.filter_singleton, ha] at h
      have hlast := ih (by simpa using h)
      by_cases hp : p a = true <;> simpa [ha, hp] using hlast
    | some b =>
      have hp : p a = true := h a (by simp [ha])
      simp [ha, hp]

/-- The look of a field, though not always its place. -/
def looksLikeField (v : Slot × Json) : Bool := v.2.fieldName?.isSome

def Mismatch.lineStart (m : Mismatch) (issue : Issue) : String :=
  "  " ++ m.path issue ++ ": " ++ issue.fault.message

theorem onField_eq_iff {found : Option String} {name : String} :
    onField found = " (on field '" ++ name ++ "')" ↔ name ≠ "" ∧ found = some name := by
  have hne : "" ≠ " (on field '" ++ name ++ "')" := by
    intro h
    have hlist := congrArg String.toList h
    simp at hlist
  cases found with
  | none => exact iff_of_false hne (by simp)
  | some s =>
    by_cases hs : s = ""
    · subst hs
      have hname : ¬(name ≠ "" ∧ some "" = some name) := by
        rintro ⟨hname, h⟩
        exact hname (Option.some.inj h).symm
      exact iff_of_false hne hname
    · have hempty : s.isEmpty = false := by simpa using hs
      rw [onField, hempty]
      constructor
      · intro h
        have hlist := congrArg String.toList h
        simp only [Bool.false_eq_true, if_false, String.toList_append, List.append_cancel_right_eq,
          List.append_cancel_left_eq, String.toList_inj] at hlist
        subst hlist
        exact ⟨hs, rfl⟩
      · rintro ⟨-, h⟩
        cases h
        rfl

theorem line_eq_iff {m : Mismatch} {issue : Issue} {name : String} :
    m.line issue = m.lineStart issue ++ (" (on field '" ++ name ++ "')") ↔
      name ≠ "" ∧ fieldNameAt m.raw issue.location = some name := by
  rw [← onField_eq_iff]
  exact String.append_right_inj _

/-- The values that are met on the way to an error in a list of tables, tags taken for keys where an
object has such. -/
def Mismatch.passed (m : Mismatch) (issue : Issue) : List (Slot × Json) :=
  valuesOn Json.child? (.model .tableList) m.raw issue.location

def Mismatch.fields (m : Mismatch) (issue : Issue) : List (Slot × Json) :=
  fieldsOn (.model .tableList) m.raw issue.location

/-- If a line tells a field, this is the innermost one that has a name. -/
def Mismatch.TellsField (m : Mismatch) (issue : Issue) : Prop :=
  ∀ name, m.line issue = m.lineStart issue ++ (" (on field '" ++ name ++ "')") →
    innermostName (m.fields issue) = some name

theorem tellsField_iff {raw : Json} {m : Mismatch} (h : Table.listOfJson raw = .error m)
    {issue : Issue} (hissue : issue ∈ m.issues) :
    (m.TellsField issue ↔ ∀ name, name ≠ "" → innermostName (m.passed issue) = some name →
      innermostName (m.fields issue) = some name) ∧
    (TagsAreNoKeys m.raw issue.location →
      (∀ v ∈ ((m.passed issue).filter looksLikeField).getLast?, v.1.isField = true) →
      ∀ name, m.line issue = m.lineStart issue ++ (" (on field '" ++ name ++ "')") ↔
        name ≠ "" ∧ innermostName (m.fields issue) = some name) := by
  have hleads : (Slot.model .tableList).Leads m.raw issue.location := by
    have hread := (describes_readTableList raw).leads issue
    unfold Table.listOfJson at h
    cases hlist : readTableList raw with
    | value tables =>
      rw [hlist] at h
      cases h
    | faulty issues =>
      rw [hlist] at h hread
      cases h
      exact hread hissue
  have hpassed : fieldNameAt m.raw issue.location = innermostName (m.passed issue) :=
    fieldNameAt_eq (.model .tableList) m.raw issue.location
  refine ⟨?_, fun hkeys hlast name => ?_⟩
  · simp only [Mismatch.TellsField, line_eq_iff, hpassed, and_imp]
  · have hsame : innermostName (m.passed issue) = innermostName (m.fields issue) := by
      rw [Mismatch.fields, ← filter_valuesOn_eq hleads hkeys]
      exact (getLast?_filterMap_filter hlast).symm
    rw [line_eq_iff, hpassed, hsame]

/-- A format that has the look of a field is passed whichever way its key is spelled. -/
example : fieldNameAt (.obj [("name", .str "Due"), ("type", .str "date"),
    ("options", .obj [("date_format", .obj [("name", .str "bad"), ("type", .str "iso")])])])
      [.tag "date", .key "options", .key "date_format", .key "format"] = some "bad" := rfl

/-! ## A table with a formula, and one with a view -/

def totalMembers : Members := formulaMembers [("id", .str "fldT"), ("name", .str "Total")]

def salesTable : Json :=
  .obj [("id", .str "tblS"), ("name", .str "Sales"), ("primaryFieldId", .str "fldT"),
    ("fields", .arr [.obj totalMembers])]

def missingTotalPrecision : Issue where
  location := [.key "tables", .index 0, .key "fields", .index 0] ++ missingResultPrecision.location
  fault := .missing

def salesMismatch : Mismatch := ⟨"", tableDocument [salesTable], [missingTotalPrecision]⟩

theorem listOfJson_sales :
    Table.listOfJson (tableDocument [salesTable]) = .error salesMismatch := by
  have hfield : readField (.obj totalMembers) = .faulty [missingResultPrecision] :=
    readField_formulaMembers rfl
  have hfields : readFields (.arr [.obj totalMembers]) =
      .faulty [⟨.index 0 :: missingResultPrecision.location, .missing⟩] := by
    simp only [readFields, readList, readItems, hfield]
    rfl
  have htable : readTable salesTable =
      .faulty [⟨.key "fields" :: .index 0 :: missingResultPrecision.location, .missing⟩] := by
    change _ <*> (readFields (.arr [.obj totalMembers])).under (.key "fields") <*> _ = _
    rw [hfields]
    rfl
  rw [Table.listOfJson, readTableList_tableDocument, readItems, htable]
  rfl

theorem line_of_total :
    Table.listOfJson (tableDocument [salesTable]) = .error salesMismatch ∧
      missingTotalPrecision ∈ salesMismatch.issues ∧
      salesMismatch.TellsField missingTotalPrecision ∧
      salesMismatch.line missingTotalPrecision =
        "  tables[0].fields[0].options.result.options.precision: Field required" ++
          (" (on field '" ++ "Total" ++ "')") := by
  have hissue : missingTotalPrecision ∈ salesMismatch.issues := List.mem_singleton_self _
  obtain ⟨-, hline⟩ := tellsField_iff listOfJson_sales hissue
  have hkeys : TagsAreNoKeys salesMismatch.raw missingTotalPrecision.location :=
    ⟨rfl, rfl, trivial⟩
  have hlast : ((salesMismatch.passed missingTotalPrecision).filter looksLikeField).getLast? =
      some (.model .field, .obj totalMembers) := rfl
  have htotal := hline hkeys <| by
    rw [hlast]
    rintro v ⟨⟩
    rfl
  have hstart : salesMismatch.lineStart missingTotalPrecision =
      "  tables[0].fields[0].options.result.options.precision: Field required" := by decide
  refine ⟨listOfJson_sales, hissue, fun name h => ((htotal name).mp h).2, ?_⟩
  rw [← hstart]
  exact (htotal "Total").mpr ⟨by decide, rfl⟩

def lampsTable : Json :=
  .obj [("id", .str "tblL"), ("name", .str "Lamps"), ("primaryFieldId", .str "fldL"),
    ("fields", .arr []),
    ("views", .arr [.obj [("id", .str "viwG"), ("name", .str "Grid"), ("type", .str "list")]])]

/-- A view is told as if it were a field, though its error lies in none. -/
theorem view_told_as_field :
    ∃ m issue, Table.listOfJson (tableDocument [lampsTable]) = .error m ∧ m.issues = [issue] ∧
      m.path issue = "tables[0].views[0].type" ∧ m.fields issue = [] ∧
      m.line issue = m.lineStart issue ++ (" (on field '" ++ "Grid" ++ "')") ∧
      ¬m.TellsField issue := by
  have hlist : Table.listOfJson (tableDocument [lampsTable]) =
      .error ⟨"", tableDocument [lampsTable],
        [⟨[.key "tables", .index 0, .key "views", .index 0, .key "type"],
          .notOneOf (Named.names ViewType)⟩]⟩ := rfl
  refine ⟨_, _, hlist, rfl, by decide, rfl, line_eq_iff.mpr ⟨by decide, rfl⟩, fun htells => ?_⟩
  have hname := htells "Grid" (line_eq_iff.mpr ⟨by decide, rfl⟩)
  cases hname

end RecordTypes

import Mathlib.Data.List.Flatten
import RecordTypes.Proofs.Generation.Outcome

/-! Tables in another order. What they share is the same, and the lines of a table depend on no
other table, so that a text is rearranged in whole blocks. -/

namespace RecordTypes

/-! ## What tables share -/

theorem anyReferences_mono {fields fields' : List Field} (h : fields ⊆ fields')
    {shape : SharedShape} (href : anyReferences fields shape = true) :
    anyReferences fields' shape = true := by
  obtain ⟨field, hfield, hrefers⟩ := List.any_eq_true.mp href
  exact List.any_eq_true.mpr ⟨field, h hfield, hrefers⟩

theorem anyReferences_perm {fields fields' : List Field} (h : fields.Perm fields')
    (shape : SharedShape) : anyReferences fields shape = anyReferences fields' shape :=
  Bool.eq_iff_iff.mpr ⟨anyReferences_mono h.subset, anyReferences_mono h.symm.subset⟩

namespace Target

variable (target : Target) (fieldIds : Bool)

theorem written_perm {fields fields' : List Field} (h : fields.Perm fields') :
    target.written fields = target.written fields' :=
  List.filter_congr fun declaration _ => anyReferences_perm h declaration.shape

theorem written_sublist {fields fields' : List Field} (h : fields ⊆ fields') :
    (target.written fields).Sublist (target.written fields') :=
  List.monotone_filter_right _ fun _ => anyReferences_mono h

theorem sharedBlock_perm {tables tables' : List Table} (h : tables.Perm tables') :
    target.sharedBlock (allFields tables) = target.sharedBlock (allFields tables') := by
  have hfields : (allFields tables).Perm (allFields tables') := h.flatMap_right _
  rw [sharedBlock, target.written_perm hfields, sharedBlock]

theorem allRegistrations_perm {tables tables' : List Table} (h : tables.Perm tables') :
    (target.allRegistrations fieldIds tables).Perm (target.allRegistrations fieldIds tables') := by
  have hshared := target.written_perm (h.flatMap_right fun table => table.fields)
  have htables := h.flatMap_right fun table => target.registrations table fieldIds
  simp only [allRegistrations, allFields, hshared]
  exact (htables.append_left _).append_right _

theorem allRegistrations_singleton_sublist {tables : List Table} {table : Table}
    (h : table ∈ tables) :
    (target.allRegistrations fieldIds [table]).Sublist
      (target.allRegistrations fieldIds tables) := by
  have hone : [table].Sublist tables := List.singleton_sublist.mpr h
  have hfields : allFields [table] ⊆ allFields tables := (hone.flatMap _).subset
  have hshared := (target.written_sublist hfields).flatMap fun declaration =>
    registeredFrom fromShared declaration.identifiers
  have htables := hone.flatMap fun table => target.registrations table fieldIds
  exact (((List.Sublist.refl _).append hshared).append htables).append (List.Sublist.refl _)

end Target

/-! ## Collisions -/

/-- Collisions of the same identifiers, each with the same sources, whatever the order. -/
structure SameCollisions (cs cs' : List Collision) : Prop where
  identifiers : (cs.map Collision.identifier).Perm (cs'.map Collision.identifier)
  sources : ∀ c ∈ cs, ∀ c' ∈ cs', c.identifier = c'.identifier → c.sources.Perm c'.sources

theorem IsCollisionList.nodup {rs : List Registration} {cs : List Collision}
    (h : IsCollisionList rs cs) : (cs.map Collision.identifier).Nodup := by
  refine h.order.imp fun {a b} hab => ?_
  rintro rfl
  exact Nat.lt_irrefl _ hab

theorem IsCollisionList.same_of_perm {rs rs' : List Registration} {cs cs' : List Collision}
    (h : IsCollisionList rs cs) (h' : IsCollisionList rs' cs') (hrs : rs.Perm rs') :
    SameCollisions cs cs' := by
  have hnames := hrs.map Registration.identifier
  constructor
  · rw [List.perm_ext_iff_of_nodup h.nodup h'.nodup]
    intro name
    rw [h.identifiers, h'.identifiers, hnames.count_eq]
  · intro c hc c' hc' hname
    rw [h.sources c hc, h'.sources c' hc', hname]
    exact (hrs.filter _).map _

/-! ## Texts -/

namespace GenerationOptions

/-- The text of the assembly for some tables: at the top what they share, then each table in its
turn, and the lookups last. The lines of a table are given by the table alone. -/
structure LaysOut (options : GenerationOptions) (base : Base) (shared : List String)
    (tables : List Table) (text : String) : Prop where
  isText : text = (assemble options.target options.fieldIds base tables).text
  lines : (assemble options.target options.fieldIds base tables).lines =
    options.target.header base ++ shared ++
      tables.flatMap (options.target.tableLines options.fieldIds) ++
      options.target.lookupBlock options.fieldIds tables

theorem laysOut (options : GenerationOptions) (base : Base) (tables : List Table) :
    options.LaysOut base (options.target.sharedBlock (allFields tables)) tables
      (assemble options.target options.fieldIds base tables).text :=
  ⟨rfl, by rw [assemble_eq]; rfl⟩

theorem identifiers_perm (options : GenerationOptions) {tables tables' : List Table}
    (h : tables.Perm tables') :
    (options.identifiers tables).Perm (options.identifiers tables') :=
  (options.target.allRegistrations_perm options.fieldIds h).map _

theorem nodup_identifiers_singleton {options : GenerationOptions} {tables : List Table}
    (hnodup : (options.identifiers tables).Nodup) {table : Table} (h : table ∈ tables) :
    (options.identifiers [table]).Nodup :=
  ((options.target.allRegistrations_singleton_sublist options.fieldIds h).map _).nodup hnodup

end GenerationOptions

/-- Tables in two orders collide in the same way or not at all. If they do not, the two texts begin
with the same lines and go on with the lines of the tables in the respective order, where the lines
of a table are those that it has when it is the only one. -/
theorem generate_perm (base : Base) (options : GenerationOptions) (hall : options.requested = none)
    {tables tables' : List Table} (h : tables.Perm tables') :
    ((∃ cs, generate base tables options = .error (.collisions cs)) ↔
      ∃ cs', generate base tables' options = .error (.collisions cs')) ∧
    (∀ cs cs', generate base tables options = .error (.collisions cs) →
      generate base tables' options = .error (.collisions cs') → SameCollisions cs cs') ∧
    ∀ text, generate base tables options = .ok text →
      ∃ text' shared, generate base tables' options = .ok text' ∧
        options.LaysOut base shared tables text ∧ options.LaysOut base shared tables' text' ∧
        ∀ table ∈ tables, ∃ alone sharedAlone, generate base [table] options = .ok alone ∧
          options.LaysOut base sharedAlone [table] alone := by
  have hselect (tables : List Table) : selectIf tables options.requested = .ok tables := by
    rw [hall]
    rfl
  have hidentifiers := options.identifiers_perm h
  -- The same identifiers are registered, so either both texts are written or none is.
  by_cases hnodup : (options.identifiers tables).Nodup
  · have hnodup' := hidentifiers.nodup_iff.mp hnodup
    have hok := generate_of_nodup base tables options (hselect tables) hnodup
    have hok' := generate_of_nodup base tables' options (hselect tables') hnodup'
    refine ⟨by simp [hok, hok'], by simp [hok], fun text htext => ?_⟩
    rw [hok] at htext
    cases htext
    refine ⟨_, _, hok', options.laysOut base tables, ?_, fun table htable => ?_⟩
    · rw [options.target.sharedBlock_perm h]
      exact options.laysOut base tables'
    · have halone := options.nodup_identifiers_singleton hnodup htable
      exact ⟨_, _, generate_of_nodup base [table] options (hselect [table]) halone,
        options.laysOut base [table]⟩
  · have hnodup' : ¬ (options.identifiers tables').Nodup :=
      fun hh => hnodup (hidentifiers.nodup_iff.mpr hh)
    obtain ⟨cs, hcs, hlist⟩ := generate_of_not_nodup base tables options (hselect tables) hnodup
    obtain ⟨cs', hcs', hlist'⟩ :=
      generate_of_not_nodup base tables' options (hselect tables') hnodup'
    refine ⟨⟨fun _ => ⟨cs', hcs'⟩, fun _ => ⟨cs, hcs⟩⟩, ?_, by simp [hcs]⟩
    intro ds ds' hds hds'
    rw [hcs] at hds
    rw [hcs'] at hds'
    cases hds
    cases hds'
    exact hlist.same_of_perm hlist' (options.target.allRegistrations_perm options.fieldIds h)

def houseBase : Base := ⟨"appH", "House", .create⟩

def rooms : Table where
  id := "tblR"
  name := "Rooms"
  primaryFieldId := "fldN"
  description := none
  fields := [.plain ⟨some "fldN", some "Name", none⟩ (.basic .singleLineText none)]
  views := []

def keepers : Table where
  id := "tblK"
  name := "Keepers"
  primaryFieldId := "fldP"
  description := none
  fields := [.plain ⟨some "fldP", some "Person", none⟩ (.basic .singleCollaborator none)]
  views := []

theorem house_in_either_order :
    ∃ text, generate houseBase [rooms, keepers] .standard = .ok text ∧
      ∃ text' shared, generate houseBase [keepers, rooms] .standard = .ok text' ∧
        GenerationOptions.standard.LaysOut houseBase shared [rooms, keepers] text ∧
        GenerationOptions.standard.LaysOut houseBase shared [keepers, rooms] text' := by
  have hok := generate_of_nodup houseBase [rooms, keepers] .standard rfl (by decide +kernel)
  obtain ⟨-, -, htexts⟩ := generate_perm houseBase .standard rfl
    (List.Perm.swap keepers rooms [])
  obtain ⟨text', shared, hok', hrooms, hkeepers, -⟩ := htexts _ hok
  exact ⟨_, hok, text', shared, hok', hrooms, hkeepers⟩

end RecordTypes

import RecordTypes.Proofs.Generation.Assembly
import RecordTypes.Proofs.Value.Choices

/-! How a generation ends: some request means no table or several, or some identifier was registered
twice, or there is a text. -/

namespace RecordTypes

/-! ## Requests -/

/-- Every request means exactly one table. -/
def Resolves (tables : List Table) : Option (List String) → Prop
  | none => True
  | some requests => ∀ request ∈ requests, tables.countP (fun table => table.isCalled request) = 1

theorem meant?_isNone_iff (tables : List Table) (request : String) :
    (meant? tables request).isNone = true ↔
      tables.countP (fun table => table.isCalled request) ≠ 1 := by
  rw [List.countP_eq_length_filter, meant?]
  cases tables.filter fun table => table.isCalled request with
  | nil => simp
  | cons table rest => cases rest <;> simp

theorem select_isOk_iff (tables : List Table) (requests : List String) :
    (∃ selected, select tables requests = .ok selected) ↔ Resolves tables (some requests) := by
  have hempty : (requests.filter fun request => (meant? tables request).isNone).isEmpty = true ↔
      Resolves tables (some requests) := by
    rw [List.isEmpty_iff, List.filter_eq_nil_iff]
    simp only [meant?_isNone_iff, ne_eq, not_not]
    rfl
  rw [← hempty]
  by_cases h : (requests.filter fun request => (meant? tables request).isNone).isEmpty = true
  · simp [select, h]
  · simp [select, h]

theorem selectIf_isOk_iff (tables : List Table) (requested : Option (List String)) :
    (∃ selected, selectIf tables requested = .ok selected) ↔ Resolves tables requested := by
  cases requested with
  | none => exact ⟨fun _ => trivial, fun _ => ⟨tables, rfl⟩⟩
  | some requests => exact select_isOk_iff tables requests

/-! ## Collisions -/

/-- Collisions that are those of some registrations: each identifier that was registered more than
once, in the order of the first registrations, with all that it was registered for. -/
structure IsCollisionList (rs : List Registration) (cs : List Collision) : Prop where
  identifiers : ∀ name, name ∈ cs.map Collision.identifier ↔
    2 ≤ (rs.map Registration.identifier).count name
  order : (cs.map Collision.identifier).Pairwise fun a b =>
    (rs.map Registration.identifier).idxOf a < (rs.map Registration.identifier).idxOf b
  sources : ∀ c ∈ cs, c.sources =
    (rs.filter fun r => r.identifier == c.identifier).map Registration.source

theorem length_sourcesOf (a : Assembly) (name : String) :
    (a.sourcesOf name).length = (a.registrations.map Registration.identifier).count name := by
  rw [List.count, List.countP_map, List.countP_eq_length_filter]
  simp [Assembly.sourcesOf, Function.comp_def]

theorem mem_collisions (a : Assembly) (c : Collision) :
    c ∈ a.collisions ↔ 2 ≤ (a.registrations.map Registration.identifier).count c.identifier ∧
      c.sources = a.sourcesOf c.identifier := by
  simp only [Assembly.collisions, Assembly.identifiers, List.mem_filter, List.mem_map,
    List.mem_eraseDups, decide_eq_true_eq]
  constructor
  · rintro ⟨⟨name, -, rfl⟩, htwo⟩
    rw [length_sourcesOf] at htwo
    exact ⟨htwo, rfl⟩
  · rintro ⟨htwo, hsources⟩
    have hmem : c.identifier ∈ a.registrations.map Registration.identifier :=
      List.count_pos_iff.mp (by omega)
    refine ⟨⟨c.identifier, List.mem_map.mp hmem, by rw [← hsources]⟩, ?_⟩
    rw [hsources, length_sourcesOf]
    exact htwo

theorem isCollisionList_collisions (a : Assembly) :
    IsCollisionList a.registrations a.collisions := by
  constructor
  · intro name
    constructor
    · intro hname
      obtain ⟨c, hc, rfl⟩ := List.mem_map.mp hname
      exact ((mem_collisions a c).mp hc).1
    · intro htwo
      exact List.mem_map.mpr ⟨⟨name, a.sourcesOf name⟩, (mem_collisions a _).mpr ⟨htwo, rfl⟩, rfl⟩
  · have hsub : (a.collisions.map Collision.identifier).Sublist a.identifiers := by
      have hh := (List.filter_sublist (p := fun (c : Collision) => 1 < c.sources.length)
        (l := a.identifiers.map fun identifier => ⟨identifier, a.sourcesOf identifier⟩)).map
          Collision.identifier
      simpa [Assembly.collisions, Function.comp_def] using hh
    exact (pairwise_eraseDups _).sublist hsub
  · intro c hc
    exact ((mem_collisions a c).mp hc).2

theorem collisions_eq_nil_iff (a : Assembly) :
    a.collisions = [] ↔ (a.registrations.map Registration.identifier).Nodup := by
  rw [List.nodup_iff_count]
  constructor
  · intro h name
    by_contra hmany
    have hmem := ((isCollisionList_collisions a).identifiers name).mpr (by omega)
    simp [h] at hmem
  · intro h
    rw [List.eq_nil_iff_forall_not_mem]
    intro c hc
    have htwo := ((mem_collisions a c).mp hc).1
    have hone := h c.identifier
    omega

/-! ## The three ways to end -/

namespace GenerationOptions

def registrations (options : GenerationOptions) (selected : List Table) : List Registration :=
  options.target.allRegistrations options.fieldIds selected

def identifiers (options : GenerationOptions) (selected : List Table) : List String :=
  (options.registrations selected).map Registration.identifier

end GenerationOptions

section
variable (base : Base) (tables : List Table) (options : GenerationOptions)

theorem generate_of_error {u : Unresolved} (h : selectIf tables options.requested = .error u) :
    generate base tables options = .error (.unresolved u) := by
  simp only [generate, h]

theorem generate_of_ok {selected : List Table}
    (h : selectIf tables options.requested = .ok selected) :
    generate base tables options =
      if (assemble options.target options.fieldIds base selected).collisions = [] then
        .ok (assemble options.target options.fieldIds base selected).text
      else
        .error
          (.collisions (assemble options.target options.fieldIds base selected).collisions) := by
  cases hcs : (assemble options.target options.fieldIds base selected).collisions <;>
    simp [generate, h, hcs]

theorem generate_of_nodup {selected : List Table}
    (h : selectIf tables options.requested = .ok selected)
    (hnodup : (options.identifiers selected).Nodup) :
    generate base tables options =
      .ok (assemble options.target options.fieldIds base selected).text := by
  have hnil : (assemble options.target options.fieldIds base selected).collisions = [] := by
    rw [collisions_eq_nil_iff, assemble_eq]
    exact hnodup
  rw [generate_of_ok base tables options h, if_pos hnil]

theorem generate_of_not_nodup {selected : List Table}
    (h : selectIf tables options.requested = .ok selected)
    (hnodup : ¬ (options.identifiers selected).Nodup) :
    ∃ cs, generate base tables options = .error (.collisions cs) ∧
      IsCollisionList (options.registrations selected) cs := by
  refine ⟨(assemble options.target options.fieldIds base selected).collisions, ?_, ?_⟩
  · have hne : (assemble options.target options.fieldIds base selected).collisions ≠ [] := by
      rw [ne_eq, collisions_eq_nil_iff, assemble_eq]
      exact hnodup
    rw [generate_of_ok base tables options h, if_neg hne]
  · have hh := isCollisionList_collisions (assemble options.target options.fieldIds base selected)
    rw [assemble_eq] at hh ⊢
    exact hh

/-- A generation fails for its requests, or for identifiers that were registered twice, or gives a
text; which of these happens is told by the requests and by what is registered. -/
theorem generate_outcome :
    ((∃ u, generate base tables options = .error (.unresolved u)) ↔
      ¬ Resolves tables options.requested) ∧
    ((∃ cs, generate base tables options = .error (.collisions cs)) ↔
      Resolves tables options.requested ∧ ∃ selected,
        selectIf tables options.requested = .ok selected ∧
          ∃ name, 2 ≤ (options.identifiers selected).count name) ∧
    ((∃ text, generate base tables options = .ok text) ↔
      Resolves tables options.requested ∧ ∃ selected,
        selectIf tables options.requested = .ok selected ∧
          ∀ name, (options.identifiers selected).count name ≤ 1) ∧
    ∀ cs, generate base tables options = .error (.collisions cs) →
      ∃ selected, selectIf tables options.requested = .ok selected ∧
        IsCollisionList (options.registrations selected) cs := by
  cases hselect : selectIf tables options.requested with
  | error u =>
    have hresolves : ¬ Resolves tables options.requested := by
      rw [← selectIf_isOk_iff, hselect]
      simp
    simp [generate_of_error base tables options hselect, hresolves]
  | ok selected =>
    have hresolves : Resolves tables options.requested :=
      (selectIf_isOk_iff tables options.requested).mp ⟨selected, hselect⟩
    by_cases hnodup : (options.identifiers selected).Nodup
    · have hcount := List.nodup_iff_count.mp hnodup
      have hnone : ∀ name, (options.identifiers selected).count name < 2 := by
        intro name
        have hh := hcount name
        omega
      simp [generate_of_nodup base tables options hselect hnodup, hresolves, hcount, hnone]
    · obtain ⟨cs, hcs, hlist⟩ := generate_of_not_nodup base tables options hselect hnodup
      obtain ⟨name, hname⟩ : ∃ name, 1 < (options.identifiers selected).count name := by
        simpa [List.nodup_iff_count] using hnodup
      refine ⟨by simp [hcs, hresolves], ?_, ?_, ?_⟩
      · exact ⟨fun _ => ⟨hresolves, selected, rfl, name, hname⟩, fun _ => ⟨cs, hcs⟩⟩
      · constructor
        · rintro ⟨text, htext⟩
          simp [hcs] at htext
        · rintro ⟨-, selected', hselected, hcount⟩
          cases hselected
          exact absurd (hcount name) (by omega)
      · intro cs' hcs'
        rw [hcs] at hcs'
        cases hcs'
        exact ⟨selected, rfl, hlist⟩

end

end RecordTypes

import Mathlib.Logic.Relation
import RecordTypes.Proofs.Generation.Outcome
import RecordTypes.Proofs.Generation.Text

/-! Assemblies that are made step by step. What is added in which step does not matter, only what is
added in all; what was registered twice stays a collision whatever is added later. -/

namespace RecordTypes

/-- What one step adds to an assembly. -/
@[ext]
structure Addition where
  lines : List String
  registrations : List Registration
  tables : List Table

namespace Addition

/-- All that some steps add, in one step. No steps make a step that adds nothing. -/
def merged (steps : List Addition) : Addition where
  lines := steps.flatMap lines
  registrations := steps.flatMap registrations
  tables := steps.flatMap tables

/-- Consecutive steps become one. -/
inductive Merges : List Addition → List Addition → Prop where
  | intro (before group after : List Addition) :
    Merges (before ++ group ++ after) (before ++ merged group :: after)

/-- Steps that are merged, and split again in other places, in any number of turns. -/
abbrev Regroups : List Addition → List Addition → Prop := Relation.EqvGen Merges

theorem merged_singleton (step : Addition) : merged [step] = step := by
  simp [merged]

theorem merged_append (steps later : List Addition) :
    merged (steps ++ later) = merged [merged steps, merged later] := by
  simp [merged]

theorem Merges.merged_eq {steps steps' : List Addition} (h : Merges steps steps') :
    merged steps = merged steps' := by
  obtain ⟨before, group, after⟩ := h
  simp [merged]

theorem Regroups.merged_eq {steps steps' : List Addition} (h : Regroups steps steps') :
    merged steps = merged steps' := by
  induction h with
  | rel _ _ hmerges => exact hmerges.merged_eq
  | refl _ => rfl
  | symm _ _ _ ih => exact ih.symm
  | trans _ _ _ _ _ ih ih' => exact ih.trans ih'

theorem regroups_merged (steps : List Addition) : Regroups steps [merged steps] := by
  have hall := Merges.intro [] steps []
  rw [List.nil_append, List.append_nil, List.nil_append] at hall
  exact .rel _ _ hall

theorem regroups_iff_merged_eq {steps steps' : List Addition} :
    Regroups steps steps' ↔ merged steps = merged steps' := by
  refine ⟨Regroups.merged_eq, fun h => ?_⟩
  -- There is a way to one single step and back to the other steps.
  have hback := (regroups_merged steps').symm
  rw [← h] at hback
  exact (regroups_merged steps).trans _ _ _ hback

end Addition

open Addition

namespace Assembly

def addStep (a : Assembly) (step : Addition) : Assembly :=
  a.add step.lines step.registrations step.tables

def addSteps (a : Assembly) (steps : List Addition) : Assembly := steps.foldl addStep a

theorem addStep_addStep (a : Assembly) (step later : Addition) :
    (a.addStep step).addStep later = a.addStep (merged [step, later]) := by
  simp [addStep, add_add, merged]

theorem addSteps_eq (a : Assembly) (steps : List Addition) :
    a.addSteps steps = a.addStep (merged steps) := by
  induction steps generalizing a with
  | nil => exact a.add_nil.symm
  | cons step steps ih =>
    have hmerged := merged_append [step] steps
    rw [merged_singleton, List.singleton_append] at hmerged
    have hstep := ih (a.addStep step)
    rw [hmerged, ← addStep_addStep, ← hstep]
    rfl

theorem addSteps_append (a : Assembly) (steps later : List Addition) :
    a.addSteps (steps ++ later) = (a.addSteps steps).addSteps later := List.foldl_append

theorem empty_addSteps (steps : List Addition) :
    empty.addSteps steps = ⟨(merged steps).lines, (merged steps).registrations,
      (merged steps).tables⟩ := addSteps_eq empty steps

theorem forall_addSteps_eq_iff {steps steps' : List Addition} :
    (∀ a : Assembly, a.addSteps steps = a.addSteps steps') ↔ Regroups steps steps' := by
  rw [regroups_iff_merged_eq]
  constructor
  · intro h
    have hempty := h empty
    rw [empty_addSteps, empty_addSteps, Assembly.mk.injEq] at hempty
    exact Addition.ext hempty.1 hempty.2.1 hempty.2.2
  · intro h a
    rw [addSteps_eq, addSteps_eq, h]

end Assembly

/-! ## Collisions -/

/-- Every collision is among the others, where it may have more sources behind its own. -/
def StillCollide (cs cs' : List Collision) : Prop :=
  ∀ c ∈ cs, ∃ c' ∈ cs', c'.identifier = c.identifier ∧ c.sources <+: c'.sources

theorem StillCollide.refl (cs : List Collision) : StillCollide cs cs :=
  fun c hc => ⟨c, hc, rfl, List.prefix_refl _⟩

theorem StillCollide.trans {cs cs' cs'' : List Collision} (h : StillCollide cs cs')
    (h' : StillCollide cs' cs'') : StillCollide cs cs'' := by
  intro c hc
  obtain ⟨c', hc', hname, hsources⟩ := h c hc
  obtain ⟨c'', hc'', hname', hsources'⟩ := h' c' hc'
  exact ⟨c'', hc'', hname'.trans hname, hsources.trans hsources'⟩

namespace Assembly

theorem sourcesOf_addStep (a : Assembly) (step : Addition) (name : String) :
    (a.addStep step).sourcesOf name = a.sourcesOf name ++
      (step.registrations.filter fun r => r.identifier == name).map Registration.source := by
  simp [sourcesOf, addStep, add]

theorem stillCollide_addStep (a : Assembly) (step : Addition) :
    StillCollide a.collisions (a.addStep step).collisions := by
  intro c hc
  obtain ⟨htwo, hsources⟩ := (mem_collisions a c).mp hc
  refine ⟨⟨c.identifier, (a.addStep step).sourcesOf c.identifier⟩, ?_, rfl, ?_⟩
  · rw [mem_collisions]
    refine ⟨?_, rfl⟩
    have hcount : ((a.addStep step).registrations.map Registration.identifier).count c.identifier =
        (a.registrations.map Registration.identifier).count c.identifier +
          (step.registrations.map Registration.identifier).count c.identifier := by
      simp [addStep, add]
    dsimp only
    omega
  · rw [hsources, sourcesOf_addStep]
    exact List.prefix_append _ _

theorem stillCollide_addSteps (a : Assembly) (steps : List Addition) :
    StillCollide a.collisions (a.addSteps steps).collisions := by
  induction steps generalizing a with
  | nil => exact StillCollide.refl _
  | cons step steps ih => exact (a.stillCollide_addStep step).trans (ih (a.addStep step))

end Assembly

/-- Steps make the same assembly however they are grouped. Its collisions are those of all that the
steps registered, and no later step takes one away. Its text ends in one line feed, is not changed
by empty lines, and gives back the lines that the steps added, up to the last one that is filled. -/
theorem assembly_of_steps (steps : List Addition) :
    (∀ steps', (∀ a : Assembly, a.addSteps steps = a.addSteps steps') ↔ Regroups steps steps') ∧
    IsCollisionList (steps.flatMap Addition.registrations)
      (Assembly.empty.addSteps steps).collisions ∧
    (∀ later, StillCollide (Assembly.empty.addSteps steps).collisions
      (Assembly.empty.addSteps (steps ++ later)).collisions) ∧
    EndsInOneLineFeed (Assembly.empty.addSteps steps).text ∧
    (∀ n registrations tables, (Assembly.empty.addSteps
        (steps ++ [⟨List.replicate n "", registrations, tables⟩])).text =
      (Assembly.empty.addSteps steps).text) ∧
    ((∀ line ∈ steps.flatMap Addition.lines, '\n' ∉ line.toList) →
      (∃ line ∈ steps.flatMap Addition.lines, line ≠ "") →
        textLines (Assembly.empty.addSteps steps).text =
          (steps.flatMap Addition.lines).rdropWhile (· == "") ++ [""]) := by
  refine ⟨fun steps' => Assembly.forall_addSteps_eq_iff, ?_, fun later => ?_,
    Assembly.endsInOneLineFeed_text _, fun n registrations tables => ?_, fun hlines hfilled => ?_⟩
  · have hlist := isCollisionList_collisions (Assembly.empty.addSteps steps)
    rw [Assembly.empty_addSteps] at hlist ⊢
    exact hlist
  · rw [Assembly.addSteps_append]
    exact Assembly.stillCollide_addSteps _ later
  · rw [Assembly.addSteps_append]
    exact Assembly.text_add_empty _ n registrations tables
  · rw [Assembly.empty_addSteps]
    exact Assembly.textLines_text_of_filled hlines hfilled

def twoSteps : List Addition :=
  [⟨["import x", ""], [⟨"A", "one"⟩, ⟨"B", "two"⟩], []⟩,
    ⟨["", "type A", "", ""], [⟨"A", "three"⟩], []⟩]

theorem assembly_of_two_steps :
    (Assembly.empty.addSteps twoSteps).collisions = [⟨"A", ["one", "three"]⟩] ∧
    textLines (Assembly.empty.addSteps twoSteps).text = ["import x", "", "", "type A", ""] := by
  obtain ⟨-, -, -, -, -, htext⟩ := assembly_of_steps twoSteps
  refine ⟨by decide, ?_⟩
  rw [htext (by decide) ⟨"type A", by decide, by decide⟩]
  rfl

end RecordTypes

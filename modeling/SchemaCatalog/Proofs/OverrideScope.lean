import SchemaCatalog.Config
import SchemaCatalog.Proofs.Build

/-!
What overrides reach. Two builds that differ only in their overrides take the same steps in the
same order, and a step of the one is that of the other with the default and the pattern of a string
field replaced, if any are set for the name of the step. So they log the same, end alike, and their
catalogs differ in the defaults and patterns of string fields only.
-/
namespace SchemaCatalog

namespace Overrides

/-- What a field becomes under a name for which a default or a pattern may be set. -/
def revise (overrides : Overrides) (name : String) : Field → Field
  | .string field => .string { field with
      pattern := (overrides.pattern? name).or field.pattern
      default := (overrides.default? name).or field.default }
  | field => field

def reviseStep (overrides : Overrides) : Step → Step
  | .field name field => .field name (overrides.revise name field)
  | step => step

variable (overrides : Overrides)

@[simp] theorem kind_revise (name : String) (field : Field) :
    (overrides.revise name field).kind = field.kind := by
  cases field <;> rfl

end Overrides

theorem Schema.step_some_overrides (naming : Naming) (overrides : Overrides) (schema : Schema)
    (name : String) :
    schema.step ⟨naming, some overrides⟩ name =
      (schema.step ⟨naming, none⟩ name).map overrides.reviseStep := by
  obtain ⟨kind, description⟩ := schema
  cases kind with
  | object properties required additional => cases additional <;> rfl
  | array items minItems maxItems => cases items <;> rfl
  | integer shape =>
    obtain ⟨format, minimum, maximum⟩ := shape
    cases format <;> rfl
  | _ => rfl

namespace Walk

variable {α β : Type} (f : Step → Step)

/-- The same walk with each step replaced by another. -/
def mapSteps (walk : Walk α) : Walk α := ⟨walk.steps.map f, walk.outcome⟩

theorem mapSteps_bind (walk : Walk α) (next : α → Walk β) :
    (walk >>= next).mapSteps f = walk.mapSteps f >>= fun value => (next value).mapSteps f := by
  obtain ⟨steps, fault | value⟩ := walk
  · rfl
  · simp only [mapSteps, bind_ok, List.map_append]

theorem mapSteps_forM (items : List α) (walk : α → Walk PUnit) :
    (items.forM walk).mapSteps f = items.forM fun item => (walk item).mapSteps f := by
  induction items with
  | nil => rfl
  | cons item rest ih =>
    change (walk item >>= fun _ => rest.forM walk).mapSteps f = _
    rw [mapSteps_bind, ih]
    rfl

end Walk

section Walks

variable (naming : Naming) (overrides : Overrides)

theorem Walk.follow_some_overrides (findings : List Finding) :
    follow ⟨naming, some overrides⟩ findings =
      (follow ⟨naming, none⟩ findings).mapSteps overrides.reviseStep := by
  rw [follow_eq, follow_eq, mapSteps, List.map_filterMap]
  simp only [Node.step, Schema.step_some_overrides]

/-- What a walk comes to and how it ends has nothing to do with overrides. -/
theorem Schema.walk_some_overrides (schema : Schema) (name : String) :
    schema.walk ⟨naming, some overrides⟩ name =
      (schema.walk ⟨naming, none⟩ name).mapSteps overrides.reviseStep := by
  have hrevised : schema.walk ⟨naming, some overrides⟩ name = _ := schema.walk_eq_follow name
  have hplain : schema.walk ⟨naming, none⟩ name = _ := schema.walk_eq_follow name
  rw [hrevised, hplain, Walk.mapSteps_bind, ← Walk.follow_some_overrides]
  rfl

end Walks

def Options.withOverrides (options : Options) (overrides : Option Overrides) : Options :=
  { options with settings := { options.settings with overrides } }

namespace Document

variable (document : Document) (options : Options) (overrides : Overrides)

theorem walkSelected_some_overrides (name : String) (schema : Schema) :
    document.walkSelected (options.withOverrides (some overrides)) name schema =
      (document.walkSelected (options.withOverrides none) name schema).mapSteps
        overrides.reviseStep := by
  have hwalk : schema.walk (options.withOverrides (some overrides)).settings name =
      (schema.walk (options.withOverrides none).settings name).mapSteps overrides.reviseStep :=
    schema.walk_some_overrides options.settings.naming overrides name
  have hselects : (options.withOverrides (some overrides)).selects name =
      (options.withOverrides none).selects name := rfl
  unfold walkSelected
  rw [hselects]
  split
  · rw [Walk.mapSteps_bind, Schema.walkComponent, Schema.walkComponent, Walk.mapSteps_bind, hwalk]
    rfl
  · rfl

/-- The steps of a whole build, with overrides and without. -/
theorem walk_some_overrides :
    document.walk (options.withOverrides (some overrides)) =
      (document.walk (options.withOverrides none)).mapSteps overrides.reviseStep := by
  simp only [walk, Walk.mapSteps_forM, walkSelected_some_overrides]

end Document

namespace Overrides

/-- One catalog is another but for the defaults and patterns of string fields: where one is set for
the name of such a field it stands there, and everything else is as it was. -/
structure Revises (overrides : Overrides) (plain revised : Catalog) : Prop where
  structures : revised.structures = plain.structures
  fields : ∀ name, revised.field? name = (plain.field? name).map (overrides.revise name)

variable {overrides : Overrides} {plain revised : Catalog}

theorem Revises.structure? (h : overrides.Revises plain revised) (name : String) :
    revised.structure? name = plain.structure? name := by
  rw [Catalog.structure?, Catalog.structure?, h.structures]

theorem Revises.apply (h : overrides.Revises plain revised) (step : Step) :
    overrides.Revises (plain.apply step) (revised.apply (overrides.reviseStep step)) := by
  cases step with
  | field name field =>
    refine ⟨h.structures, fun other => ?_⟩
    have hother := h.fields other
    simp only [Catalog.field?] at hother
    simp only [Catalog.apply, reviseStep, Catalog.addField, Catalog.field?, NameMap.find?_insert,
      hother]
    split
    · rename_i heq
      rw [heq, Option.map_some]
    · rfl
  | «structure» name record =>
    refine ⟨?_, h.fields⟩
    simp only [Catalog.apply, reviseStep, Catalog.addStructure, h.structures]
  | _ => exact h

theorem Revises.eventsOf (h : overrides.Revises plain revised) (step : Step) :
    revised.eventsOf (overrides.reviseStep step) = plain.eventsOf step := by
  cases step with
  | field name field =>
    simp only [reviseStep, Catalog.eventsOf, h.structure?, h.fields, kind_revise, Option.map_map,
      Function.comp_def]
  | «structure» name record =>
    simp only [reviseStep, Catalog.eventsOf, h.structure?, h.fields, Option.isSome_map]
  | _ => rfl

theorem Revises.applyAll (h : overrides.Revises plain revised) (steps : List Step) :
    overrides.Revises (plain.applyAll steps)
      (revised.applyAll (steps.map overrides.reviseStep)) := by
  induction steps generalizing plain revised with
  | nil => exact h
  | cons step rest ih => exact ih (h.apply step)

theorem Revises.log (h : overrides.Revises plain revised) (steps : List Step) :
    revised.log (steps.map overrides.reviseStep) = plain.log steps := by
  induction steps generalizing plain revised with
  | nil => rfl
  | cons step rest ih =>
    rw [List.map_cons, Catalog.log, Catalog.log, h.eventsOf, ih (h.apply step)]

theorem Revises.names (h : overrides.Revises plain revised) :
    revised.fields.names = plain.fields.names := by
  refine NameMap.names_eq_of_isSome_find? fun name => ?_
  have hname : revised.fields.find? name = _ := h.fields name
  rw [hname, Option.isSome_map]
  rfl

theorem Revises.size (h : overrides.Revises plain revised) :
    revised.fields.size = plain.fields.size := by
  simpa using congrArg List.length h.names

end Overrides

namespace Document

variable (document : Document) (options : Options) (overrides : Overrides)

end Document

end SchemaCatalog

import SchemaCatalog.Proofs.Faithful
import SchemaCatalog.Proofs.Outcome
import SchemaCatalog.Proofs.Stems

/-!
Components with unrelated names. If neither stem starts with the other, then no name below one
component is a name below the other. So what one of them registers, and what is logged of it, is
the same with the other and without it, and the two can be built in either order.
-/
namespace SchemaCatalog

/-- The type that an event is about, be it a registration or a warning. -/
def Event.typeName? : Event → Option String
  | .registeringField name _ | .fieldReplaced name _ | .fieldSharesName name
  | .registeringStructure name _ | .structureReplaced name | .structureSharesName name => some name
  | _ => none

namespace Catalog

theorem registeredName?_of_mem_eventsOf {catalog : Catalog} {step : Step} {event : Event}
    {name : String} (h : event ∈ catalog.eventsOf step) (hname : event.typeName? = some name) :
    step.registeredName? = some name := by
  cases step with
  | field registered field =>
    simp only [eventsOf, List.mem_append, List.mem_singleton, Option.mem_toList,
      Option.map_eq_some_iff, List.mem_ite_nil_right] at h
    rcases h with (rfl | ⟨previous, -, rfl⟩) | ⟨-, rfl⟩ <;> exact hname
  | «structure» registered record =>
    simp only [eventsOf, List.mem_append, List.mem_singleton, List.mem_ite_nil_right] at h
    rcases h with (rfl | ⟨-, rfl⟩) | ⟨-, rfl⟩ <;> exact hname
  | skip component =>
    obtain rfl := List.mem_singleton.mp h
    cases hname
  | enter component title =>
    obtain rfl := List.mem_singleton.mp h
    cases hname

/-- The log tells of no type that is not registered. -/
theorem mem_registered_of_mem_log {catalog : Catalog} {steps : List Step} {event : Event}
    {name : String} (h : event ∈ catalog.log steps) (hname : event.typeName? = some name) :
    name ∈ steps.filterMap Step.registeredName? := by
  induction steps generalizing catalog with
  | nil => cases h
  | cons step rest ih =>
    rw [log, List.mem_append] at h
    rcases h with hstep | hrest
    · exact List.mem_filterMap.mpr
        ⟨step, List.mem_cons_self, registeredName?_of_mem_eventsOf hstep hname⟩
    · exact ((List.sublist_cons_self step rest).filterMap _).subset (ih hrest)

/-- Catalogs that have the same types under some names. -/
def AgreeOn (names : List String) (catalog other : Catalog) : Prop :=
  ∀ name ∈ names, catalog.field? name = other.field? name ∧
    catalog.structure? name = other.structure? name

theorem AgreeOn.apply {names : List String} {catalog other : Catalog}
    (h : AgreeOn names catalog other) (step : Step) :
    AgreeOn names (catalog.apply step) (other.apply step) := by
  intro name hname
  obtain ⟨hfield, hrecord⟩ := h name hname
  unfold field? at hfield
  unfold structure? at hrecord
  cases step with
  | field registered field =>
    refine ⟨?_, hrecord⟩
    simp only [field?, Catalog.apply, addField, NameMap.find?_insert, hfield]
  | «structure» registered record =>
    refine ⟨hfield, ?_⟩
    simp only [structure?, Catalog.apply, addStructure, NameMap.find?_insert, hrecord]
  | _ => exact ⟨hfield, hrecord⟩

theorem AgreeOn.applyAll {names : List String} {catalog other : Catalog}
    (h : AgreeOn names catalog other) (steps : List Step) :
    AgreeOn names (catalog.applyAll steps) (other.applyAll steps) := by
  induction steps generalizing catalog other with
  | nil => exact h
  | cons step rest ih => exact ih (h.apply step)

theorem eventsOf_congr {catalog other : Catalog} {step : Step}
    (h : AgreeOn step.registeredName?.toList catalog other) :
    catalog.eventsOf step = other.eventsOf step := by
  cases step with
  | field name field =>
    obtain ⟨hfield, hrecord⟩ := h name (List.mem_singleton_self name)
    simp only [eventsOf, hfield, hrecord]
  | «structure» name record =>
    obtain ⟨hfield, hrecord⟩ := h name (List.mem_singleton_self name)
    simp only [eventsOf, hfield, hrecord]
  | _ => rfl

/-- What is logged of steps depends on what the catalog has under the names that they register. -/
theorem log_congr {catalog other : Catalog} {steps : List Step}
    (h : AgreeOn (steps.filterMap Step.registeredName?) catalog other) :
    catalog.log steps = other.log steps := by
  induction steps generalizing catalog other with
  | nil => rfl
  | cons step rest ih =>
    have hstep : AgreeOn step.registeredName?.toList catalog other := by
      intro name hname
      refine h name (List.mem_filterMap.mpr ⟨step, List.mem_cons_self, ?_⟩)
      simpa using hname
    have hrest : AgreeOn (rest.filterMap Step.registeredName?) catalog other := by
      intro name hname
      exact h name (((List.sublist_cons_self step rest).filterMap _).subset hname)
    rw [log, log, eventsOf_congr hstep, ih (hrest.apply step)]

theorem AgreeOn.trans {names : List String} {first second third : Catalog}
    (h : AgreeOn names first second) (hnext : AgreeOn names second third) :
    AgreeOn names first third := by
  intro name hname
  obtain ⟨hfield, hrecord⟩ := h name hname
  obtain ⟨hfieldNext, hrecordNext⟩ := hnext name hname
  exact ⟨hfield.trans hfieldNext, hrecord.trans hrecordNext⟩

/-- Steps change nothing under other names than they register. -/
theorem agreeOn_applyAll (catalog : Catalog) {names : List String} {steps : List Step}
    (h : names.Disjoint (steps.filterMap Step.registeredName?)) :
    AgreeOn names (catalog.applyAll steps) catalog :=
  fun _ hname => catalog.find_applyAll_of_notMem (h hname)

theorem agreeOn_filter {α : Type} {names : List String} {items : List α} {keeps : α → Bool}
    {steps : α → List Step} (catalog : Catalog)
    (h : ∀ x ∈ items, keeps x = false →
      names.Disjoint ((steps x).filterMap Step.registeredName?)) :
    AgreeOn names (catalog.applyAll (items.flatMap steps))
      (catalog.applyAll ((items.filter keeps).flatMap steps)) := by
  induction items generalizing catalog with
  | nil => exact fun _ _ => ⟨rfl, rfl⟩
  | cons x rest ih =>
    obtain ⟨hx, hrest⟩ := List.forall_mem_cons.mp h
    rw [List.flatMap_cons, applyAll_append]
    cases hkeeps : keeps x with
    | true =>
      rw [List.filter_cons_of_pos hkeeps, List.flatMap_cons, applyAll_append]
      exact ih _ hrest
    | false =>
      rw [List.filter_cons_of_neg (by simp [hkeeps])]
      have hleft : AgreeOn names (catalog.applyAll (steps x)) catalog :=
        catalog.agreeOn_applyAll (hx hkeeps)
      exact (hleft.applyAll _).trans (ih catalog hrest)

end Catalog

namespace Builder

namespace Call

/-- What a builder over a catalog logs of a call. -/
def events (settings : Settings) (title : Option String) (catalog : Catalog) (call : Call) :
    List Event :=
  (call.part.run (start settings title catalog)).2.log

variable (settings : Settings) (title : Option String) (call : Call)

theorem events_eq (catalog : Catalog) :
    call.events settings title catalog = catalog.log (call.walk settings title).steps := by
  rw [events, run_part]
  exact List.nil_append _

theorem registeredNames_walk :
    (call.walk settings title).steps.filterMap Step.registeredName? =
      call.registeredNames settings := by
  have hsteps := congrArg Walk.steps (call.registering_walk settings title)
  rw [Walk.bind_pure_eq, Walk.follow_eq] at hsteps
  change (call.walk settings title).steps.filter Step.registers = call.registrations settings
    at hsteps
  rw [registeredNames, ← hsteps, List.filterMap_filter]
  refine List.filterMap_congr fun step _ => ?_
  cases step <;> rfl

/-- That a call registers types under these names and has no part in any others. Its log tells of a
registration under each of them in turn, and of no other types; the catalog comes to have them
besides the names that it had, and under all other names is as it was. -/
structure RegistersUnder (call : Call) (settings : Settings) (title : Option String)
    (catalog : Catalog) (names : List String) : Prop where
  registered : (call.events settings title catalog).filterMap Event.registeredName? = names
  logged : ∀ event ∈ call.events settings title catalog, ∀ name,
    event.typeName? = some name → name ∈ names
  contains_iff : ∀ name, (catalogAfter settings title catalog [call]).contains name ↔
    name ∈ names ∨ catalog.contains name
  kept : ∀ name, name ∉ names →
    (catalogAfter settings title catalog [call]).field? name = catalog.field? name ∧
      (catalogAfter settings title catalog [call]).structure? name = catalog.structure? name

theorem registersUnder_registeredNames (catalog : Catalog) :
    call.RegistersUnder settings title catalog (call.registeredNames settings) := by
  have hafter : catalogAfter settings title catalog [call] =
      catalog.applyAll (call.registrations settings) := by
    rw [catalogAfter_eq, List.flatMap_singleton]
  constructor
  · rw [events_eq, Catalog.registeredName?_log, registeredNames_walk]
  · intro event hevent name hname
    rw [events_eq] at hevent
    rw [← registeredNames_walk settings title]
    exact Catalog.mem_registered_of_mem_log hevent hname
  · intro name
    rw [hafter]
    exact catalog.contains_applyAll_iff
  · intro name hname
    rw [hafter]
    exact catalog.find_applyAll_of_notMem hname

/-- All names that a component registers start with the stem of its own. -/
theorem starts_of_mem_registeredNames {overrides : Option Overrides} {name registered : String}
    {schema : Schema}
    (h : registered ∈ (component name schema).registeredNames ⟨.default, overrides⟩) :
    Naming.Starts (Naming.stem name) registered := by
  obtain ⟨step, hstep, hregistered⟩ := List.mem_filterMap.mp h
  obtain ⟨node, hnode, hnodeStep⟩ := List.mem_filterMap.mp hstep
  have hclosed := Naming.closed_starts (Naming.firm_stem name)
  have hexpand : .ok node ∈
      Finding.expand .default (.ok ⟨Document.componentPlace name, name, schema⟩) :=
    Finding.ok_mem_of_mem_reached hnode
  obtain ⟨child, inner, heq, hinner, rfl⟩ := Schema.exists_of_mem_expand hexpand
  cases heq
  have hname : Naming.Starts (Naming.stem name) inner.name :=
    Schema.name_of_mem_findings hclosed (Naming.starts_stem name) hinner
  exact Schema.registeredName_of_step hclosed hname hnodeStep hregistered

/-- Components of which neither stem starts with the other register no name in common. -/
theorem disjoint_registeredNames {overrides : Option Overrides} {name other : String}
    {schema otherSchema : Schema} (hname : ¬Naming.Starts (Naming.stem name) (Naming.stem other))
    (hother : ¬Naming.Starts (Naming.stem other) (Naming.stem name)) :
    ((component name schema).registeredNames ⟨.default, overrides⟩).Disjoint
      ((component other otherSchema).registeredNames ⟨.default, overrides⟩) := by
  intro registered hregistered hagain
  have hfirst := starts_of_mem_registeredNames hregistered
  have hsecond := starts_of_mem_registeredNames hagain
  rcases List.prefix_or_prefix_of_prefix hfirst hsecond with h | h
  · exact hname h
  · exact hother h

end Call

section Disjoint

variable {settings : Settings} {call another : Call}
  (h : (call.registeredNames settings).Disjoint (another.registeredNames settings))
  (title : Option String) (catalog : Catalog)
include h

/-- A call has no part in what there is under the names of another. -/
theorem agreeOn_catalogAfter (before after : List Call) :
    Catalog.AgreeOn (call.registeredNames settings)
      (catalogAfter settings title catalog (before ++ another :: after))
      (catalogAfter settings title catalog (before ++ after)) := by
  rw [catalogAfter_eq, catalogAfter_eq]
  simp only [List.flatMap_append, List.flatMap_cons, Catalog.applyAll_append]
  exact (Catalog.agreeOn_applyAll _ h).applyAll _

/-- A call logs the same after another and without it, whatever comes between. -/
theorem events_catalogAfter (before between : List Call) :
    call.events settings title
        (catalogAfter settings title catalog (before ++ another :: between)) =
      call.events settings title (catalogAfter settings title catalog (before ++ between)) := by
  rw [Call.events_eq, Call.events_eq]
  apply Catalog.log_congr
  rw [Call.registeredNames_walk]
  exact agreeOn_catalogAfter h title catalog before between

end Disjoint

end Builder

def Options.without (options : Options) (name : String) : Options :=
  { options with excluded := name :: options.excluded }

theorem Options.selects_without (options : Options) (name other : String) :
    (options.without other).selects name = (name != other && options.selects name) := by
  simp only [selects, without, List.contains_cons, Bool.not_or, Bool.and_assoc]
  rfl

namespace Document

open Builder

variable {document : Document} {options : Options} {catalog : Catalog}

/-- The calls that a build of a document comes to, one for each component that is selected. -/
def calls (document : Document) (options : Options) : List Call :=
  (document.components.entries.filter fun p => options.selects p.1).map fun p =>
    .component p.1 p.2

theorem supported_of_build (h : document.build options = .ok catalog) :
    document.Supported options := by
  by_contra hunsupported
  obtain ⟨fault, hfault⟩ := exists_firstFault hunsupported
  rw [build_of_firstFault hfault] at h
  cases h

theorem reached_of_supported (h : document.Supported options) {call : Call}
    (hcall : call ∈ document.calls options) :
    call.findings options.settings.naming =
      (call.reached options.settings.naming).map .ok := by
  obtain ⟨⟨name, schema⟩, hmem, rfl⟩ := List.mem_map.mp hcall
  obtain ⟨hentry, hselects⟩ := List.mem_filter.mp hmem
  have hschema := h name schema (NameMap.mem_entries_iff.mp hentry) hselects
  have hnone : Finding.firstFault?
      ((Call.component name schema).findings options.settings.naming) = none :=
    firstFault?_component hschema.ends name
  exact Finding.eq_map_ok_of_firstFault? hnone

/-- A build that ends well leaves what the calls for its components leave. -/
theorem build_eq_catalogAfter (h : document.build options = .ok catalog) :
    catalog = catalogAfter options.settings document.title .empty (document.calls options) := by
  have hsupported := supported_of_build h
  obtain ⟨hfindings, rfl⟩ := (document.build_eq_ok_iff options).mp h
  have hcalls : document.findings options =
      ((document.calls options).flatMap (·.reached options.settings.naming)).map .ok := by
    rw [List.map_flatMap, ← List.flatMap_congr fun call => reached_of_supported hsupported,
      calls, List.flatMap_map]
    rfl
  rw [catalogAfter_eq, nodes, hcalls, Finding.nodes_map_ok, List.filterMap_flatMap]
  rfl

theorem Supported.without (h : document.Supported options) (other : String) :
    document.Supported (options.without other) := by
  intro name schema hfind hselects
  rw [Options.selects_without, Bool.and_eq_true] at hselects
  exact h name schema hfind hselects.2

theorem calls_without (document : Document) (options : Options) (other : String) :
    document.calls (options.without other) =
      ((document.components.entries.filter fun p => options.selects p.1).filter
        fun p => p.1 != other).map fun p => .component p.1 p.2 := by
  unfold calls
  simp only [Options.selects_without, List.filter_filter]

theorem agreeOn_build_without {names : List String} {other : String}
    (hnames : ∀ schema,
      names.Disjoint ((Call.component other schema).registeredNames options.settings))
    (h : document.build options = .ok catalog) :
    ∃ less, document.build (options.without other) = .ok less ∧ catalog.AgreeOn names less := by
  obtain ⟨less, hless⟩ := build_of_supported ((supported_of_build h).without other)
  refine ⟨less, hless, ?_⟩
  rw [build_eq_catalogAfter h, build_eq_catalogAfter hless, catalogAfter_eq, catalogAfter_eq,
    calls_without, calls, List.flatMap_map, List.flatMap_map]
  apply Catalog.agreeOn_filter
  intro p _ hout
  obtain rfl : p.1 = other := by simpa using hout
  exact hnames p.2

end Document

namespace Builder

/-- Components with unrelated names do not interfere. All names that a component registers start
with the stem of its own, and those are all the names that its build logs and under which it changes
the catalog. So if neither of two stems starts with the other, the components register no name in
common. Then neither has a part in what there is under the names of the other or in what is logged
of the other, and they can change places. Without one of them, a document that can be built can be
built still, with the same under the names of the other. -/
theorem unrelated_components (overrides : Option Overrides) :
    let settings : Settings := ⟨.default, overrides⟩
    (∀ name schema, ∀ registered ∈ (Call.component name schema).registeredNames settings,
      Naming.Starts (Naming.stem name) registered) ∧
    (∀ (call : Call) (title : Option String) (catalog : Catalog),
      call.RegistersUnder settings title catalog (call.registeredNames settings)) ∧
    ∀ name other schema otherSchema,
      ¬Naming.Starts (Naming.stem name) (Naming.stem other) →
      ¬Naming.Starts (Naming.stem other) (Naming.stem name) →
        let call := Call.component name schema
        let another := Call.component other otherSchema
        (call.registeredNames settings).Disjoint (another.registeredNames settings) ∧
        (∀ (title : Option String) (catalog : Catalog) (before after : List Call),
          Catalog.AgreeOn (call.registeredNames settings)
            (catalogAfter settings title catalog (before ++ another :: after))
            (catalogAfter settings title catalog (before ++ after)) ∧
          call.events settings title
              (catalogAfter settings title catalog (before ++ another :: after)) =
            call.events settings title
              (catalogAfter settings title catalog (before ++ after)) ∧
          catalogAfter settings title catalog (before ++ call :: another :: after) =
            catalogAfter settings title catalog (before ++ another :: call :: after)) ∧
        ∀ (document : Document) (options : Options) (catalog : Catalog),
          options.settings = settings → document.build options = .ok catalog →
            ∃ less, document.build (options.without other) = .ok less ∧
              catalog.AgreeOn (call.registeredNames settings) less := by
  intro settings
  refine ⟨fun name schema _ h => Call.starts_of_mem_registeredNames h,
    fun call title catalog => call.registersUnder_registeredNames settings title catalog, ?_⟩
  intro name other schema otherSchema hname hother call another
  have hdisjoint : ∀ otherSchema, (call.registeredNames settings).Disjoint
      ((Call.component other otherSchema).registeredNames settings) :=
    fun _ => Call.disjoint_registeredNames hname hother
  refine ⟨hdisjoint otherSchema, ?_, ?_⟩
  · intro title catalog before after
    refine ⟨?_, ?_, ?_⟩
    · exact agreeOn_catalogAfter (hdisjoint otherSchema) title catalog before after
    · exact events_catalogAfter (hdisjoint otherSchema) title catalog before after
    · rw [catalogAfter_eq, catalogAfter_eq]
      simp only [List.flatMap_append, List.flatMap_cons, Catalog.applyAll_append]
      rw [Catalog.applyAll_comm _ (hdisjoint otherSchema)]
  · intro document options catalog hsettings hbuild
    rw [← hsettings] at hdisjoint ⊢
    exact Document.agreeOn_build_without hdisjoint hbuild

/-- A list in a list, whose element has one plural letter less, and an object. -/
theorem unrelated_components_tags_owner :
    let settings : Settings := ⟨.default, none⟩
    let inner : Schema := ⟨.array (some ⟨.boolean, none⟩) 0 none, none⟩
    let tags := Call.component "Tags" ⟨.array (some inner) 0 none, none⟩
    let owner := Call.component "Owner" ⟨.object [("tag", ⟨.boolean, none⟩)] [] .undeclared, none⟩
    tags.registeredNames settings = ["Tag", "Tags", "Tags"] ∧
      owner.registeredNames settings = ["OwnerTag", "Owner"] ∧
      (∀ registered ∈ tags.registeredNames settings, Naming.Starts "Tag" registered) ∧
      tags.RegistersUnder settings none .empty ["Tag", "Tags", "Tags"] ∧
      (tags.registeredNames settings).Disjoint (owner.registeredNames settings) ∧
      catalogAfter settings none .empty [tags, owner] =
        catalogAfter settings none .empty [owner, tags] := by
  intro settings inner tags owner
  have htags : tags.registeredNames settings = ["Tag", "Tags", "Tags"] := by decide +kernel
  have howner : owner.registeredNames settings = ["OwnerTag", "Owner"] := by decide +kernel
  have hstem : Naming.stem "Tags" = "Tag" := by decide +kernel
  obtain ⟨hstarts, hregisters, hunrelated⟩ := unrelated_components none
  obtain ⟨hdisjoint, hcalls, -⟩ := hunrelated "Tags" "Owner" ⟨.array (some inner) 0 none, none⟩
    ⟨.object [("tag", ⟨.boolean, none⟩)] [] .undeclared, none⟩ (by decide +kernel)
    (by decide +kernel)
  obtain ⟨-, -, hswapped⟩ := hcalls none .empty [] []
  have htagsRegister := hregisters tags none .empty
  rw [htags] at htagsRegister
  refine ⟨htags, howner, ?_, htagsRegister, hdisjoint, hswapped⟩
  intro registered hregistered
  have hbegins := hstarts "Tags" ⟨.array (some inner) 0 none, none⟩ registered hregistered
  rwa [hstem] at hbegins

end Builder

end SchemaCatalog

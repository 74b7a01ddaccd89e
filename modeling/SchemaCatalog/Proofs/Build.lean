import SchemaCatalog.Proofs.Dispatch

/-!
Whole builds. A build plays the walk over its document, and that walk registers what the findings
of the selected components say, up to the first fault among them: the catalog of a build that
ends well holds the steps of all nodes of these components, one after another.
-/
namespace SchemaCatalog

namespace Document

/-- The walk over one component, or past it if it is not selected. -/
def walkSelected (document : Document) (options : Options) (name : String) (schema : Schema) :
    Walk Unit :=
  if options.selects name then
    schema.walkComponent options.settings document.title name >>= fun _ => pure ()
  else Walk.take (.skip name)

def walk (document : Document) (options : Options) : Walk Unit :=
  document.components.entries.forM fun (name, schema) => document.walkSelected options name schema

variable {document : Document} {options : Options} {builder : Builder}

theorem run_buildSelected (hsettings : builder.settings = options.settings)
    (htitle : builder.title = document.title) (name : String) (schema : Schema) :
    (buildSelected options name schema).run builder =
      builder.play (document.walkSelected options name schema) := by
  unfold buildSelected walkSelected
  split
  · rw [Builder.buildComponent_eq_replay, bind_assoc, Builder.run_bind, Builder.run_get]
    simp only [← Builder.replay_pure, ← Builder.replay_bind, hsettings, htitle,
      Builder.replay_run]
  · rw [Builder.note_skipping_eq_replay, Builder.replay_run]

theorem run_forM_buildSelected (entries : List (String × Schema))
    (hsettings : builder.settings = options.settings) (htitle : builder.title = document.title) :
    (entries.forM fun (name, schema) => buildSelected options name schema : Build Unit).run
        builder =
      builder.play (entries.forM fun (name, schema) =>
        document.walkSelected options name schema) := by
  induction entries generalizing builder with
  | nil => exact (builder.play_pure ()).symm
  | cons entry rest ih =>
    exact Builder.run_bind_eq_play (run_buildSelected hsettings htitle entry.1 entry.2)
      fun _ => ih hsettings htitle

/-- A whole build plays the walk over its document. -/
theorem finish_eq_play (document : Document) (options : Options) :
    document.finish options =
      (Builder.start options.settings document.title .empty).play (document.walk options) :=
  run_forM_buildSelected document.components.entries rfl rfl

theorem build_eq_walk (document : Document) (options : Options) :
    document.build options = (document.walk options).outcome.map fun _ =>
      Catalog.empty.applyAll (document.walk options).steps := by
  rw [build, finish_eq_play]
  simp only [Builder.play]
  cases (document.walk options).outcome with
  | error fault => exact congrArg Except.error fault.within_nil
  | ok value => rfl

theorem buildLog_eq_walk (document : Document) (options : Options) :
    document.buildLog options = Catalog.empty.log (document.walk options).steps ++
      match document.build options with
      | .ok catalog => [.built document.title catalog.fields.size catalog.structures.size]
      | .error _ => [] := by
  rw [buildLog, build, finish_eq_play]
  simp only [Builder.play]
  cases (document.walk options).outcome <;> rfl

/-- The findings of the selected components, each seen from the root of the document. -/
def findings (document : Document) (options : Options) : List Finding :=
  (document.components.entries.filter fun p => options.selects p.1).flatMap fun (name, schema) =>
    Finding.expand options.settings.naming (.ok ⟨componentPlace name, name, schema⟩)

def nodes (document : Document) (options : Options) : List Node :=
  Finding.nodes (document.findings options)

end Document

namespace Walk

variable {α β : Type}

/-- A walk with no other steps than registrations. -/
def registering (walk : Walk α) : Walk α := ⟨walk.steps.filter Step.registers, walk.outcome⟩

theorem registering_bind (walk : Walk α) (next : α → Walk β) :
    (walk >>= next).registering = walk.registering >>= fun value => (next value).registering := by
  obtain ⟨steps, fault | value⟩ := walk
  · rfl
  · simp only [registering, bind_ok, List.filter_append]

theorem registering_finding (settings : Settings) (finding : Finding) :
    (finding.walk settings).registering = finding.walk settings := by
  cases finding with
  | error fault => rfl
  | ok node =>
    cases hstep : node.step settings with
    | none => simp [registering, Finding.walk, hstep]
    | some step =>
      have hregisters := Schema.registers_of_step_eq_some hstep
      simp [registering, Finding.walk, hstep, hregisters]

theorem registering_follow (settings : Settings) (findings : List Finding) :
    (follow settings findings).registering = follow settings findings := by
  induction findings with
  | nil => rfl
  | cons finding rest ih => rw [follow_cons, registering_bind, ih, registering_finding]

end Walk

namespace Schema

theorem registering_walkComponent (settings : Settings) (title : Option String) (name : String)
    (schema : Schema) :
    (schema.walkComponent settings title name).registering =
      Walk.follow settings
          (Finding.expand settings.naming (.ok ⟨Document.componentPlace name, name, schema⟩)) >>=
        fun _ => pure (schema.registration settings.naming name) := by
  have hwithin := (walk_eq_follow schema : schema.Follows settings).within_walk
    (Document.componentPlace name) name
  rw [walkComponent, Walk.registering_bind, hwithin, Walk.registering_bind,
    Walk.registering_follow]
  rfl

end Schema

namespace Document

variable (document : Document) (options : Options)

theorem registering_walkSelected (name : String) (schema : Schema) :
    (document.walkSelected options name schema).registering =
      Walk.follow options.settings (if options.selects name then
        Finding.expand options.settings.naming (.ok ⟨componentPlace name, name, schema⟩)
      else []) := by
  unfold walkSelected
  split
  · rw [Walk.registering_bind, Schema.registering_walkComponent, bind_assoc]
    exact bind_pure _
  · rfl

theorem registering_walk :
    (document.walk options).registering =
      Walk.follow options.settings (document.findings options) := by
  unfold walk findings
  induction document.components.entries with
  | nil => rfl
  | cons entry rest ih =>
    obtain ⟨name, schema⟩ := entry
    change (document.walkSelected options name schema >>= fun _ => _).registering = _
    rw [Walk.registering_bind, ih, registering_walkSelected, ← Walk.follow_append]
    cases hselects : options.selects name <;> simp [hselects]

/-- A build ends as the findings do, and registers the nodes before the first fault. -/
theorem build_eq :
    document.build options =
      (Finding.outcome (document.findings options)).map fun _ =>
        Catalog.empty.applyAll
          ((Finding.reached (document.findings options)).filterMap (·.step options.settings)) := by
  have hwalk := document.registering_walk options
  rw [Walk.follow_eq] at hwalk
  obtain ⟨hsteps, houtcome⟩ := Walk.mk.inj hwalk
  rw [build_eq_walk, houtcome, ← hsteps, Catalog.applyAll_filter_registers]

/-- A build ends well if there are nodes only, and then its catalog has their steps. -/
theorem build_eq_ok_iff {catalog : Catalog} :
    document.build options = .ok catalog ↔
      document.findings options = (document.nodes options).map .ok ∧
        catalog = Catalog.empty.applyAll
          ((document.nodes options).filterMap (·.step options.settings)) := by
  rw [build_eq, Finding.outcome, nodes]
  cases hfault : Finding.firstFault? (document.findings options) with
  | none =>
    have heq := Finding.eq_map_ok_of_firstFault? hfault
    have hnodes : Finding.nodes (document.findings options) =
        Finding.reached (document.findings options) := by
      rw [heq, Finding.nodes_map_ok, Finding.reached_map_ok]
    rw [hnodes, ← heq]
    simp only [Except.map, Except.ok.injEq, true_and]
    exact eq_comm
  | some fault =>
    constructor
    · intro h
      cases h
    · rintro ⟨heq, -⟩
      rw [heq, Finding.firstFault?_map_ok] at hfault
      cases hfault

end Document

end SchemaCatalog

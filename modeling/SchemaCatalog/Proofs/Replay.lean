import SchemaCatalog.Proofs.Walk

/-!
A builder replays walks. What a part of a build does is settled by a walk over the same schema,
which knows neither catalog nor place: the steps of the walk are applied to the catalog, their
events are added to the log, and its fault is seen from where the builder stands. The place is
the same before and after, whether the part ends well or not.
-/
namespace SchemaCatalog

namespace Builder

variable {α β : Type}

theorem run_bind (part : Build α) (next : α → Build β) (builder : Builder) :
    (part >>= next).run builder =
      match part.run builder with
      | (.ok value, later) => (next value).run later
      | (.error fault, later) => (.error fault, later) := by
  change (match part.run builder with | (outcome, later) => ExceptT.bindCont next outcome later) = _
  rcases part.run builder with ⟨fault | value, later⟩ <;> rfl

@[simp] theorem run_pure (value : α) (builder : Builder) :
    (pure value : Build α).run builder = (.ok value, builder) := rfl

@[simp] theorem run_get (builder : Builder) :
    (get : Build Builder).run builder = (.ok builder, builder) := rfl

@[simp] theorem run_modify (change : Builder → Builder) (builder : Builder) :
    (modify change : Build Unit).run builder = (.ok (), change builder) := rfl

@[simp] theorem run_note (event : Event) (builder : Builder) :
    (note event).run builder = (.ok (), { builder with log := builder.log ++ [event] }) := rfl

theorem run_within (place : Pointer) (part : Build α) (builder : Builder) :
    (within place part).run builder =
      match part.run { builder with place := builder.place ++ place } with
      | (outcome, later) =>
          (outcome, { later with place := later.place.take builder.place.length }) := rfl

/-- A builder after a walk from the place where it stands. -/
def after (builder : Builder) (steps : List Step) : Builder :=
  { builder with
    catalog := builder.catalog.applyAll steps
    log := builder.log ++ builder.catalog.log steps }

@[simp] theorem after_nil (builder : Builder) : builder.after [] = builder := by
  simp [after, Catalog.log]

theorem after_append (builder : Builder) (xs ys : List Step) :
    builder.after (xs ++ ys) = (builder.after xs).after ys := by
  simp [after, Catalog.applyAll_append, Catalog.log_append, List.append_assoc]

/-- How a walk ends for a builder, and the builder after it. -/
def play (builder : Builder) (walk : Walk α) : Except WalkFault α × Builder :=
  (walk.outcome.mapError (·.within builder.place), builder.after walk.steps)

theorem play_pure (builder : Builder) (value : α) :
    builder.play (pure value) = (.ok value, builder) :=
  Prod.ext rfl builder.after_nil

/-- Parts of a build that play walks play them one after another. -/
theorem run_bind_eq_play {part : Build α} {next : α → Build β} {builder : Builder}
    {walk : Walk α} {more : α → Walk β} (hpart : part.run builder = builder.play walk)
    (hnext : ∀ value, (next value).run (builder.after walk.steps) =
      (builder.after walk.steps).play (more value)) :
    (part >>= next).run builder = builder.play (walk >>= more) := by
  rw [run_bind, hpart]
  obtain ⟨steps, outcome⟩ := walk
  cases outcome with
  | error fault => rfl
  | ok value =>
    rw [Walk.bind_ok]
    refine (hnext value).trans (Prod.ext rfl ?_)
    exact (builder.after_append steps _).symm

/-- The part of a build that a walk stands for. -/
def replay (walk : Settings → Walk α) : Build α :=
  ExceptT.mk fun builder => builder.play (walk builder.settings)

theorem replay_run (walk : Settings → Walk α) (builder : Builder) :
    (replay walk).run builder = builder.play (walk builder.settings) := rfl

theorem replay_pure (value : α) : replay (fun _ => pure value) = pure value := by
  funext builder
  exact builder.play_pure value

theorem replay_bind (walk : Settings → Walk α) (next : α → Settings → Walk β) :
    replay (fun settings => walk settings >>= fun value => next value settings) =
      replay walk >>= fun value => replay (next value) := by
  funext builder
  exact (run_bind_eq_play rfl fun _ => rfl).symm

theorem replay_map (f : α → β) (walk : Settings → Walk α) :
    f <$> replay walk = replay fun settings => f <$> walk settings := by
  simp only [map_eq_pure_bind, replay_bind, replay_pure]

theorem replay_within (place : Pointer) (walk : Settings → Walk α) :
    within place (replay walk) = replay fun settings => (walk settings).within place := by
  funext builder
  change (within place (replay walk)).run builder = _
  rw [run_within, replay_run]
  refine Prod.ext ?_ ?_
  · change Except.mapError _ (walk builder.settings).outcome =
      ((walk builder.settings).outcome.mapError _).mapError _
    cases (walk builder.settings).outcome with
    | error fault => exact congrArg Except.error (fault.within_within builder.place place).symm
    | ok value => rfl
  · change { builder.after (walk builder.settings).steps with
      place := (builder.place ++ place).take builder.place.length } = _
    rw [List.take_left]
    rfl

theorem replay_foldlM {items : List β} {add : α → β → Build α}
    {walk : Settings → α → β → Walk α}
    (h : ∀ item ∈ items, ∀ value, add value item = replay fun settings => walk settings value item)
    (start : α) :
    items.foldlM add start = replay fun settings => items.foldlM (walk settings) start := by
  induction items generalizing start with
  | nil => exact (replay_pure start).symm
  | cons item rest ih =>
    have hrest := ih fun other hother => h other (List.mem_cons_of_mem item hother)
    simp only [List.foldlM_cons]
    rw [h item List.mem_cons_self, replay_bind]
    simp only [hrest]

theorem run_registerField (name : String) (field : Field) (builder : Builder) :
    (registerField name field).run builder =
      (.ok ⟨some name, name⟩, builder.after [.field name field]) := by
  have hrecords : (builder.catalog.addField name field).structure? name =
      builder.catalog.structure? name := rfl
  cases hfield : builder.catalog.field? name <;>
    cases hrecord : builder.catalog.structure? name <;>
    simp [-bind_pure_comp, registerField, run_bind, hfield, hrecord, hrecords, after,
      Catalog.applyAll, Catalog.apply, Catalog.log, Catalog.eventsOf]

theorem run_registerStructure (name : String) (record : Structure) (builder : Builder) :
    (registerStructure name record).run builder =
      (.ok ⟨some name, name⟩, builder.after [.structure name record]) := by
  have hfields : (builder.catalog.addStructure name record).field? name =
      builder.catalog.field? name := rfl
  cases hfield : builder.catalog.field? name <;>
    cases hrecord : builder.catalog.structure? name <;>
    simp [-bind_pure_comp, registerStructure, run_bind, hfield, hrecord, hfields, after,
      Catalog.applyAll, Catalog.apply, Catalog.log, Catalog.eventsOf]

theorem registerField_eq_replay (name : String) (field : Field) :
    registerField name field = replay fun _ => Schema.registerField name field :=
  funext (run_registerField name field)

theorem registerStructure_eq_replay (name : String) (record : Structure) :
    registerStructure name record = replay fun _ => Schema.registerStructure name record :=
  funext (run_registerStructure name record)

theorem unsupported_eq_replay (shape : Unsupported) :
    (unsupported shape : Build α) = replay fun _ => Walk.unsupported shape := by
  funext builder
  refine Prod.ext ?_ builder.after_nil.symm
  change Except.error (WalkFault.unsupported builder.place shape) =
    .error (.unsupported (builder.place ++ []) shape)
  rw [List.append_nil]

theorem targetName_eq_replay (path : String) (target : Option String) :
    targetName path target = replay fun _ => Schema.targetName path target := by
  cases target with
  | some name => exact (replay_pure name).symm
  | none =>
    funext builder
    refine Prod.ext ?_ builder.after_nil.symm
    change Except.error (WalkFault.missingTarget builder.place path) =
      .error (.missingTarget (builder.place ++ []) path)
    rw [List.append_nil]

theorem mapValueName_eq_replay (kind : Kind) :
    mapValueName kind = replay fun _ => Schema.mapValueName kind := by
  cases kind with
  | reference path target => exact targetName_eq_replay path target
  | string shape => exact (replay_pure stringType).symm
  | _ => exact unsupported_eq_replay _

theorem registerMap_eq_replay (name : String) (value : Schema) :
    registerMap name value = replay fun _ => Schema.walkMap name value := by
  simp only [registerMap, Schema.walkMap, mapValueName_eq_replay, replay_within,
    registerField_eq_replay, replay_bind]

end Builder

end SchemaCatalog

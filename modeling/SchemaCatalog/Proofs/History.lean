import SchemaCatalog.Proofs.Build

/-!
Builders keep no history. What a call returns is what it returns on a new builder, and what it
does to the catalog is to apply a list of registrations that is read off the schema alone. A call
that ends in a fault applies those of the nodes before the fault and leaves the place as it was.
-/
namespace SchemaCatalog

def NameMap.keep {α : Type} (keeps : String → Bool) (m : NameMap α) : NameMap α :=
  ⟨m.entries.filter fun p => keeps p.1, m.ascending.filter _⟩

namespace Document

/-- A document cut down to the components that are selected. -/
def cutDown (document : Document) (options : Options) : Document :=
  { document with components := document.components.keep options.selects }

theorem findings_cutDown (document : Document) (options : Options) :
    (document.cutDown options).findings { options with included := [], excluded := [] } =
      document.findings options := by
  unfold findings cutDown NameMap.keep
  rw [List.filter_filter]
  rfl

theorem build_cutDown (document : Document) (options : Options) :
    (document.cutDown options).build { options with included := [], excluded := [] } =
      document.build options := by
  rw [build_eq, build_eq, findings_cutDown]

end Document

namespace Builder

namespace Call

/-- What a call comes to, one finding after another. -/
def findings (naming : Naming) : Call → List Finding
  | .component name schema =>
      Finding.expand naming (.ok ⟨Document.componentPlace name, name, schema⟩)
  | .dispatch name schema => schema.findings naming name

/-- The nodes that a call takes up before it ends. -/
def reached (naming : Naming) (call : Call) : List Node := Finding.reached (call.findings naming)

/-- The registrations that a call makes, in their order. -/
def registrations (settings : Settings) (call : Call) : List Step :=
  (call.reached settings.naming).filterMap (·.step settings)

def registeredNames (settings : Settings) (call : Call) : List String :=
  (call.registrations settings).filterMap Step.registeredName?

/-- How a call ends on a new builder over an empty catalog. -/
def result (settings : Settings) (call : Call) : Except WalkFault Registration :=
  (call.part.run (start settings none .empty)).1

def walk (settings : Settings) (title : Option String) : Call → Walk Registration
  | .component name schema => schema.walkComponent settings title name
  | .dispatch name schema => schema.walk settings name

def registration (naming : Naming) : Call → Registration
  | .component name schema | .dispatch name schema => schema.registration naming name

variable (settings : Settings) (call : Call)

theorem run_part (builder : Builder) :
    call.part.run builder = builder.play (call.walk builder.settings builder.title) := by
  cases call with
  | component name schema =>
    rw [part, buildComponent_eq_replay, run_bind, run_get]
    rfl
  | dispatch name schema => exact run_dispatch schema name builder

theorem registering_walk (title : Option String) :
    (call.walk settings title).registering =
      Walk.follow settings (call.findings settings.naming) >>= fun _ =>
        pure (call.registration settings.naming) := by
  cases call with
  | component name schema => exact schema.registering_walkComponent settings title name
  | dispatch name schema =>
    have hfollow : schema.walk settings name = _ := schema.walk_eq_follow name
    change (schema.walk settings name).registering = _
    rw [hfollow, Walk.registering_bind, Walk.registering_follow]
    rfl

theorem outcome_walk (title : Option String) :
    (call.walk settings title).outcome =
      (Finding.outcome (call.findings settings.naming)).map fun _ =>
        call.registration settings.naming := by
  have houtcome := congrArg Walk.outcome (call.registering_walk settings title)
  rw [Walk.bind_pure_eq, Walk.follow_eq] at houtcome
  exact houtcome

theorem applyAll_walk (catalog : Catalog) (title : Option String) :
    catalog.applyAll (call.walk settings title).steps =
      catalog.applyAll (call.registrations settings) := by
  have hsteps := congrArg Walk.steps (call.registering_walk settings title)
  rw [Walk.bind_pure_eq] at hsteps
  change (call.walk settings title).steps.filter Step.registers = _ at hsteps
  rw [← Catalog.applyAll_filter_registers, hsteps, Walk.follow_eq]
  rfl

/-- One call of a builder that stands at the root of its document. -/
theorem run_part_of_root {builder : Builder} (hroot : builder.place = []) :
    ∃ log, call.part.run builder = (call.result builder.settings,
      { builder with
        catalog := builder.catalog.applyAll (call.registrations builder.settings)
        log := log }) := by
  refine ⟨(call.part.run builder).2.log, Prod.ext ?_ ?_⟩
  · rw [result, run_part, run_part]
    simp only [play, start, hroot, outcome_walk]
  · rw [run_part]
    simp only [play, after, applyAll_walk]

theorem result_eq :
    call.result settings =
      (Finding.outcome (call.findings settings.naming)).map fun _ =>
        call.registration settings.naming := by
  rw [result, run_part]
  simp only [play, start, outcome_walk]
  cases Finding.outcome (call.findings settings.naming) with
  | error fault => exact congrArg Except.error fault.within_nil
  | ok value => rfl

/-- A call ends well if it comes to nodes only, and else with the first fault. -/
theorem result_cases :
    match call.result settings with
    | .ok _ => call.findings settings.naming = (call.reached settings.naming).map .ok
    | .error fault => ∃ rest, call.findings settings.naming =
        (call.reached settings.naming).map .ok ++ .error fault :: rest := by
  rw [result_eq, Finding.outcome]
  cases hfault : Finding.firstFault? (call.findings settings.naming) with
  | none => exact Finding.eq_map_ok_of_firstFault? hfault
  | some fault => exact Finding.exists_eq_append_of_firstFault? hfault

end Call

theorem run_runCalls_cons (call : Call) (rest : List Call) (builder : Builder) :
    (runCalls (call :: rest)).run builder =
      ((call.part.run builder).1 :: ((runCalls rest).run (call.part.run builder).2).1,
        ((runCalls rest).run (call.part.run builder).2).2) := rfl

/-- Calls in a row come to what each comes to alone, and apply their registrations in a row. -/
theorem run_runCalls (calls : List Call) (builder : Builder) (hroot : builder.place = []) :
    ∃ log, (runCalls calls).run builder = (calls.map (·.result builder.settings),
      { builder with
        catalog := builder.catalog.applyAll (calls.flatMap (·.registrations builder.settings))
        log := log }) := by
  induction calls generalizing builder with
  | nil => exact ⟨builder.log, rfl⟩
  | cons call rest ih =>
    obtain ⟨log, hcall⟩ := call.run_part_of_root hroot
    let later : Builder := { builder with
      catalog := builder.catalog.applyAll (call.registrations builder.settings), log := log }
    have hlater : later.place = [] := hroot
    obtain ⟨more, hrest⟩ := ih later hlater
    refine ⟨more, ?_⟩
    rw [run_runCalls_cons, hcall, hrest, List.flatMap_cons, Catalog.applyAll_append]
    rfl

/-- The catalog that calls leave of the one that a builder begins with. -/
def catalogAfter (settings : Settings) (title : Option String) (catalog : Catalog)
    (calls : List Call) : Catalog :=
  ((runCalls calls).run (start settings title catalog)).2.catalog

theorem catalogAfter_eq (settings : Settings) (title : Option String) (catalog : Catalog)
    (calls : List Call) :
    catalogAfter settings title catalog calls =
      catalog.applyAll (calls.flatMap (·.registrations settings)) := by
  obtain ⟨log, hrun⟩ := run_runCalls calls (start settings title catalog) rfl
  rw [catalogAfter, hrun]
  rfl

/-- A builder that has taken calls answers each of them as a new builder would. The catalog has
been given the registrations of the calls, which no catalog has a part in, and the place is that
of the beginning. So a call that is repeated changes nothing, calls without a registered name in
common can change places, and components that are not selected might as well not be there. -/
theorem runCalls_eq_alone (settings : Settings) (title : Option String) (catalog : Catalog) :
    (∀ calls : List Call, ∃ log, (runCalls calls).run (start settings title catalog) =
      (calls.map (·.result settings),
        ⟨settings, title, catalog.applyAll (calls.flatMap (·.registrations settings)), [], log⟩)) ∧
    (∀ call : Call,
      match call.result settings with
      | .ok _ => call.findings settings.naming = (call.reached settings.naming).map .ok
      | .error fault => ∃ rest, call.findings settings.naming =
          (call.reached settings.naming).map .ok ++ .error fault :: rest) ∧
    (∀ (before after : List Call) (call : Call),
      catalogAfter settings title catalog (before ++ call :: call :: after) =
        catalogAfter settings title catalog (before ++ call :: after)) ∧
    (∀ (before after : List Call) (call other : Call),
      (call.registeredNames settings).Disjoint (other.registeredNames settings) →
        catalogAfter settings title catalog (before ++ call :: other :: after) =
          catalogAfter settings title catalog (before ++ other :: call :: after)) ∧
    ∀ (document : Document) (options : Options),
      document.build options =
        (document.cutDown options).build { options with included := [], excluded := [] } := by
  refine ⟨fun calls => run_runCalls calls (start settings title catalog) rfl,
    fun call => call.result_cases settings, ?_, ?_, ?_⟩
  · intro before after call
    rw [catalogAfter_eq, catalogAfter_eq]
    simp only [List.flatMap_append, List.flatMap_cons, Catalog.applyAll_append,
      Catalog.applyAll_applyAll]
  · intro before after call other hdisjoint
    rw [catalogAfter_eq, catalogAfter_eq]
    simp only [List.flatMap_append, List.flatMap_cons, Catalog.applyAll_append]
    rw [Catalog.applyAll_comm _ hdisjoint]
  · intro document options
    exact (document.build_cutDown options).symm

/-- The first call registers one property and stops at the next; the second is not disturbed. -/
theorem runCalls_eq_alone_after_fault :
    let shape : StringShape := ⟨0, none, none, none, none, []⟩
    let properties := [("a", ⟨.string shape, none⟩), ("b", ⟨.not default, none⟩)]
    let partly := Call.dispatch "T" ⟨.object properties [] .undeclared, none⟩
    let flag := Call.component "Flag" ⟨.boolean, none⟩
    let builder := start ⟨.default, none⟩ none .empty
    ((runCalls [partly, flag]).run builder).1 =
        [.error (.unsupported ["properties", "b"] .negation), .ok ⟨some "Flag", "Flag"⟩] ∧
      ((runCalls [partly, flag]).run builder).2.catalog.fields.names = ["Flag", "TA"] ∧
      catalogAfter ⟨.default, none⟩ none .empty [partly, flag, flag] =
        catalogAfter ⟨.default, none⟩ none .empty [partly, flag] ∧
      catalogAfter ⟨.default, none⟩ none .empty [partly, flag] =
        catalogAfter ⟨.default, none⟩ none .empty [flag, partly] := by
  intro shape properties partly flag
  dsimp only
  obtain ⟨hrun, -, hrepeat, hcomm, -⟩ := runCalls_eq_alone ⟨.default, none⟩ none .empty
  obtain ⟨log, hboth⟩ := hrun [partly, flag]
  have hresults : [partly, flag].map (·.result ⟨.default, none⟩) =
      [.error (.unsupported ["properties", "b"] .negation), .ok ⟨some "Flag", "Flag"⟩] := by
    decide +kernel
  have hnames : (Catalog.empty.applyAll
      ([partly, flag].flatMap (·.registrations ⟨.default, none⟩))).fields.names =
        ["Flag", "TA"] := by decide +kernel
  have hdisjoint : (partly.registeredNames ⟨.default, none⟩).Disjoint
      (flag.registeredNames ⟨.default, none⟩) := by
    have hpartly : partly.registeredNames ⟨.default, none⟩ = ["TA"] := by decide +kernel
    have hflag : flag.registeredNames ⟨.default, none⟩ = ["Flag"] := by decide +kernel
    rw [hpartly, hflag]
    simp
  have hagain := hrepeat [partly] [] flag
  have hswapped := hcomm [] [] partly flag hdisjoint
  rw [List.cons_append, List.nil_append, List.cons_append, List.nil_append] at hagain
  rw [List.nil_append, List.nil_append] at hswapped
  refine ⟨?_, ?_, hagain, hswapped⟩
  · rw [hboth, hresults]
  · rw [hboth, hnames]

end Builder

end SchemaCatalog

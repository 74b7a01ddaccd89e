import SchemaCatalog.Proofs.History

/-!
The log as an account of the catalog. Under each name the log tells of every type that was ever
registered, of every one that another took the place of, and of whether the name is shared. What
the log says last of a name is what the catalog holds, whatever calls a builder has taken and
however they ended.
-/
namespace SchemaCatalog

namespace Event

/-- The kind of the field that is registered under a name. -/
def fieldKind? (name : String) : Event → Option String
  | .registeringField other kind => if other = name then some kind else none
  | _ => none

/-- The number of members of the structure that is registered under a name. -/
def memberCount? (name : String) : Event → Option Nat
  | .registeringStructure other members => if other = name then some members else none
  | _ => none

def replacesField (name : String) : Event → Bool
  | .fieldReplaced other _ => other = name
  | _ => false

def replacesStructure (name : String) : Event → Bool
  | .structureReplaced other => other = name
  | _ => false

theorem fieldKind?_eq_some_iff {name kind : String} {event : Event} :
    event.fieldKind? name = some kind ↔ event = .registeringField name kind := by
  cases event <;> simp [fieldKind?]

theorem memberCount?_eq_some_iff {name : String} {members : Nat} {event : Event} :
    event.memberCount? name = some members ↔ event = .registeringStructure name members := by
  cases event <;> simp [memberCount?]

end Event

/-- How events speak of the types of one sort under one name: what they say of a type when it is
registered, whether they warn that one is replaced, and how they would for a type of which this
was said. -/
structure Ledger (α : Type) where
  registered? : Event → Option α
  replaces : Event → Bool
  warning : α → Event

namespace Ledger

def fields (name : String) : Ledger String :=
  ⟨Event.fieldKind? name, Event.replacesField name, .fieldReplaced name⟩

def structures (name : String) : Ledger Nat :=
  ⟨Event.memberCount? name, Event.replacesStructure name, fun _ => .structureReplaced name⟩

variable {α : Type}

/-- What is said of the types that a log registers, first to last. -/
def registered (ledger : Ledger α) (log : List Event) : List α :=
  log.filterMap ledger.registered?

/-- An event stands right behind the registration of a type, and warns of the type that had been
registered before it. -/
def WarnsAfter (ledger : Ledger α) (before : List Event) (event : Event) : Prop :=
  ∃ earlier registration value previous, before = earlier ++ [registration] ∧
    ledger.registered? registration = some value ∧
    (ledger.registered earlier).getLast? = some previous ∧ event = ledger.warning previous

def WarnsInPlace (ledger : Ledger α) (log : List Event) : Prop :=
  ∀ before event, before ++ [event] <+: log → ledger.replaces event →
    ledger.WarnsAfter before event

/-- A log tells rightly of the type that is held now, if any is: it was registered last, each type
that was registered before it has been replaced, and the warnings of that stand in their places. -/
structure Agrees (ledger : Ledger α) (log : List Event) (held : Option α) : Prop where
  held_eq : held = (ledger.registered log).getLast?
  lost : log.countP ledger.replaces = (ledger.registered log).length - 1
  places : ledger.WarnsInPlace log

variable {ledger : Ledger α} {log : List Event} {held : Option α}

@[simp] theorem registered_append (xs ys : List Event) :
    ledger.registered (xs ++ ys) = ledger.registered xs ++ ledger.registered ys :=
  List.filterMap_append

@[simp] theorem registered_nil : ledger.registered [] = [] := rfl

@[simp] theorem registered_cons (event : Event) (rest : List Event) :
    ledger.registered (event :: rest) =
      (ledger.registered? event).toList ++ ledger.registered rest := by
  cases h : ledger.registered? event <;> simp [registered, h]

/-- One more event must be in its place if it is a warning. -/
theorem WarnsInPlace.concat (h : ledger.WarnsInPlace log) {last : Event}
    (hlast : ledger.replaces last → ledger.WarnsAfter log last) :
    ledger.WarnsInPlace (log ++ [last]) := by
  intro before event hprefix hreplaces
  rcases List.prefix_concat_iff.mp hprefix with heq | hlog
  · obtain ⟨rfl, hevent⟩ := List.append_inj' heq rfl
    obtain rfl := List.singleton_inj.mp hevent
    exact hlast hreplaces
  · exact h before event hlog hreplaces

theorem agrees_nil : ledger.Agrees [] none := by
  refine ⟨rfl, rfl, fun before event hprefix => ?_⟩
  simp at hprefix

theorem Agrees.silent (h : ledger.Agrees log held) {events : List Event}
    (hevents : ∀ event ∈ events, ledger.registered? event = none ∧
      ledger.replaces event = false) : ledger.Agrees (log ++ events) held := by
  induction events generalizing log with
  | nil => rwa [List.append_nil]
  | cons event rest ih =>
    obtain ⟨⟨hregistered, hreplaces⟩, hrest⟩ := List.forall_mem_cons.mp hevents
    have hevent : ledger.Agrees (log ++ [event]) held := by
      refine ⟨?_, ?_, h.places.concat fun htrue => ?_⟩
      · simpa [hregistered] using h.held_eq
      · simpa [hregistered, hreplaces] using h.lost
      · rw [hreplaces] at htrue
        cases htrue
    rw [← List.singleton_append, ← List.append_assoc]
    exact ih hevent hrest

/-- A type is registered, with a warning if one is held already. -/
theorem Agrees.register (h : ledger.Agrees log held) {registration : Event} {value : α}
    (hregistered : ledger.registered? registration = some value)
    (hreplaces : ledger.replaces registration = false)
    (hwarning : ∀ previous, ledger.registered? (ledger.warning previous) = none ∧
      ledger.replaces (ledger.warning previous)) :
    ledger.Agrees (log ++ ([registration] ++ (held.map ledger.warning).toList)) (some value) := by
  have hheld := h.held_eq
  have hlost := h.lost
  have hplaces : ledger.WarnsInPlace (log ++ [registration]) := by
    refine h.places.concat fun htrue => ?_
    rw [hreplaces] at htrue
    cases htrue
  rw [← List.append_assoc]
  cases held with
  | none =>
    have hnil : ledger.registered log = [] := List.getLast?_eq_none_iff.mp hheld.symm
    refine ⟨?_, ?_, by rwa [Option.map_none, Option.toList_none, List.append_nil]⟩
    · simp [hregistered]
    · simpa [hregistered, hreplaces, hnil] using hlost
  | some previous =>
    obtain ⟨hsilent, hwarns⟩ := hwarning previous
    have hpositive : 0 < (ledger.registered log).length := by
      refine List.length_pos_iff.mpr fun hnil => ?_
      rw [hnil] at hheld
      cases hheld
    refine ⟨?_, ?_, hplaces.concat fun _ => ?_⟩
    · simp [hregistered, hsilent]
    · simp [hregistered, hreplaces, hsilent, hwarns, hlost]
      omega
    · exact ⟨log, registration, value, previous, rfl, hregistered, hheld.symm, rfl⟩

theorem Agrees.isSome_iff (h : ledger.Agrees log held) :
    held.isSome ↔ ∃ value, value ∈ ledger.registered log := by
  rw [h.held_eq, List.getLast?_isSome]
  exact ⟨List.exists_mem_of_ne_nil _, fun ⟨value, hvalue⟩ => List.ne_nil_of_mem hvalue⟩

/-- Every registration but that of the type held now has a warning. -/
theorem Agrees.length_registered (h : ledger.Agrees log held) (hheld : held.isSome) :
    (ledger.registered log).length = log.countP ledger.replaces + 1 := by
  rw [h.held_eq, List.getLast?_isSome] at hheld
  have hpositive := List.length_pos_iff.mpr hheld
  have hlost := h.lost
  omega

theorem Agrees.warnsAfter (h : ledger.Agrees log held) {before after : List Event} {event : Event}
    (hlog : log = before ++ event :: after) (hreplaces : ledger.replaces event) :
    ledger.WarnsAfter before event :=
  h.places before event ⟨after, by rw [hlog, List.append_assoc, List.singleton_append]⟩ hreplaces

theorem mem_registered_fields {name kind : String} :
    kind ∈ (fields name).registered log ↔ .registeringField name kind ∈ log := by
  simp [registered, fields, Event.fieldKind?_eq_some_iff]

theorem mem_registered_structures {name : String} {members : Nat} :
    members ∈ (structures name).registered log ↔ .registeringStructure name members ∈ log := by
  simp [registered, structures, Event.memberCount?_eq_some_iff]

end Ledger

namespace Catalog

def heldKind? (catalog : Catalog) (name : String) : Option String :=
  (catalog.field? name).map Field.kind

def heldMembers? (catalog : Catalog) (name : String) : Option Nat :=
  (catalog.structure? name).map (·.members.size)

/-- A log accounts for what a catalog holds under a name: for its field, for its structure, and
for there being both. -/
structure AccountedFor (catalog : Catalog) (log : List Event) (name : String) : Prop where
  field : (Ledger.fields name).Agrees log (catalog.heldKind? name)
  record : (Ledger.structures name).Agrees log (catalog.heldMembers? name)
  shared : ((catalog.field? name).isSome ∧ (catalog.structure? name).isSome) ↔
    .fieldSharesName name ∈ log ∨ .structureSharesName name ∈ log

variable {catalog : Catalog} {log : List Event} {name : String}

theorem accountedFor_empty (name : String) : empty.AccountedFor [] name :=
  ⟨Ledger.agrees_nil, Ledger.agrees_nil, by simp [field?, empty]⟩

/-- No other step than one that registers a field of its name speaks of the fields of a name. -/
theorem silent_fields {step : Step} (h : ∀ field, step ≠ .field name field) :
    ∀ event ∈ catalog.eventsOf step, (Ledger.fields name).registered? event = none ∧
      (Ledger.fields name).replaces event = false := by
  cases step with
  | field other field =>
    have hname : other ≠ name := fun heq => h field (heq ▸ rfl)
    cases hfield : catalog.field? other <;> cases hrecord : catalog.structure? other <;>
      simp [eventsOf, Ledger.fields, Event.fieldKind?, Event.replacesField, hname, hfield, hrecord]
  | «structure» other record =>
    cases hfield : catalog.field? other <;> cases hrecord : catalog.structure? other <;>
      simp [eventsOf, Ledger.fields, Event.fieldKind?, Event.replacesField, hfield, hrecord]
  | _ => simp [eventsOf, Ledger.fields, Event.fieldKind?, Event.replacesField]

theorem heldKind?_apply_of_ne {step : Step} (h : ∀ field, step ≠ .field name field) :
    (catalog.apply step).heldKind? name = catalog.heldKind? name := by
  cases step with
  | field other field =>
    have hname : name ≠ other := fun heq => h field (heq ▸ rfl)
    simp [heldKind?, apply, field?, addField, hname]
  | _ => rfl

theorem agrees_fields_apply (h : (Ledger.fields name).Agrees log (catalog.heldKind? name))
    (step : Step) : (Ledger.fields name).Agrees (log ++ catalog.eventsOf step)
      ((catalog.apply step).heldKind? name) := by
  by_cases hstep : ∃ field, step = .field name field
  · obtain ⟨field, rfl⟩ := hstep
    have hregistered : (Ledger.fields name).registered? (.registeringField name field.kind) =
        some field.kind := by simp [Ledger.fields, Event.fieldKind?]
    have hregister := h.register hregistered rfl fun previous =>
      ⟨rfl, by simp [Ledger.fields, Event.replacesField]⟩
    have hheld : (catalog.apply (.field name field)).heldKind? name = some field.kind := by
      simp [heldKind?, apply, field?, addField]
    rw [heldKind?, Option.map_map] at hregister
    rw [hheld, eventsOf, ← List.append_assoc]
    exact hregister.silent (by simp [Ledger.fields, Event.fieldKind?, Event.replacesField])
  · have hother : ∀ field, step ≠ .field name field := fun field heq => hstep ⟨field, heq⟩
    rw [heldKind?_apply_of_ne hother]
    exact h.silent (silent_fields hother)

/-- No other step than one that registers a structure of its name speaks of the structures of a
name. -/
theorem silent_structures {step : Step} (h : ∀ record, step ≠ .structure name record) :
    ∀ event ∈ catalog.eventsOf step, (Ledger.structures name).registered? event = none ∧
      (Ledger.structures name).replaces event = false := by
  cases step with
  | field other field =>
    cases hfield : catalog.field? other <;> cases hrecord : catalog.structure? other <;>
      simp [eventsOf, Ledger.structures, Event.memberCount?, Event.replacesStructure, hfield,
        hrecord]
  | «structure» other record =>
    have hname : other ≠ name := fun heq => h record (heq ▸ rfl)
    cases hfield : catalog.field? other <;> cases hrecord : catalog.structure? other <;>
      simp [eventsOf, Ledger.structures, Event.memberCount?, Event.replacesStructure, hname,
        hfield, hrecord]
  | _ => simp [eventsOf, Ledger.structures, Event.memberCount?, Event.replacesStructure]

theorem heldMembers?_apply_of_ne {step : Step} (h : ∀ record, step ≠ .structure name record) :
    (catalog.apply step).heldMembers? name = catalog.heldMembers? name := by
  cases step with
  | «structure» other record =>
    have hname : name ≠ other := fun heq => h record (heq ▸ rfl)
    simp [heldMembers?, apply, structure?, addStructure, hname]
  | _ => rfl

theorem agrees_structures_apply
    (h : (Ledger.structures name).Agrees log (catalog.heldMembers? name)) (step : Step) :
    (Ledger.structures name).Agrees (log ++ catalog.eventsOf step)
      ((catalog.apply step).heldMembers? name) := by
  by_cases hstep : ∃ record, step = .structure name record
  · obtain ⟨record, rfl⟩ := hstep
    have hregistered : (Ledger.structures name).registered?
        (.registeringStructure name record.members.size) = some record.members.size := by
      simp [Ledger.structures, Event.memberCount?]
    have hregister := h.register hregistered rfl fun previous =>
      ⟨rfl, by simp [Ledger.structures, Event.replacesStructure]⟩
    have hheld : (catalog.apply (.structure name record)).heldMembers? name =
        some record.members.size := by
      simp [heldMembers?, apply, structure?, addStructure]
    have hwarning : ((catalog.heldMembers? name).map (Ledger.structures name).warning).toList =
        if (catalog.structure? name).isSome then [.structureReplaced name] else [] := by
      rw [heldMembers?]
      cases catalog.structure? name <;> rfl
    rw [hwarning] at hregister
    rw [hheld, eventsOf, ← List.append_assoc]
    exact hregister.silent (by simp [Ledger.structures, Event.memberCount?, Event.replacesStructure])
  · have hother : ∀ record, step ≠ .structure name record :=
      fun record heq => hstep ⟨record, heq⟩
    rw [heldMembers?_apply_of_ne hother]
    exact h.silent (silent_structures hother)

theorem isSome_field?_apply {step : Step} : ((catalog.apply step).field? name).isSome ↔
    (∃ field, step = .field name field) ∨ (catalog.field? name).isSome := by
  cases step with
  | field other field =>
    obtain rfl | hname := eq_or_ne other name
    · simp [apply, field?, addField]
    · simp [apply, field?, addField, hname, hname.symm]
  | _ => simp [apply, field?, addStructure]

theorem isSome_structure?_apply {step : Step} : ((catalog.apply step).structure? name).isSome ↔
    (∃ record, step = .structure name record) ∨ (catalog.structure? name).isSome := by
  cases step with
  | «structure» other record =>
    obtain rfl | hname := eq_or_ne other name
    · simp [apply, structure?, addStructure]
    · simp [apply, structure?, addStructure, hname, hname.symm]
  | _ => simp [apply, structure?, addField]

theorem fieldSharesName_mem_eventsOf {step : Step} :
    .fieldSharesName name ∈ catalog.eventsOf step ↔
      (∃ field, step = .field name field) ∧ (catalog.structure? name).isSome := by
  cases step with
  | field other field =>
    obtain rfl | hname := eq_or_ne other name
    · simp [eventsOf]
    · simp [eventsOf, hname, hname.symm]
  | _ => simp [eventsOf]

theorem structureSharesName_mem_eventsOf {step : Step} :
    .structureSharesName name ∈ catalog.eventsOf step ↔
      (∃ record, step = .structure name record) ∧ (catalog.field? name).isSome := by
  cases step with
  | «structure» other record =>
    obtain rfl | hname := eq_or_ne other name
    · simp [eventsOf]
    · simp [eventsOf, hname, hname.symm]
  | _ => simp [eventsOf]

/-- What a log accounts for it accounts for after one more step. -/
theorem AccountedFor.apply (h : catalog.AccountedFor log name) (step : Step) :
    (catalog.apply step).AccountedFor (log ++ catalog.eventsOf step) name := by
  refine ⟨agrees_fields_apply h.field step, agrees_structures_apply h.record step, ?_⟩
  have hshared := h.shared
  have hone : ¬ ((∃ field, step = .field name field) ∧ ∃ record, step = .structure name record) := by
    rintro ⟨⟨field, rfl⟩, record, heq⟩
    cases heq
  rw [isSome_field?_apply, isSome_structure?_apply, List.mem_append, List.mem_append,
    fieldSharesName_mem_eventsOf, structureSharesName_mem_eventsOf]
  tauto

theorem AccountedFor.applyAll (h : catalog.AccountedFor log name) (steps : List Step) :
    (catalog.applyAll steps).AccountedFor (log ++ catalog.log steps) name := by
  induction steps generalizing catalog log with
  | nil => rwa [Catalog.log, List.append_nil]
  | cons step rest ih =>
    rw [Catalog.log, ← List.append_assoc]
    exact ih (h.apply step)

end Catalog

namespace Builder

/-- Calls in a row play the steps of one walk after another, to wherever each of them comes. -/
theorem run_runCalls_eq_after (calls : List Call) (builder : Builder) :
    ((runCalls calls).run builder).2 = builder.after
      (calls.flatMap fun call => (call.walk builder.settings builder.title).steps) := by
  induction calls generalizing builder with
  | nil => exact builder.after_nil.symm
  | cons call rest ih =>
    rw [run_runCalls_cons, ih, call.run_part, List.flatMap_cons, after_append]
    rfl

theorem accountedFor_run_runCalls (settings : Settings) (title : Option String)
    (calls : List Call) (name : String) :
    let builder := ((runCalls calls).run (start settings title .empty)).2
    builder.catalog.AccountedFor builder.log name := by
  intro builder
  have hbuilder : builder = (start settings title .empty).after _ := run_runCalls_eq_after calls _
  rw [hbuilder]
  exact (Catalog.accountedFor_empty name).applyAll _

/-- The log accounts for every registration and every loss. Whatever calls a builder takes from an
empty catalog, and however they end: under each name there is a field if the log registers one, and
then one more registration than warnings that a field was replaced; the field has the kind that was
registered last, and each warning stands right behind a registration and tells the kind of the one
before that. So it is with structures and the number of their members; and a name has both a field
and a structure if the log warns that it is shared. -/
theorem log_accounts (settings : Settings) (title : Option String) (calls : List Call)
    (name : String) :
    let builder := ((runCalls calls).run (start settings title .empty)).2
    let kinds := builder.log.filterMap (Event.fieldKind? name)
    let counts := builder.log.filterMap (Event.memberCount? name)
    ((builder.catalog.field? name).isSome ↔
      ∃ kind, .registeringField name kind ∈ builder.log) ∧
    ((builder.catalog.field? name).isSome →
      kinds.length = builder.log.countP (Event.replacesField name) + 1) ∧
    (builder.catalog.field? name).map Field.kind = kinds.getLast? ∧
    (∀ before previous after, builder.log = before ++ .fieldReplaced name previous :: after →
      ∃ earlier kind, before = earlier ++ [.registeringField name kind] ∧
        (earlier.filterMap (Event.fieldKind? name)).getLast? = some previous) ∧
    ((builder.catalog.structure? name).isSome ↔
      ∃ members, .registeringStructure name members ∈ builder.log) ∧
    ((builder.catalog.structure? name).isSome →
      counts.length = builder.log.countP (Event.replacesStructure name) + 1) ∧
    (builder.catalog.structure? name).map (·.members.size) = counts.getLast? ∧
    (∀ before after, builder.log = before ++ .structureReplaced name :: after →
      ∃ earlier members, before = earlier ++ [.registeringStructure name members] ∧
        ∃ previous, .registeringStructure name previous ∈ earlier) ∧
    (((builder.catalog.field? name).isSome ∧ (builder.catalog.structure? name).isSome) ↔
      .fieldSharesName name ∈ builder.log ∨ .structureSharesName name ∈ builder.log) := by
  intro builder
  have haccounts : builder.catalog.AccountedFor builder.log name :=
    accountedFor_run_runCalls settings title calls name
  -- From here on it does not matter how the builder came about.
  clear_value builder
  obtain ⟨hfield, hrecord, hshared⟩ := haccounts
  intro kinds counts
  have hfieldHeld : (builder.catalog.heldKind? name).isSome =
      (builder.catalog.field? name).isSome := Option.isSome_map
  have hrecordHeld : (builder.catalog.heldMembers? name).isSome =
      (builder.catalog.structure? name).isSome := Option.isSome_map
  refine ⟨?_, ?_, hfield.held_eq, ?_, ?_, ?_, hrecord.held_eq, ?_, hshared⟩
  · simp only [← hfieldHeld, hfield.isSome_iff, Ledger.mem_registered_fields]
  · intro hsome
    exact hfield.length_registered (hfieldHeld ▸ hsome)
  · intro before previous after hlog
    obtain ⟨earlier, registration, kind, last, hbefore, hkind, hlast, hevent⟩ :=
      hfield.warnsAfter hlog (by simp [Ledger.fields, Event.replacesField])
    obtain rfl := Event.fieldKind?_eq_some_iff.mp hkind
    obtain ⟨-, rfl⟩ := Event.fieldReplaced.inj hevent
    exact ⟨earlier, kind, hbefore, hlast⟩
  · simp only [← hrecordHeld, hrecord.isSome_iff, Ledger.mem_registered_structures]
  · intro hsome
    exact hrecord.length_registered (hrecordHeld ▸ hsome)
  · intro before after hlog
    obtain ⟨earlier, registration, members, last, hbefore, hmembers, hlast, -⟩ :=
      hrecord.warnsAfter hlog (by simp [Ledger.structures, Event.replacesStructure])
    obtain rfl := Event.memberCount?_eq_some_iff.mp hmembers
    exact ⟨earlier, members, hbefore, last,
      Ledger.mem_registered_structures.mp (List.mem_of_getLast? hlast)⟩

/-- A text takes the place of a flag, with a call between them that fails, and at last a structure
shares their name. -/
theorem log_accounts_replaced :
    let text : StringShape := ⟨0, none, none, none, none, []⟩
    let calls : List Call := [.dispatch "T" ⟨.boolean, none⟩, .dispatch "T" ⟨.fragment, none⟩,
      .dispatch "T" ⟨.string text, none⟩, .component "T" ⟨.object [] [] .undeclared, none⟩]
    let builder := ((runCalls calls).run (start ⟨.default, none⟩ none .empty)).2
    builder.log.filterMap (Event.fieldKind? "T") = ["boolean", "string"] ∧
      builder.log.countP (Event.replacesField "T") = 1 ∧
      (builder.catalog.field? "T").map Field.kind = some "string" ∧
      (builder.catalog.structure? "T").map (·.members.size) = some 0 ∧
      (.fieldSharesName "T" ∈ builder.log ∨ .structureSharesName "T" ∈ builder.log) := by
  intro text calls builder
  obtain ⟨hfield, hcount, hkind, -, hrecord, -, hmembers, -, hshared⟩ :=
    log_accounts ⟨.default, none⟩ none calls "T"
  have hkinds : builder.log.filterMap (Event.fieldKind? "T") = ["boolean", "string"] := by
    decide +kernel
  have hcounts : builder.log.filterMap (Event.memberCount? "T") = [0] := by decide +kernel
  have hfieldLogged : .registeringField "T" "boolean" ∈ builder.log := by decide +kernel
  have hrecordLogged : .registeringStructure "T" 0 ∈ builder.log := by decide +kernel
  have hsomeField := hfield.mpr ⟨"boolean", hfieldLogged⟩
  have hsomeRecord := hrecord.mpr ⟨0, hrecordLogged⟩
  have hlength := hcount hsomeField
  rw [hkinds] at hlength hkind
  rw [hcounts] at hmembers
  exact ⟨hkinds, Nat.succ.inj hlength.symm, hkind, hmembers, hshared.mp ⟨hsomeField, hsomeRecord⟩⟩

end Builder

end SchemaCatalog

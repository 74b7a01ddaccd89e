import SchemaCatalog.Proofs.NameMap
import SchemaCatalog.Catalog.Log

/-!
What steps leave in a catalog. Fields and structures are kept apart: of each the last
registration of a name is found, and what was there before is found where nothing is registered.
-/
namespace SchemaCatalog

namespace Step

def field? : Step → Option (String × Field)
  | .field name type => some (name, type)
  | _ => none

def structure? : Step → Option (String × Structure)
  | .structure name record => some (name, record)
  | _ => none

/-- The name under which a step registers a type. -/
def registeredName? : Step → Option String
  | .field name _ | .structure name _ => some name
  | .skip _ | .enter .. => none

def registers (step : Step) : Bool := step.registeredName?.isSome

end Step

namespace Catalog

variable (catalog : Catalog)

@[simp] theorem applyAll_nil : catalog.applyAll [] = catalog := rfl

theorem applyAll_cons (step : Step) (rest : List Step) :
    catalog.applyAll (step :: rest) = (catalog.apply step).applyAll rest := rfl

theorem applyAll_append (xs ys : List Step) :
    catalog.applyAll (xs ++ ys) = (catalog.applyAll xs).applyAll ys :=
  List.foldl_append

theorem log_append (xs ys : List Step) :
    catalog.log (xs ++ ys) = catalog.log xs ++ (catalog.applyAll xs).log ys := by
  induction xs generalizing catalog with
  | nil => rfl
  | cons x xs ih =>
    rw [List.cons_append, log, ih, log, List.append_assoc]
    rfl

theorem applyAll_filter_registers (steps : List Step) :
    catalog.applyAll (steps.filter Step.registers) = catalog.applyAll steps := by
  induction steps generalizing catalog with
  | nil => rfl
  | cons step rest ih =>
    cases step <;> exact ih _

theorem fields_applyAll (steps : List Step) :
    (catalog.applyAll steps).fields =
      (steps.filterMap Step.field?).foldl (fun m p => m.insert p.1 p.2) catalog.fields := by
  induction steps generalizing catalog with
  | nil => rfl
  | cons step rest ih =>
    rw [applyAll_cons, ih]
    cases step <;> rfl

theorem structures_applyAll (steps : List Step) :
    (catalog.applyAll steps).structures =
      (steps.filterMap Step.structure?).foldl (fun m p => m.insert p.1 p.2)
        catalog.structures := by
  induction steps generalizing catalog with
  | nil => rfl
  | cons step rest ih =>
    rw [applyAll_cons, ih]
    cases step <;> rfl

theorem field?_applyAll (steps : List Step) (name : String) :
    (catalog.applyAll steps).field? name =
      (NameMap.findLast? name (steps.filterMap Step.field?)).or (catalog.field? name) := by
  rw [field?, fields_applyAll, NameMap.find?_foldl_insert]
  rfl

theorem structure?_applyAll (steps : List Step) (name : String) :
    (catalog.applyAll steps).structure? name =
      (NameMap.findLast? name (steps.filterMap Step.structure?)).or
        (catalog.structure? name) := by
  rw [structure?, structures_applyAll, NameMap.find?_foldl_insert]
  rfl

theorem mem_of_field?_eq_some {steps : List Step} {name : String} {field : Field}
    (h : (empty.applyAll steps).field? name = some field) : .field name field ∈ steps := by
  rw [field?_applyAll] at h
  have hlast : NameMap.findLast? name (steps.filterMap Step.field?) = some field :=
    (Option.or_none ▸ h :)
  obtain ⟨step, hstep, heq⟩ := List.mem_filterMap.mp (NameMap.mem_of_findLast?_eq_some hlast)
  cases step <;> cases heq
  exact hstep

theorem mem_of_structure?_eq_some {steps : List Step} {name : String} {record : Structure}
    (h : (empty.applyAll steps).structure? name = some record) :
    .structure name record ∈ steps := by
  rw [structure?_applyAll] at h
  have hlast : NameMap.findLast? name (steps.filterMap Step.structure?) = some record :=
    (Option.or_none ▸ h :)
  obtain ⟨step, hstep, heq⟩ := List.mem_filterMap.mp (NameMap.mem_of_findLast?_eq_some hlast)
  cases step <;> cases heq
  exact hstep

theorem apply_of_registeredName?_eq_none {step : Step} (h : step.registeredName? = none) :
    catalog.apply step = catalog := by
  cases step with
  | field name field => cases h
  | «structure» name record => cases h
  | _ => rfl

theorem contains_apply {step : Step} {name : String} (h : step.registeredName? = some name)
    (other : String) :
    (catalog.apply step).contains other = (decide (other = name) || catalog.contains other) := by
  cases step with
  | field name field =>
    cases h
    simp only [apply, contains, addField, NameMap.contains_insert, Bool.or_assoc]
  | «structure» name record =>
    cases h
    simp only [apply, contains, addStructure, NameMap.contains_insert, Bool.or_left_comm]
  | _ => cases h

/-- The names of a catalog are those that steps have registered. -/
theorem contains_applyAll_iff {steps : List Step} {name : String} :
    (catalog.applyAll steps).contains name ↔
      name ∈ steps.filterMap Step.registeredName? ∨ catalog.contains name := by
  induction steps generalizing catalog with
  | nil => simp
  | cons step rest ih =>
    rw [applyAll_cons, ih]
    cases hname : step.registeredName? with
    | none =>
      rw [catalog.apply_of_registeredName?_eq_none hname, List.filterMap_cons_none hname]
    | some other =>
      rw [catalog.contains_apply hname, List.filterMap_cons_some hname]
      simp [or_assoc, or_left_comm]

/-- A catalog is what it finds. -/
theorem eq_of_find_eq {catalog other : Catalog}
    (hfields : ∀ name, catalog.field? name = other.field? name)
    (hstructures : ∀ name, catalog.structure? name = other.structure? name) :
    catalog = other := by
  obtain ⟨fields, structures⟩ := catalog
  obtain ⟨otherFields, otherStructures⟩ := other
  obtain rfl : fields = otherFields := NameMap.eq_of_find?_eq hfields
  obtain rfl : structures = otherStructures := NameMap.eq_of_find?_eq hstructures
  rfl

/-- The same steps once more change nothing. -/
theorem applyAll_applyAll (steps : List Step) :
    (catalog.applyAll steps).applyAll steps = catalog.applyAll steps := by
  refine eq_of_find_eq (fun name => ?_) fun name => ?_
  · rw [field?_applyAll, field?_applyAll, ← Option.or_assoc, Option.or_self]
  · rw [structure?_applyAll, structure?_applyAll, ← Option.or_assoc, Option.or_self]

private theorem findLast?_or_comm {α : Type} {xs ys : List (String × α)} (name : String)
    (h : ∀ x ∈ xs, ∀ y ∈ ys, x.1 ≠ y.1) (old : Option α) :
    (NameMap.findLast? name ys).or ((NameMap.findLast? name xs).or old) =
      (NameMap.findLast? name xs).or ((NameMap.findLast? name ys).or old) := by
  cases hxs : NameMap.findLast? name xs with
  | none => rfl
  | some value =>
    have hmem := NameMap.mem_of_findLast?_eq_some hxs
    have hys : NameMap.findLast? name ys = none :=
      NameMap.findLast?_eq_none_iff.mpr fun y hy => (h _ hmem y hy).symm
    rw [hys]
    rfl

theorem registeredName?_of_field? {step : Step} {p : String × Field} (h : step.field? = some p) :
    step.registeredName? = some p.1 := by
  cases step <;> cases h
  rfl

theorem registeredName?_of_structure? {step : Step} {p : String × Structure}
    (h : step.structure? = some p) : step.registeredName? = some p.1 := by
  cases step <;> cases h
  rfl

/-- Steps that register no name in common can change places. -/
theorem applyAll_comm {xs ys : List Step}
    (h : ∀ x ∈ xs.filterMap Step.registeredName?, x ∉ ys.filterMap Step.registeredName?) :
    (catalog.applyAll xs).applyAll ys = (catalog.applyAll ys).applyAll xs := by
  have hnames : ∀ x ∈ xs, ∀ y ∈ ys, ∀ {name}, x.registeredName? = some name →
      y.registeredName? ≠ some name := by
    intro x hx y hy name hxname hyname
    exact h name (List.mem_filterMap.mpr ⟨x, hx, hxname⟩)
      (List.mem_filterMap.mpr ⟨y, hy, hyname⟩)
  refine eq_of_find_eq (fun name => ?_) fun name => ?_
  · simp only [field?_applyAll]
    refine findLast?_or_comm name ?_ _
    rintro p hp q hq heq
    obtain ⟨x, hx, hxp⟩ := List.mem_filterMap.mp hp
    obtain ⟨y, hy, hyq⟩ := List.mem_filterMap.mp hq
    exact hnames x hx y hy (registeredName?_of_field? hxp)
      (heq ▸ registeredName?_of_field? hyq)
  · simp only [structure?_applyAll]
    refine findLast?_or_comm name ?_ _
    rintro p hp q hq heq
    obtain ⟨x, hx, hxp⟩ := List.mem_filterMap.mp hp
    obtain ⟨y, hy, hyq⟩ := List.mem_filterMap.mp hq
    exact hnames x hx y hy (registeredName?_of_structure? hxp)
      (heq ▸ registeredName?_of_structure? hyq)

/-- A catalog holds exactly what a step registers under its name. -/
def Holds (catalog : Catalog) : Step → Prop
  | .field name field => catalog.field? name = some field ∧ catalog.structure? name = none
  | .structure name record =>
      catalog.structure? name = some record ∧ catalog.field? name = none
  | .skip _ | .enter .. => True

theorem find_applyAll_of_notMem {steps : List Step} {name : String}
    (h : name ∉ steps.filterMap Step.registeredName?) :
    (catalog.applyAll steps).field? name = catalog.field? name ∧
      (catalog.applyAll steps).structure? name = catalog.structure? name := by
  have hname : ∀ step ∈ steps, step.registeredName? ≠ some name :=
    fun step hstep heq => h (List.mem_filterMap.mpr ⟨step, hstep, heq⟩)
  have hfield : NameMap.findLast? name (steps.filterMap Step.field?) = none := by
    refine NameMap.findLast?_eq_none_iff.mpr fun p hp heq => ?_
    obtain ⟨step, hstep, hsome⟩ := List.mem_filterMap.mp hp
    exact hname step hstep (heq ▸ registeredName?_of_field? hsome)
  have hstructure : NameMap.findLast? name (steps.filterMap Step.structure?) = none := by
    refine NameMap.findLast?_eq_none_iff.mpr fun p hp heq => ?_
    obtain ⟨step, hstep, hsome⟩ := List.mem_filterMap.mp hp
    exact hname step hstep (heq ▸ registeredName?_of_structure? hsome)
  rw [field?_applyAll, structure?_applyAll, hfield, hstructure]
  exact ⟨Option.none_or, Option.none_or⟩

/-- If all names are different, each is found as it was registered. -/
theorem holds_of_nodup {steps : List Step}
    (hnodup : (steps.filterMap Step.registeredName?).Nodup) {step : Step} (hstep : step ∈ steps) :
    (empty.applyAll steps).Holds step := by
  obtain ⟨before, after, rfl⟩ := List.append_of_mem hstep
  rw [List.filterMap_append] at hnodup
  obtain ⟨-, hrest, hdisjoint⟩ := List.nodup_append.mp hnodup
  rw [applyAll_append, applyAll_cons]
  cases step with
  | field name field =>
    have hafter := (List.nodup_cons.mp hrest).1
    have hbefore : name ∉ before.filterMap Step.registeredName? :=
      fun hmem => hdisjoint name hmem name List.mem_cons_self rfl
    have hlater := ((empty.applyAll before).addField name field).find_applyAll_of_notMem hafter
    refine ⟨hlater.1.trans ?_, hlater.2.trans (find_applyAll_of_notMem empty hbefore).2⟩
    simp [field?, addField]
  | «structure» name record =>
    have hafter := (List.nodup_cons.mp hrest).1
    have hbefore : name ∉ before.filterMap Step.registeredName? :=
      fun hmem => hdisjoint name hmem name List.mem_cons_self rfl
    have hlater :=
      ((empty.applyAll before).addStructure name record).find_applyAll_of_notMem hafter
    refine ⟨hlater.2.trans ?_, hlater.1.trans (find_applyAll_of_notMem empty hbefore).1⟩
    simp [structure?, addStructure]
  | _ => trivial

/-- Taking a step without a warning means that its name is new. -/
theorem contains_eq_false_of_no_warning {step : Step} {name : String}
    (hname : step.registeredName? = some name)
    (h : ∀ event ∈ catalog.eventsOf step, event.isWarning = false) :
    catalog.contains name = false := by
  have hnone : catalog.field? name = none ∧ catalog.structure? name = none := by
    cases step with
    | field other field =>
      cases hname
      cases hfield : catalog.field? name <;> cases hrecord : catalog.structure? name <;>
        simp_all [eventsOf, Event.isWarning]
    | «structure» other record =>
      cases hname
      cases hfield : catalog.field? name <;> cases hrecord : catalog.structure? name <;>
        simp_all [eventsOf, Event.isWarning]
    | _ => cases hname
  have hfields : catalog.fields.find? name = none := hnone.1
  have hstructures : catalog.structures.find? name = none := hnone.2
  simp [contains, NameMap.contains, hfields, hstructures]

/-- Without a warning no name is registered twice, nor one that the catalog has already. -/
theorem nodup_of_no_warning {steps : List Step}
    (h : ∀ event ∈ catalog.log steps, event.isWarning = false) :
    (steps.filterMap Step.registeredName?).Nodup ∧
      ∀ name ∈ steps.filterMap Step.registeredName?, catalog.contains name = false := by
  induction steps generalizing catalog with
  | nil => simp
  | cons step rest ih =>
    obtain ⟨hstep, hlater⟩ := List.forall_mem_append.mp h
    obtain ⟨hnodup, hnew⟩ := ih _ hlater
    cases hname : step.registeredName? with
    | none =>
      rw [List.filterMap_cons_none hname]
      rw [catalog.apply_of_registeredName?_eq_none hname] at hnew
      exact ⟨hnodup, hnew⟩
    | some name =>
      rw [List.filterMap_cons_some hname]
      have hfresh := catalog.contains_eq_false_of_no_warning hname hstep
      have hlaterNames : ∀ other ∈ rest.filterMap Step.registeredName?,
          other ≠ name ∧ catalog.contains other = false := by
        intro other hmem
        have hother := hnew other hmem
        rw [catalog.contains_apply hname] at hother
        simpa using hother
      refine ⟨List.nodup_cons.mpr ⟨fun hmem => (hlaterNames name hmem).1 rfl, hnodup⟩, ?_⟩
      exact List.forall_mem_cons.mpr ⟨hfresh, fun other hmem => (hlaterNames other hmem).2⟩

theorem size_apply {step : Step} {name : String} (hname : step.registeredName? = some name)
    (hnew : catalog.contains name = false) : (catalog.apply step).size = catalog.size + 1 := by
  have hnone : catalog.fields.find? name = none ∧ catalog.structures.find? name = none := by
    simpa [contains, NameMap.contains] using hnew
  cases step with
  | field other field =>
    cases hname
    have hsize := NameMap.size_insert_of_find?_eq_none field hnone.1
    simp only [apply, size, addField, hsize]
    omega
  | «structure» other record =>
    cases hname
    have hsize := NameMap.size_insert_of_find?_eq_none record hnone.2
    simp only [apply, size, addStructure, hsize]
    omega
  | _ => cases hname

/-- New names that are all different make a catalog larger by their number. -/
theorem size_applyAll {steps : List Step}
    (hnodup : (steps.filterMap Step.registeredName?).Nodup)
    (hnew : ∀ name ∈ steps.filterMap Step.registeredName?, catalog.contains name = false) :
    (catalog.applyAll steps).size =
      catalog.size + (steps.filterMap Step.registeredName?).length := by
  induction steps generalizing catalog with
  | nil => rfl
  | cons step rest ih =>
    rw [applyAll_cons]
    cases hname : step.registeredName? with
    | none =>
      rw [List.filterMap_cons_none hname] at hnodup hnew ⊢
      rw [catalog.apply_of_registeredName?_eq_none hname]
      exact ih _ hnodup hnew
    | some name =>
      rw [List.filterMap_cons_some hname] at hnodup hnew ⊢
      obtain ⟨hfresh, hrest⟩ := List.forall_mem_cons.mp hnew
      obtain ⟨hnotMem, hnodupRest⟩ := List.nodup_cons.mp hnodup
      have hlater : ∀ other ∈ rest.filterMap Step.registeredName?,
          (catalog.apply step).contains other = false := by
        intro other hmem
        have hne : other ≠ name := fun heq => hnotMem (heq ▸ hmem)
        simp [catalog.contains_apply hname, hne, hrest other hmem]
      rw [ih _ hnodupRest hlater, catalog.size_apply hname hfresh, List.length_cons]
      omega

end Catalog

end SchemaCatalog

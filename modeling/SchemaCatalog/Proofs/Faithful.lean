import SchemaCatalog.Proofs.Children
import Mathlib.Logic.Relation
import Mathlib.Data.List.Nodup

/-!
Builds without warnings. If nothing in the log of a build warns of a name that is taken, then the
catalog is the tree of the document: it has one type for each node that is not a reference, as it
was made of the node, and the names in a type lead to the children of its node.
-/
namespace SchemaCatalog

/-- The name in a note of a registration. -/
def Event.registeredName? : Event → Option String
  | .registeringField name _ | .registeringStructure name _ => some name
  | _ => none

namespace Catalog

variable (catalog : Catalog)

theorem registeredName?_eventsOf (step : Step) :
    (catalog.eventsOf step).filterMap Event.registeredName? = step.registeredName?.toList := by
  cases step with
  | field name field =>
    cases hfield : catalog.field? name <;> cases hrecord : catalog.structure? name <;>
      simp [eventsOf, hfield, hrecord, Event.registeredName?, Step.registeredName?]
  | «structure» name record =>
    cases hfield : catalog.field? name <;> cases hrecord : catalog.structure? name <;>
      simp [eventsOf, hfield, hrecord, Event.registeredName?, Step.registeredName?]
  | _ => rfl

/-- The log names all registrations in their order. -/
theorem registeredName?_log (steps : List Step) :
    (catalog.log steps).filterMap Event.registeredName? =
      steps.filterMap Step.registeredName? := by
  induction steps generalizing catalog with
  | nil => rfl
  | cons step rest ih =>
    rw [log, List.filterMap_append, ih, registeredName?_eventsOf]
    cases hname : step.registeredName? with
    | none => rw [List.filterMap_cons_none hname]; rfl
    | some name => rw [List.filterMap_cons_some hname]; rfl

/-- A catalog keeps a node if it holds what was made of the node under the node's name, and the
names in that are those of the node's children. -/
def Keeps (settings : Settings) (node : Node) : Prop :=
  ∃ step, node.step settings = some step ∧
    step.registeredName? = some (node.typeName settings.naming) ∧ catalog.Holds step ∧
    ∀ label, step.typeNameAt? label =
      (node.childAt? settings.naming label).map (·.typeName settings.naming)

end Catalog

namespace Document

/-- The nodes that are not references: those of which types are made. -/
def built (document : Document) (options : Options) : List Node :=
  (document.nodes options).filter fun node => !node.schema.isReference

variable {document : Document} {options : Options} {catalog : Catalog} {node child : Node}

theorem mem_built_iff :
    node ∈ document.built options ↔
      node ∈ document.nodes options ∧ node.schema.isReference = false := by
  rw [built, List.mem_filter, Bool.not_eq_true']

theorem registeredName?_step (hbuild : document.build options = .ok catalog)
    (hnode : node ∈ document.nodes options) :
    (node.step options.settings).bind Step.registeredName? =
      if node.schema.isReference then none else some (node.typeName options.settings.naming) := by
  cases hreference : node.schema.isReference with
  | true =>
    obtain ⟨path, target, description, hschema, -⟩ :=
      Schema.exists_target hreference (parts_ok hbuild hnode)
    rw [Node.step, hschema]
    rfl
  | false =>
    obtain ⟨step, hstep, hname⟩ := Schema.exists_step hreference (parts_ok hbuild hnode)
    rw [Node.step, hstep]
    exact hname

theorem registeredNames_eq (hbuild : document.build options = .ok catalog) :
    ((document.nodes options).filterMap (·.step options.settings)).filterMap
        Step.registeredName? =
      (document.built options).map (·.typeName options.settings.naming) := by
  rw [List.filterMap_filterMap, List.filterMap_congr fun node => registeredName?_step hbuild, built,
    ← List.filterMap_eq_map, List.filterMap_filter]
  refine List.filterMap_congr fun node _ => ?_
  cases node.schema.isReference <;> rfl

theorem buildLog_eq (hbuild : document.build options = .ok catalog) :
    document.buildLog options = Catalog.empty.log (document.walk options).steps ++
      [.built document.title catalog.fields.size catalog.structures.size] := by
  rw [buildLog_eq_walk, hbuild]

/-- The walk behind a build that ends well registers what the nodes do. -/
theorem registeredNames_walk (hbuild : document.build options = .ok catalog) :
    (document.walk options).steps.filterMap Step.registeredName? =
      (document.built options).map (·.typeName options.settings.naming) := by
  have hfindings := ((document.build_eq_ok_iff options).mp hbuild).1
  have hsteps := congrArg Walk.steps (document.registering_walk options)
  rw [Walk.follow_eq, hfindings, Finding.reached_map_ok] at hsteps
  change (document.walk options).steps.filter Step.registers =
    (document.nodes options).filterMap (·.step options.settings) at hsteps
  rw [← registeredNames_eq hbuild, ← hsteps, List.filterMap_filter]
  refine List.filterMap_congr fun step _ => ?_
  cases step <;> rfl

theorem nodup_typeNames (hbuild : document.build options = .ok catalog)
    (hlog : ∀ event ∈ document.buildLog options, event.isWarning = false) :
    ((document.built options).map (·.typeName options.settings.naming)).Nodup := by
  have hwalk : ∀ event ∈ Catalog.empty.log (document.walk options).steps,
      event.isWarning = false := fun event hevent =>
    hlog event (buildLog_eq hbuild ▸ List.mem_append_left _ hevent)
  rw [← registeredNames_walk hbuild]
  exact (Catalog.empty.nodup_of_no_warning hwalk).1

theorem keeps_of_nodup (hbuild : document.build options = .ok catalog)
    (hnodup : ((document.built options).map (·.typeName options.settings.naming)).Nodup)
    (hnode : node ∈ document.built options) : catalog.Keeps options.settings node := by
  obtain ⟨hmem, hreference⟩ := mem_built_iff.mp hnode
  obtain ⟨step, hstep, hname⟩ := Schema.exists_step hreference (parts_ok hbuild hmem)
  refine ⟨step, hstep, hname, ?_, fun label => Node.typeNameAt?_step hstep label⟩
  rw [← registeredNames_eq hbuild] at hnodup
  obtain ⟨-, rfl⟩ := (document.build_eq_ok_iff options).mp hbuild
  exact Catalog.holds_of_nodup hnodup (List.mem_filterMap.mpr ⟨node, hmem, hstep⟩)

theorem size_eq_of_nodup (hbuild : document.build options = .ok catalog)
    (hnodup : ((document.built options).map (·.typeName options.settings.naming)).Nodup) :
    catalog.size = (document.built options).length := by
  rw [← List.length_map (·.typeName options.settings.naming), ← registeredNames_eq hbuild]
  rw [← registeredNames_eq hbuild] at hnodup
  obtain ⟨-, rfl⟩ := (document.build_eq_ok_iff options).mp hbuild
  rw [Catalog.size_applyAll _ hnodup fun name _ => rfl]
  exact Nat.zero_add _

/-- A child is a node of which a type is made, or a reference by whose target it is named. -/
theorem built_or_reference (hbuild : document.build options = .ok catalog)
    (hnode : node ∈ document.nodes options) {label : Label}
    (h : node.childAt? options.settings.naming label = some child) :
    child ∈ document.built options ∨ ∃ path description, child.schema =
      ⟨.reference path (some (child.typeName options.settings.naming)), description⟩ := by
  have hchild := childAt?_mem_nodes hbuild hnode h
  cases hreference : child.schema.isReference with
  | false => exact .inl (mem_built_iff.mpr ⟨hchild, hreference⟩)
  | true =>
    obtain ⟨path, target, description, hschema, htype⟩ :=
      Schema.exists_target hreference (parts_ok hbuild hchild)
    refine .inr ⟨path, description, ?_⟩
    rw [Node.typeName, htype]
    exact hschema

theorem sizeOf_childAt?_lt {naming : Naming} {label : Label}
    (h : node.childAt? naming label = some child) : sizeOf child.schema < sizeOf node.schema := by
  obtain ⟨inner, hinner, rfl⟩ := Option.map_eq_some_iff.mp h
  have hpart := Schema.mem_parts_of_childAt? hinner
  have hlt : sizeOf inner.schema < sizeOf node.schema := Schema.sizeOf_lt_of_mem_parts hpart
  exact hlt

/-- Along references between types the schemas become smaller, if each name has one node. -/
theorem exists_smaller_of_refers (hbuild : document.build options = .ok catalog)
    (hnodup : ((document.built options).map (·.typeName options.settings.naming)).Nodup)
    (hreferences : ∀ node ∈ document.nodes options, node.schema.isReference = false)
    {owner name : String} (h : Relation.TransGen catalog.Refers owner name) :
    ∃ node ∈ document.built options, ∃ child ∈ document.built options,
      node.typeName options.settings.naming = owner ∧
      child.typeName options.settings.naming = name ∧
      sizeOf child.schema < sizeOf node.schema := by
  have hsingle : ∀ {owner name}, catalog.Refers owner name →
      ∃ node ∈ document.built options, ∃ child ∈ document.built options,
        node.typeName options.settings.naming = owner ∧
        child.typeName options.settings.naming = name ∧
        sizeOf child.schema < sizeOf node.schema := by
    intro owner name hrefers
    obtain ⟨node, hnode, step, hstep, howner, child, hchild, label, hlabel, hname⟩ :=
      exists_node_of_refers hbuild hrefers
    refine ⟨node, mem_built_iff.mpr ⟨hnode, hreferences node hnode⟩, child,
      mem_built_iff.mpr ⟨hchild, hreferences child hchild⟩, ?_, hname, sizeOf_childAt?_lt hlabel⟩
    have htype := registeredName?_step hbuild hnode
    rw [hstep, hreferences node hnode] at htype
    exact Option.some.inj (htype.symm.trans howner)
  induction h with
  | single hrefers => exact hsingle hrefers
  | tail _ hrefers ih =>
    obtain ⟨node, hnode, middle, hmiddle, howner, hname, hlt⟩ := ih
    obtain ⟨other, hother, child, hchild, hotherName, hchildName, hchildLt⟩ := hsingle hrefers
    have hsame : other = middle :=
      List.inj_on_of_nodup_map hnodup hother hmiddle (hotherName.trans hname.symm)
    subst hsame
    exact ⟨node, hnode, child, hchild, howner, hchildName, by omega⟩

/-- A build that logs no warning loses nothing of its document. Every node that is not a reference
registers one type, no two of them under the same name; the catalog keeps them all and has nothing
else; and without references no type is part of itself. -/
theorem faithful_of_no_warning (hbuild : document.build options = .ok catalog)
    (hlog : ∀ event ∈ document.buildLog options, event.isWarning = false) :
    ((document.buildLog options).filterMap Event.registeredName? =
        (document.built options).map (·.typeName options.settings.naming) ∧
      ((document.built options).map (·.typeName options.settings.naming)).Nodup) ∧
    (∀ node ∈ document.built options, catalog.Keeps options.settings node ∧
      (∀ label child, node.childAt? options.settings.naming label = some child →
        child ∈ document.built options ∨ ∃ path description, child.schema =
          ⟨.reference path (some (child.typeName options.settings.naming)), description⟩) ∧
      ∀ name key value length,
        node.step options.settings = some (.field name (.map key value length)) →
          value = stringType ∨ ∃ path description,
            node.schema.Contains ⟨.reference path (some value), description⟩) ∧
    catalog.size = (document.built options).length ∧
    ((∀ node ∈ document.nodes options, node.schema.isReference = false) →
      ∀ name, ¬ Relation.TransGen catalog.Refers name name) := by
  have hnodup := nodup_typeNames hbuild hlog
  refine ⟨⟨?_, hnodup⟩, fun node hnode => ⟨keeps_of_nodup hbuild hnodup hnode, ?_, ?_⟩,
    size_eq_of_nodup hbuild hnodup, ?_⟩
  · rw [buildLog_eq hbuild, List.filterMap_append, Catalog.registeredName?_log,
      registeredNames_walk hbuild]
    exact List.append_nil _
  · intro label child hchild
    exact built_or_reference hbuild (mem_built_iff.mp hnode).1 hchild
  · intro name key value length hstep
    exact Schema.values_step hstep (parts_ok hbuild (mem_built_iff.mp hnode).1)
  · intro hreferences name hcycle
    obtain ⟨node, hnode, child, hchild, hname, hchildName, hlt⟩ :=
      exists_smaller_of_refers hbuild hnodup hreferences hcycle
    have hsame : node = child :=
      List.inj_on_of_nodup_map hnodup hnode hchild (hname.trans hchildName.symm)
    rw [hsame] at hlt
    omega

/-- A list of objects with one property each makes three types, none of which is part of itself. -/
theorem faithful_of_no_warning_list :
    let name : Schema := ⟨.string ⟨0, none, none, none, none, []⟩, none⟩
    let pet : Schema := ⟨.object [("name", name)] [] .undeclared, none⟩
    let document := empty.withComponent "Pets" ⟨.array (some pet) 0 none, none⟩
    ∃ catalog, document.build .default = .ok catalog ∧
      (document.buildLog .default).filterMap Event.registeredName? = ["PetName", "Pet", "Pets"] ∧
      catalog.size = 3 ∧ ∀ name, ¬ Relation.TransGen catalog.Refers name name := by
  intro name pet document
  have hbuilds : (document.build .default).toOption.isSome := by decide +kernel
  have hlog : ∀ event ∈ document.buildLog .default, event.isWarning = false := by decide +kernel
  have hreferences : ∀ node ∈ document.nodes .default, node.schema.isReference = false := by
    decide +kernel
  have hnames : (document.built .default).map (·.typeName Options.default.settings.naming) =
      ["PetName", "Pet", "Pets"] := by decide +kernel
  cases hbuild : document.build .default with
  | error fault => simp [hbuild, Except.toOption] at hbuilds
  | ok catalog =>
    obtain ⟨⟨hevents, -⟩, -, hsize, hacyclic⟩ := faithful_of_no_warning hbuild hlog
    refine ⟨catalog, rfl, hevents.trans hnames, ?_, hacyclic hreferences⟩
    have hlength := congrArg List.length hnames
    rw [List.length_map] at hlength
    exact hsize.trans hlength

end Document

end SchemaCatalog

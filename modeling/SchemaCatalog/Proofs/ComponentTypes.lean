import SchemaCatalog.Catalog.Check
import SchemaCatalog.Proofs.Faithful
import SchemaCatalog.Proofs.History

/-!
What a reference to a component means. A reference is known by the name of its component, and in
a build without warnings that name stands for the type made of the component, with one exception:
a list of anonymous items is registered under the plural of its name, so a component of that kind
whose name is not plural leaves its own name to the items.
-/
namespace SchemaCatalog

/-- Whether a registration makes the kind of type that a schema of some kind becomes. -/
def Kind.Becomes : Kind → Step → Prop
  | .boolean, .field _ .boolean => True
  | .integer _, .field _ (.integer _) => True
  | .integer _, .field _ (.long _) => True
  | .number _, .field _ (.double _) => True
  | .string _, .field _ (.string _) => True
  | .object _ _ (.values _), .field _ (.map ..) => True
  | .object _ _ .undeclared, .structure .. => True
  | .object _ _ (.allowed _), .structure .. => True
  | .array .., .field _ (.list ..) => True
  | .combinator .., .structure .. => True
  | _, _ => False

namespace Schema

/-- A list of anonymous items leaves a name that is not plural to its items. -/
def LeavesNameTo (naming : Naming) (name : String) (schema items : Schema) : Prop :=
  (∃ minItems maxItems, schema.kind = .array (some items) minItems maxItems) ∧
    items.isReference = false ∧ (naming.split name).list ≠ name

variable {settings : Settings} {naming : Naming} {schema items : Schema} {name : String}

theorem becomes_step {step : Step} (h : schema.step settings name = some step) :
    schema.kind.Becomes step := by
  obtain ⟨kind, description⟩ := schema
  cases kind with
  | object properties required additional => cases additional <;> (cases h; trivial)
  | array items minItems maxItems =>
    cases items with
    | none => cases h
    | some items => cases h; trivial
  | integer shape =>
    obtain ⟨format, minimum, maximum⟩ := shape
    cases h
    cases format <;> trivial
  | reference path target => cases h
  | fragment => cases h
  | not schema => cases h
  | _ => cases h; trivial

theorem LeavesNameTo.typeName_eq (h : schema.LeavesNameTo naming name items) :
    schema.typeName naming name = (naming.split name).list := by
  obtain ⟨⟨minItems, maxItems, hkind⟩, hitems, -⟩ := h
  simp only [typeName, hkind, hitems, Bool.false_eq_true, if_false]

theorem typeName_eq_self (hreference : schema.isReference = false)
    (h : ∀ items, ¬ schema.LeavesNameTo naming name items) :
    schema.typeName naming name = name := by
  obtain ⟨kind, description⟩ := schema
  cases kind with
  | reference path target => cases hreference
  | array items minItems maxItems =>
    cases items with
    | none => rfl
    | some items =>
      simp only [typeName]
      cases hitems : items.isReference with
      | true => rfl
      | false =>
        rw [if_neg (by simp)]
        by_contra hlist
        exact h items ⟨⟨minItems, maxItems, rfl⟩, hitems, hlist⟩
  | _ => rfl

end Schema

theorem Naming.split_of_list_ne {naming : Naming} {name : String}
    (h : (naming.split name).list ≠ name) :
    naming.split name = ⟨name ++ naming.pluralSuffix, name⟩ := by
  unfold split at h ⊢
  split
  · rename_i hplural
    rw [hplural] at h
    exact absurd rfl h
  · rfl

theorem Finding.firstFault?_eq_none {findings : List Finding}
    (h : ∀ finding ∈ findings, ∃ node, finding = .ok node) : firstFault? findings = none := by
  refine List.findSome?_eq_none_iff.mpr fun finding hmem => ?_
  obtain ⟨node, rfl⟩ := h finding hmem
  rfl

namespace Document

variable {document : Document} {options : Options} {catalog : Catalog} {name : String}
  {schema items : Schema}

theorem result_component (hbuild : document.build options = .ok catalog)
    (hfind : document.components.find? name = some schema) (hselects : options.selects name) :
    (Builder.Call.component name schema).result options.settings =
      .ok (schema.registration options.settings.naming name) := by
  have hok : ∀ finding ∈ (Builder.Call.component name schema).findings options.settings.naming,
      ∃ node, finding = .ok node := by
    intro finding hfinding
    have hmem : finding ∈ document.findings options :=
      mem_findings_iff.mpr ⟨name, schema, hfind, hselects, hfinding⟩
    rw [((document.build_eq_ok_iff options).mp hbuild).1] at hmem
    obtain ⟨node, -, rfl⟩ := List.mem_map.mp hmem
    exact ⟨node, rfl⟩
  rw [Builder.Call.result_eq, Finding.outcome, Finding.firstFault?_eq_none hok]
  rfl

/-- Without warnings a node is kept as the type it becomes, under the name by which it is known. -/
theorem exists_type_of_mem_built (hbuild : document.build options = .ok catalog)
    (hlog : ∀ event ∈ document.buildLog options, event.isWarning = false) {node : Node}
    (hnode : node ∈ document.built options) :
    ∃ step, node.schema.step options.settings node.name = some step ∧
      step.registeredName? = some (node.typeName options.settings.naming) ∧
      node.schema.kind.Becomes step ∧ catalog.Holds step := by
  obtain ⟨step, hstep, hname, hholds, -⟩ :=
    keeps_of_nodup hbuild (nodup_typeNames hbuild hlog) hnode
  exact ⟨step, hstep, hname, Schema.becomes_step hstep, hholds⟩

theorem component_mem_built (hfind : document.components.find? name = some schema)
    (hselects : options.selects name) (hreference : schema.isReference = false) :
    ⟨componentPlace name, name, schema⟩ ∈ document.built options :=
  mem_built_iff.mpr ⟨component_mem_nodes hfind hselects, hreference⟩

/-- The items of a component that leaves its name to them are known by that name: were they a list
that takes the plural of it, both lists would have one name. -/
theorem typeName_items (hbuild : document.build options = .ok catalog)
    (hlog : ∀ event ∈ document.buildLog options, event.isWarning = false)
    (hfind : document.components.find? name = some schema) (hselects : options.selects name)
    (hleaves : schema.LeavesNameTo options.settings.naming name items) :
    ⟨componentPlace name ++ ["items"], name, items⟩ ∈ document.built options ∧
      items.typeName options.settings.naming name = name := by
  have htype := hleaves.typeName_eq
  obtain ⟨⟨minItems, maxItems, hkind⟩, hitems, hlist⟩ := hleaves
  have hsplit := Naming.split_of_list_ne hlist
  have hreference : schema.isReference = false := by simp [Schema.isReference, hkind]
  have hcomponent := component_mem_built hfind hselects hreference
  have hpart : .ok ⟨["items"], name, items⟩ ∈
      schema.parts options.settings.naming name := by
    simp [Schema.parts, hkind, hsplit]
  obtain ⟨child, heq, hchild⟩ :=
    exists_node_of_mem_parts hbuild (mem_built_iff.mp hcomponent).1 hpart
  cases heq
  have hinner := mem_built_iff.mpr ⟨hchild, hitems⟩
  refine ⟨hinner, Schema.typeName_eq_self hitems fun inner hinnerLeaves => ?_⟩
  have hsame := List.inj_on_of_nodup_map (nodup_typeNames hbuild hlog) hcomponent hinner
    (htype.trans hinnerLeaves.typeName_eq.symm)
  have hplace : componentPlace name = componentPlace name ++ ["items"] :=
    congrArg Node.place hsame
  exact absurd (congrArg List.length hplace) (by simp)

/-- In a build without warnings a component that is not a reference is registered as the type that
it becomes, and that under its own name unless it is a list of anonymous items and its name is not
plural. Then the list has the plural of the name, and the name itself stands for the type of the
items; a reference to the component is known by that name all the same. -/
theorem type_of_component_name (hbuild : document.build options = .ok catalog)
    (hlog : ∀ event ∈ document.buildLog options, event.isWarning = false)
    (hfind : document.components.find? name = some schema) (hselects : options.selects name)
    (hreference : schema.isReference = false) :
    (∃ registered step,
      (Builder.Call.component name schema).result options.settings =
        .ok ⟨some registered, registered⟩ ∧
      (registered = name ↔
        ∀ items, ¬ schema.LeavesNameTo options.settings.naming name items) ∧
      schema.step options.settings name = some step ∧ step.registeredName? = some registered ∧
      schema.kind.Becomes step ∧ catalog.Holds step) ∧
    (∀ items, schema.LeavesNameTo options.settings.naming name items →
      (Builder.Call.component name schema).result options.settings =
        .ok ⟨some (name ++ options.settings.naming.pluralSuffix),
          name ++ options.settings.naming.pluralSuffix⟩ ∧
      ∃ step, items.step options.settings name = some step ∧
        step.registeredName? = some name ∧ items.kind.Becomes step ∧ catalog.Holds step) ∧
    ∀ path description around,
      (Builder.Call.dispatch around ⟨.reference path (some name), description⟩).result
        options.settings = .ok ⟨none, name⟩ := by
  have hresult := result_component hbuild hfind hselects
  rw [Schema.registration, hreference, if_neg Bool.false_ne_true] at hresult
  refine ⟨?_, fun items hleaves => ⟨?_, ?_⟩, fun path description around => rfl⟩
  · obtain ⟨step, hstep, hname, hkind, hholds⟩ := exists_type_of_mem_built hbuild hlog
      (component_mem_built hfind hselects hreference)
    refine ⟨_, step, hresult, ⟨fun hsame items hleaves => ?_, ?_⟩, hstep, hname, hkind, hholds⟩
    · exact hleaves.2.2 (hleaves.typeName_eq.symm.trans hsame)
    · exact Schema.typeName_eq_self hreference
  · rwa [hleaves.typeName_eq, Naming.split_of_list_ne hleaves.2.2] at hresult
  · obtain ⟨hbuilt, htype⟩ := typeName_items hbuild hlog hfind hselects hleaves
    obtain ⟨step, hstep, hname, hkind, hholds⟩ := exists_type_of_mem_built hbuild hlog hbuilt
    exact ⟨step, hstep, hname.trans (congrArg some htype), hkind, hholds⟩

/-- A list of texts with the name of one: the name is left to the texts, the other component has
its own. -/
theorem type_of_component_name_list :
    let text : Schema := ⟨.string ⟨0, none, none, none, none, []⟩, none⟩
    let pets : Schema := ⟨.array (some text) 0 none, none⟩
    let owner : Schema := ⟨.object [("pets", ⟨Schema.reference "Pet", none⟩)] [] .undeclared, none⟩
    let document := (empty.withComponent "Pet" pets).withComponent "Owner" owner
    ∃ catalog, document.build .default = .ok catalog ∧
      (Builder.Call.component "Owner" owner).result Options.default.settings =
        .ok ⟨some "Owner", "Owner"⟩ ∧
      (Builder.Call.component "Pet" pets).result Options.default.settings =
        .ok ⟨some "Pets", "Pets"⟩ ∧
      ∃ step, text.step Options.default.settings "Pet" = some step ∧ catalog.Holds step := by
  intro text pets owner document
  have hbuilds : (document.build .default).toOption.isSome := by decide +kernel
  have hlog : ∀ event ∈ document.buildLog .default, event.isWarning = false := by decide +kernel
  have hfindOwner : document.components.find? "Owner" = some owner := rfl
  have hfindPets : document.components.find? "Pet" = some pets := rfl
  have hleaves : pets.LeavesNameTo Options.default.settings.naming "Pet" text :=
    ⟨⟨0, none, rfl⟩, rfl, by decide +kernel⟩
  cases hbuild : document.build .default with
  | error fault => simp [hbuild, Except.toOption] at hbuilds
  | ok catalog =>
    obtain ⟨⟨registered, _, howner, hname, -⟩, -, -⟩ :=
      type_of_component_name hbuild hlog hfindOwner rfl rfl
    obtain ⟨-, hpets, -⟩ := type_of_component_name hbuild hlog hfindPets rfl rfl
    obtain ⟨hlist, step, hstep, -, -, hholds⟩ := hpets text hleaves
    obtain rfl := hname.mpr fun items hitems => by
      obtain ⟨⟨minItems, maxItems, hkind⟩, -⟩ := hitems
      cases hkind
    exact ⟨catalog, rfl, howner, hlist, step, hstep, hholds⟩

/-- Nothing warns that `Pet`, to which the owner refers as to the list, is one of its texts. -/
theorem reference_to_list_means_items :
    let text : Schema := ⟨.string ⟨0, none, none, none, none, []⟩, none⟩
    let pets : Schema := ⟨.array (some text) 0 none, none⟩
    let owner : Schema := ⟨.object [("pets", ⟨Schema.reference "Pet", none⟩)] [] .undeclared, none⟩
    let document := (empty.withComponent "Pet" pets).withComponent "Owner" owner
    let record : Structure := ⟨NameMap.empty.insert "pets" ⟨"Pet", 0, false, none⟩⟩
    let catalog := ((Catalog.empty.addStructure "Owner" record).addField "Pet"
      (.string ⟨.unbounded, none, none, none, []⟩)).addField "Pets" (.list "Pet" .unbounded)
    (document.build .default).toOption = some catalog ∧ catalog.problems document = [] ∧
      (∀ event ∈ document.buildLog .default, event.isWarning = false) ∧
      ((Builder.Call.component "Pet" pets).result Options.default.settings).toOption =
        some ⟨some "Pets", "Pets"⟩ := by
  decide +kernel

end Document

end SchemaCatalog

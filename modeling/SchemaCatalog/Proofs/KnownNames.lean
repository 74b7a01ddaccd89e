import SchemaCatalog.Proofs.Children
import SchemaCatalog.Catalog.Check

/-!
Catalogs without dangling names. The name by which a node is referred to is the target of a
reference or the name of a type that the node registers, so all names in the catalog of a build
that ends well are known as soon as the targets of the references are.
-/
namespace SchemaCatalog

namespace Catalog

variable {catalog : Catalog} {document : Document} {owner name : String}

theorem mem_danglingNames {other : String} {names : List String}
    (h : .danglingName owner name ∈ catalog.danglingNames document other names) :
    name ∈ names ∧ catalog.knows document name = false := by
  obtain ⟨used, hused, heq⟩ := List.mem_map.mp h
  cases heq
  obtain ⟨hmem, hknows⟩ := List.mem_filter.mp hused
  exact ⟨hmem, by simpa using hknows⟩

theorem danglingName_notMem_patternProblems {other : String} {field : Field} :
    .danglingName owner name ∉ patternProblems other field := by
  unfold patternProblems
  split
  · split
    · split <;> simp
    · simp
  · simp

theorem refers_of_danglingName (h : .danglingName owner name ∈ catalog.problems document) :
    (∃ owner, catalog.Refers owner name ∨ catalog.RefersForValues owner name) ∧
      catalog.knows document name = false := by
  rcases List.mem_append.mp h with hfields | hstructures
  · obtain ⟨⟨other, field⟩, hmem, hproblem⟩ := List.mem_flatMap.mp hfields
    have hfield : catalog.field? other = some field := NameMap.mem_entries_iff.mp hmem
    rcases List.mem_append.mp hproblem with hname | hpattern
    · obtain ⟨hused, hknows⟩ := mem_danglingNames hname
      refine ⟨⟨other, ?_⟩, hknows⟩
      cases field with
      | list element length =>
        obtain rfl := List.mem_singleton.mp hused
        exact .inl (.element hfield)
      | map key value length =>
        obtain rfl := List.mem_singleton.mp hused
        exact .inr (.values hfield)
      | _ => cases hused
    · exact absurd hpattern danglingName_notMem_patternProblems
  · obtain ⟨⟨other, record⟩, hmem, hproblem⟩ := List.mem_flatMap.mp hstructures
    obtain ⟨⟨label, member⟩, hmember, hname⟩ := List.mem_flatMap.mp hproblem
    obtain ⟨hused, hknows⟩ := mem_danglingNames hname
    obtain rfl := List.mem_singleton.mp hused
    exact ⟨⟨other, .inl (.member (NameMap.mem_entries_iff.mp hmem)
      (NameMap.mem_entries_iff.mp hmember))⟩, hknows⟩

end Catalog

namespace Naming

theorem split_cases (naming : Naming) (name : String) :
    (naming.split name).list = name ∨ (naming.split name).element = name := by
  unfold split
  split
  · exact .inl rfl
  · exact .inr rfl

end Naming

namespace Document

/-- The names that references inside the selected components refer to. -/
def Targets (document : Document) (options : Options) (name : String) : Prop :=
  ∃ component schema path description, document.components.find? component = some schema ∧
    options.selects component ∧ schema.Contains ⟨.reference path (some name), description⟩

variable {document : Document} {options : Options} {catalog : Catalog} {node : Node}

theorem targets_of_contains (hnode : node ∈ document.nodes options) {path name : String}
    {description : Option String}
    (h : node.schema.Contains ⟨.reference path (some name), description⟩) :
    document.Targets options name := by
  obtain ⟨component, schema, hfind, hselects, hcontains⟩ := exists_component_of_mem_nodes hnode
  exact ⟨component, schema, path, description, hfind, hselects, hcontains.trans h⟩

/-- A node that is not a reference leaves a type under the name by which it is referred to. -/
theorem contains_typeName (hbuild : document.build options = .ok catalog)
    (hnode : node ∈ document.nodes options) (hreference : node.schema.isReference = false) :
    catalog.contains (node.typeName options.settings.naming) := by
  obtain ⟨step, hstep, hname⟩ := Schema.exists_step hreference (parts_ok hbuild hnode)
  obtain ⟨-, rfl⟩ := (document.build_eq_ok_iff options).mp hbuild
  refine (Catalog.contains_applyAll_iff _).mpr (.inl (List.mem_filterMap.mpr ⟨step, ?_, hname⟩))
  exact List.mem_filterMap.mpr ⟨node, hnode, hstep⟩

theorem contains_or_targets (hbuild : document.build options = .ok catalog)
    (hnode : node ∈ document.nodes options) :
    catalog.contains (node.typeName options.settings.naming) ∨
      document.Targets options (node.typeName options.settings.naming) := by
  cases hreference : node.schema.isReference with
  | false => exact .inl (contains_typeName hbuild hnode hreference)
  | true =>
    obtain ⟨path, target, description, hschema, htype⟩ :=
      Schema.exists_target hreference (parts_ok hbuild hnode)
    have hcontains : node.schema.Contains ⟨.reference path (some target), description⟩ :=
      hschema ▸ .self
    rw [Node.typeName, htype]
    exact .inr (targets_of_contains hnode hcontains)

/-- A node that is not a reference leaves a type under the name around it. If it is a list of
another name, the element has that name, or has an element that has it, and so on. -/
theorem contains_name (hbuild : document.build options = .ok catalog)
    (hnode : node ∈ document.nodes options) (hreference : node.schema.isReference = false) :
    catalog.contains node.name := by
  obtain ⟨place, name, schema⟩ := node
  induction schema using Schema.induction_on_parts options.settings.naming generalizing place name
    with
  | node schema ih =>
    have htype := contains_typeName hbuild hnode hreference
    obtain ⟨kind, description⟩ := schema
    cases kind with
    | array items minItems maxItems =>
      cases items with
      | none => exact htype
      | some items =>
        simp only [Node.typeName, Schema.typeName] at htype
        cases hitems : items.isReference with
        | true => rwa [if_pos hitems] at htype
        | false =>
          rw [if_neg (by simp [hitems])] at htype
          rcases options.settings.naming.split_cases name with hlist | helement
          · rwa [hlist] at htype
          · let element : Node := ⟨["items"], (options.settings.naming.split name).element, items⟩
            have hpart : .ok element ∈ Schema.parts options.settings.naming
                ⟨.array (some items) minItems maxItems, description⟩ name :=
              List.mem_singleton_self _
            obtain ⟨child, heq, hchild⟩ := exists_node_of_mem_parts hbuild hnode hpart
            cases heq
            have hcontains : catalog.contains (options.settings.naming.split name).element :=
              ih name element hpart _ _ hchild hitems
            rwa [helement] at hcontains
    | reference path target => cases hreference
    | _ => exact htype

theorem contains_or_targets_of_refers (hbuild : document.build options = .ok catalog)
    {owner name : String} (h : catalog.Refers owner name) :
    catalog.contains name ∨ document.Targets options name := by
  obtain ⟨node, -, step, -, -, child, hchild, label, -, rfl⟩ := exists_node_of_refers hbuild h
  exact contains_or_targets hbuild hchild

theorem string_or_targets_of_refersForValues (hbuild : document.build options = .ok catalog)
    {owner name : String} (h : catalog.RefersForValues owner name) :
    name = stringType ∨ document.Targets options name := by
  obtain ⟨node, hnode, key, length, hstep⟩ := exists_node_of_refersForValues hbuild h
  rcases Schema.values_step hstep (parts_ok hbuild hnode) with
    hstring | ⟨path, description, hcontains⟩
  · exact .inl hstring
  · exact .inr (targets_of_contains hnode hcontains)

/-- Only the target of a reference can dangle, and only if it is no component. -/
theorem targets_of_danglingName (hbuild : document.build options = .ok catalog)
    {owner name : String} (h : .danglingName owner name ∈ catalog.problems document) :
    document.Targets options name ∧ document.components.contains name = false := by
  obtain ⟨⟨user, hrefers⟩, hknows⟩ := Catalog.refers_of_danglingName h
  have hunknown : name ≠ stringType ∧ catalog.contains name = false ∧
      document.components.contains name = false := by
    simpa [Catalog.knows, and_assoc] using hknows
  refine ⟨?_, hunknown.2.2⟩
  rcases hrefers with hrefers | hrefers
  · rcases contains_or_targets_of_refers hbuild hrefers with hcontains | htarget
    · rw [hunknown.2.1] at hcontains
      cases hcontains
    · exact htarget
  · rcases string_or_targets_of_refersForValues hbuild hrefers with hstring | htarget
    · exact absurd hstring hunknown.1
    · exact htarget

/-- Every name by which the catalog of a build that ends well refers to a type is the name of a
type, or that of the values of a map of strings, or the target of a reference inside a selected
component. So no name dangles if all targets are components, and all names but that of the
built-in strings are registered if all targets are selected components that are not references. -/
theorem names_known (hbuild : document.build options = .ok catalog) :
    (∀ owner name, catalog.Refers owner name →
      catalog.contains name ∨ document.Targets options name) ∧
    (∀ owner name, catalog.RefersForValues owner name →
      name = stringType ∨ document.Targets options name) ∧
    ((∀ target, document.Targets options target → document.components.contains target) →
      ∀ owner name, .danglingName owner name ∉ catalog.problems document) ∧
    ((∀ target, document.Targets options target → options.selects target ∧
        ∃ schema, document.components.find? target = some schema ∧ schema.isReference = false) →
      (∀ owner name, catalog.Refers owner name → catalog.contains name) ∧
      ∀ owner name, catalog.RefersForValues owner name →
        name = stringType ∨ catalog.contains name) := by
  refine ⟨fun _ _ => contains_or_targets_of_refers hbuild,
    fun _ _ => string_or_targets_of_refersForValues hbuild, ?_, ?_⟩
  · intro htargets owner name hproblem
    obtain ⟨htarget, hmissing⟩ := targets_of_danglingName hbuild hproblem
    rw [htargets name htarget] at hmissing
    cases hmissing
  · intro htargets
    have hregistered : ∀ name, document.Targets options name → catalog.contains name := by
      intro name htarget
      obtain ⟨hselects, schema, hfind, hreference⟩ := htargets name htarget
      exact contains_name hbuild (component_mem_nodes hfind hselects) hreference
    constructor
    · intro owner name hrefers
      exact (contains_or_targets_of_refers hbuild hrefers).elim id (hregistered name)
    · intro owner name hrefers
      exact (string_or_targets_of_refersForValues hbuild hrefers).imp_right (hregistered name)

/-- The one reference refers to the component that it is in. -/
theorem names_known_of_cycle :
    let link : Schema := ⟨.object [("next", ⟨Schema.reference "Link", none⟩)] [] .undeclared, none⟩
    let document := empty.withComponent "Link" link
    ∃ catalog, document.build .default = .ok catalog ∧
      (∀ owner name, .danglingName owner name ∉ catalog.problems document) ∧
      ∀ owner name, catalog.Refers owner name → catalog.contains name := by
  intro link document
  have hinside : ∀ inner, link.Contains inner →
      inner = link ∨ inner = ⟨Schema.reference "Link", none⟩ := by
    intro inner hinner
    induction hinner with
    | self => exact .inl rfl
    | property _ hfind ih =>
      rcases ih with rfl | rfl
      · change NameMap.find? (.ofList [("next", _)]) _ = _ at hfind
        simp only [NameMap.find?_ofList, NameMap.findLast?, Option.none_or,
          Option.ite_none_right_eq_some] at hfind
        exact .inr (Option.some.inj hfind.2).symm
      · cases hfind
    | _ =>
      rename_i ih
      rcases ih with heq | heq
      · simp [link] at heq
      · cases heq
  have hcomponent : ∀ name schema, document.components.find? name = some schema →
      name = "Link" ∧ schema = link := by
    intro name schema hfind
    change NameMap.find? (NameMap.insert .empty "Link" link) name = _ at hfind
    simp only [NameMap.find?_insert, NameMap.find?_empty, Option.ite_none_right_eq_some] at hfind
    exact ⟨hfind.1, (Option.some.inj hfind.2).symm⟩
  have htargets : ∀ target, document.Targets .default target → target = "Link" := by
    rintro target ⟨name, schema, path, description, hfind, -, hcontains⟩
    obtain ⟨-, rfl⟩ := hcomponent name schema hfind
    rcases hinside _ hcontains with heq | heq
    · simp [link] at heq
    · cases heq
      rfl
  have hbuilds : (document.build .default).toOption.isSome := by decide +kernel
  cases hbuild : document.build .default with
  | error fault => simp [hbuild, Except.toOption] at hbuilds
  | ok catalog =>
    obtain ⟨-, -, hproblems, hregistered⟩ := names_known hbuild
    refine ⟨catalog, rfl, hproblems ?_, (hregistered ?_).1⟩
    · intro target htarget
      rw [htargets target htarget]
      decide
    · intro target htarget
      rw [htargets target htarget]
      exact ⟨by decide, link, rfl, rfl⟩

end Document

end SchemaCatalog

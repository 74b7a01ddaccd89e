import SchemaCatalog.Proofs.Build

/-!
What a build takes up lies inside its components, and with a node it takes up all that is right
below the node. So the nodes of a build that ends well are closed: the parts of each of them are
nodes again.
-/
namespace SchemaCatalog

namespace Schema

/-- A schema, and all schemas inside it at any depth. -/
inductive Contains (outer : Schema) : Schema → Prop
  | self : Contains outer outer
  | property {schema name child} (h : Contains outer schema)
      (hfind : schema.property? name = some child) : Contains outer child
  | values {properties required schema description}
      (h : Contains outer ⟨.object properties required (.values schema), description⟩) :
      Contains outer schema
  | items {schema minItems maxItems description}
      (h : Contains outer ⟨.array (some schema) minItems maxItems, description⟩) :
      Contains outer schema
  | member {keyword members schema description}
      (h : Contains outer ⟨.combinator keyword members, description⟩)
      (hmember : schema ∈ members) : Contains outer schema
  | negated {schema description} (h : Contains outer ⟨.not schema, description⟩) :
      Contains outer schema

theorem Contains.trans {outer middle inner : Schema} (h : outer.Contains middle)
    (hinner : middle.Contains inner) : outer.Contains inner := by
  induction hinner with
  | self => exact h
  | property _ hfind ih => exact .property ih hfind
  | values _ ih => exact .values ih
  | items _ ih => exact .items ih
  | member _ hmember ih => exact .member ih hmember
  | negated _ ih => exact .negated ih

variable {naming : Naming} {schema : Schema} {name : String} {node : Node}

theorem exists_property_of_mem_propertyParts {properties : List (String × Schema)}
    (h : .ok node ∈ propertyParts name properties) :
    ∃ property, node = propertyNode name property node.schema ∧
      (NameMap.ofList properties).find? property = some node.schema := by
  obtain ⟨⟨property, child⟩, hmem, heq⟩ := List.mem_map.mp h
  cases heq
  exact ⟨property, rfl, NameMap.mem_entries_iff.mp hmem⟩

theorem exists_property_of_mem_combinedParts {keyword : Combinator} {members : List Schema}
    (h : .ok node ∈ combinedParts name keyword 0 members) :
    ∃ member ∈ members, ∃ property, member.property? property = some node.schema := by
  obtain ⟨⟨⟨kind, description⟩, index⟩, hmem, hpart⟩ := List.mem_flatMap.mp h
  have hmember := List.fst_mem_of_mem_zipIdx hmem
  cases kind with
  | object properties required additional =>
    obtain ⟨part, hinner, hwithin⟩ := List.mem_map.mp hpart
    cases part with
    | error fault => cases hwithin
    | ok child =>
      cases hwithin
      obtain ⟨property, -, hfind⟩ := exists_property_of_mem_propertyParts hinner
      exact ⟨_, hmember, property, hfind⟩
  | _ => simp [memberParts] at hpart

theorem contains_of_mem_parts (h : .ok node ∈ schema.parts naming name) :
    schema.Contains node.schema := by
  obtain ⟨kind, description⟩ := schema
  cases kind with
  | object properties required additional =>
    cases additional with
    | values value =>
      simp only [parts, valueFaults] at h
      split at h <;> simp at h
    | _ =>
      obtain ⟨property, -, hfind⟩ := exists_property_of_mem_propertyParts h
      exact .property .self hfind
  | array items minItems maxItems =>
    cases items with
    | none => simp [parts] at h
    | some items =>
      obtain rfl : node = ⟨["items"], (naming.split name).element, items⟩ := by
        simpa [parts] using h
      exact .items .self
  | combinator keyword members =>
    obtain ⟨member, hmember, property, hfind⟩ := exists_property_of_mem_combinedParts h
    exact .property (.member .self hmember) hfind
  | reference path target => cases target <;> simp [parts] at h
  | _ => simp [parts] at h

theorem self_mem_findings (naming : Naming) (schema : Schema) (name : String) :
    .ok ⟨[], name, schema⟩ ∈ schema.findings naming name := by
  rw [findings_eq]
  exact List.mem_append_right _ (List.mem_singleton_self _)

/-- A finding is the schema itself or comes from one of its parts. -/
theorem mem_findings_cases {finding : Finding} (h : finding ∈ schema.findings naming name) :
    finding = .ok ⟨[], name, schema⟩ ∨
      ∃ part ∈ schema.parts naming name, finding ∈ part.expand naming := by
  rw [findings_eq] at h
  rcases List.mem_append.mp h with hpart | hself
  · exact .inr (List.mem_flatMap.mp hpart)
  · exact .inl (List.mem_singleton.mp hself)

theorem expand_subset_findings {part : Finding} (h : part ∈ schema.parts naming name) :
    part.expand naming ⊆ schema.findings naming name := by
  intro finding hfinding
  rw [findings_eq]
  exact List.mem_append_left _ (List.mem_flatMap.mpr ⟨part, h, hfinding⟩)

theorem mem_expand_self (part : Finding) : part ∈ part.expand naming := by
  cases part with
  | error fault => exact List.mem_singleton_self _
  | ok node =>
    refine List.mem_map.mpr ⟨_, self_mem_findings naming node.schema node.name, ?_⟩
    simp [Finding.within]

theorem exists_of_mem_expand {part : Finding} (h : .ok node ∈ part.expand naming) :
    ∃ child inner, part = .ok child ∧ .ok inner ∈ child.schema.findings naming child.name ∧
      node = { inner with place := child.place ++ inner.place } := by
  cases part with
  | error fault => cases List.mem_singleton.mp h
  | ok child =>
    obtain ⟨finding, hfinding, hwithin⟩ := List.mem_map.mp h
    cases finding with
    | error fault => cases hwithin
    | ok inner =>
      cases hwithin
      exact ⟨child, inner, rfl, hfinding, rfl⟩

/-- All nodes of a schema lie inside it. -/
theorem contains_of_mem_findings (h : .ok node ∈ schema.findings naming name) :
    schema.Contains node.schema := by
  induction schema using induction_on_parts naming generalizing name node with
  | node schema ih =>
    rcases mem_findings_cases h with hself | ⟨part, hpart, hexpand⟩
    · cases hself
      exact .self
    · obtain ⟨child, inner, rfl, hinner, rfl⟩ := exists_of_mem_expand hexpand
      have hcontains : child.schema.Contains inner.schema := ih name child hpart hinner
      exact (contains_of_mem_parts hpart).trans hcontains

/-- With a node all its parts are found. -/
theorem part_mem_findings (h : .ok node ∈ schema.findings naming name) {part : Finding}
    (hpart : part ∈ node.schema.parts naming node.name) :
    part.within node.place ∈ schema.findings naming name := by
  induction schema using induction_on_parts naming generalizing name node with
  | node schema ih =>
    rcases mem_findings_cases h with hself | ⟨outer, houter, hexpand⟩
    · cases hself
      rw [Finding.within_nil]
      exact expand_subset_findings hpart (mem_expand_self part)
    · obtain ⟨child, inner, rfl, hinner, rfl⟩ := exists_of_mem_expand hexpand
      have hfound := ih name child houter hinner hpart
      refine expand_subset_findings houter (List.mem_map.mpr ⟨_, hfound, ?_⟩)
      exact Finding.within_within child.place inner.place part

end Schema

namespace Document

variable {document : Document} {options : Options} {node : Node}

theorem mem_findings_iff {finding : Finding} :
    finding ∈ document.findings options ↔
      ∃ name schema, document.components.find? name = some schema ∧ options.selects name ∧
        finding ∈
          Finding.expand options.settings.naming (.ok ⟨componentPlace name, name, schema⟩) := by
  rw [findings, List.mem_flatMap]
  constructor
  · rintro ⟨⟨name, schema⟩, hmem, hfinding⟩
    obtain ⟨hentry, hselects⟩ := List.mem_filter.mp hmem
    exact ⟨name, schema, NameMap.mem_entries_iff.mp hentry, hselects, hfinding⟩
  · rintro ⟨name, schema, hfind, hselects, hfinding⟩
    exact ⟨(name, schema), List.mem_filter.mpr ⟨NameMap.mem_entries_iff.mpr hfind, hselects⟩,
      hfinding⟩

theorem component_mem_nodes {name : String} {schema : Schema}
    (hfind : document.components.find? name = some schema) (hselects : options.selects name) :
    ⟨componentPlace name, name, schema⟩ ∈ document.nodes options :=
  Finding.mem_nodes.mpr <| mem_findings_iff.mpr
    ⟨name, schema, hfind, hselects, Schema.mem_expand_self _⟩

theorem exists_inner_of_mem_nodes (h : node ∈ document.nodes options) :
    ∃ name schema inner, document.components.find? name = some schema ∧ options.selects name ∧
      .ok inner ∈ schema.findings options.settings.naming name ∧
      node = { inner with place := componentPlace name ++ inner.place } := by
  obtain ⟨name, schema, hfind, hselects, hexpand⟩ :=
    mem_findings_iff.mp (Finding.mem_nodes.mp h)
  obtain ⟨child, inner, heq, hinner, hnode⟩ := Schema.exists_of_mem_expand hexpand
  cases heq
  exact ⟨name, schema, inner, hfind, hselects, hinner, hnode⟩

/-- Every node lies inside a selected component. -/
theorem exists_component_of_mem_nodes (h : node ∈ document.nodes options) :
    ∃ name schema, document.components.find? name = some schema ∧ options.selects name ∧
      schema.Contains node.schema := by
  obtain ⟨name, schema, inner, hfind, hselects, hinner, rfl⟩ := exists_inner_of_mem_nodes h
  have hcontains : schema.Contains inner.schema := Schema.contains_of_mem_findings hinner
  exact ⟨name, schema, hfind, hselects, hcontains⟩

theorem part_mem_findings (h : node ∈ document.nodes options) {part : Finding}
    (hpart : part ∈ node.schema.parts options.settings.naming node.name) :
    part.within node.place ∈ document.findings options := by
  obtain ⟨name, schema, inner, hfind, hselects, hinner, rfl⟩ := exists_inner_of_mem_nodes h
  have hfound := Schema.part_mem_findings hinner hpart
  refine mem_findings_iff.mpr ⟨name, schema, hfind, hselects, List.mem_map.mpr ⟨_, hfound, ?_⟩⟩
  exact Finding.within_within (componentPlace name) inner.place part

/-- Below a node of a build that ends well there are nodes only. -/
theorem exists_node_of_mem_parts {catalog : Catalog} (hbuild : document.build options = .ok catalog)
    (h : node ∈ document.nodes options) {part : Finding}
    (hpart : part ∈ node.schema.parts options.settings.naming node.name) :
    ∃ child, part = .ok child ∧
      { child with place := node.place ++ child.place } ∈ document.nodes options := by
  have hfound := part_mem_findings h hpart
  cases part with
  | ok child => exact ⟨child, rfl, Finding.mem_nodes.mpr hfound⟩
  | error fault =>
    rw [((document.build_eq_ok_iff options).mp hbuild).1] at hfound
    obtain ⟨other, -, heq⟩ := List.mem_map.mp hfound
    cases heq

end Document

end SchemaCatalog

import SchemaCatalog.Proofs.History
import SchemaCatalog.Proofs.Outcome

/-!
What a supported schema registers. A dispatch on any builder, wherever it stands, leaves the
registrations of the schema behind and ends with its registration. These registrations are those of
the parts, each under the name that is proposed for it and in the order in which the walk comes to
them, and then the schema's own.
-/
namespace SchemaCatalog

open Builder

namespace Finding

variable {settings : Settings}

/-- The registrations that findings without a fault stand for, in their order. -/
def registrations (settings : Settings) (findings : List Finding) : List Step :=
  (nodes findings).filterMap (·.step settings)

theorem registrations_append (xs ys : List Finding) :
    registrations settings (xs ++ ys) = registrations settings xs ++ registrations settings ys := by
  simp only [registrations, nodes, List.filterMap_append]

/-- What is registered does not depend on the place. -/
theorem registrations_map_within (place : Pointer) (findings : List Finding) :
    registrations settings (findings.map (·.within place)) = registrations settings findings := by
  induction findings with
  | nil => rfl
  | cons finding rest ih =>
    have hfirst : registrations settings [finding.within place] =
        registrations settings [finding] := by cases finding <;> rfl
    rw [List.map_cons, ← List.singleton_append, registrations_append, hfirst, ih,
      ← registrations_append, List.singleton_append]

end Finding

/-- The field of a kind that is made of nothing else: a truth value, a number or a string. -/
def Kind.scalarField? (settings : Settings) (name : String) : Kind → Option Field
  | .boolean => some .boolean
  | .integer shape => some shape.field
  | .number shape => some (.double shape.range)
  | .string shape => some (.string (shape.field name settings.overrides))
  | _ => none

namespace Schema

open Finding

def registrations (settings : Settings) (schema : Schema) (name : String) : List Step :=
  (Call.dispatch name schema).registrations settings

/-- The registrations of all properties, in the order of their names. -/
def propertyRegistrations (settings : Settings) (name : String)
    (properties : List (String × Schema)) : List Step :=
  (NameMap.ofList properties).entries.flatMap fun (property, schema) =>
    schema.registrations settings (Naming.propertyName name property)

def memberRegistrations (settings : Settings) (name : String) (index : Nat) (member : Schema) :
    List Step :=
  match member.kind with
  | .object properties _ _ =>
      propertyRegistrations settings (Naming.memberName name index) properties
  | _ => []

/-- The registrations of the parts of a schema, one part after another. -/
def partRegistrations (settings : Settings) (parts : List Finding) : List Step :=
  (nodes parts).flatMap fun node => node.schema.registrations settings node.name

variable {settings : Settings} {schema : Schema} {name : String}

theorem partRegistrations_append (xs ys : List Finding) :
    partRegistrations settings (xs ++ ys) =
      partRegistrations settings xs ++ partRegistrations settings ys := by
  rw [partRegistrations, nodes, List.filterMap_append, List.flatMap_append]
  rfl

theorem registrations_of_findings
    (h : firstFault? (schema.findings settings.naming name) = none) :
    schema.registrations settings name =
      Finding.registrations settings (schema.findings settings.naming name) := by
  have hfound := eq_map_ok_of_firstFault? h
  rw [Finding.registrations, hfound, nodes_map_ok]
  rfl

/-- The walk over a supported schema makes its registrations and ends with its registration. -/
theorem walk_of_supported (h : schema.Supported) (name : String) :
    schema.walk settings name = ⟨schema.registrations settings name,
      .ok (schema.registration settings.naming name)⟩ := by
  have hfollow : schema.walk settings name = _ := schema.walk_eq_follow name
  have hnone : firstFault? (schema.findings settings.naming name) = none := h.ends name
  rw [hfollow, Walk.bind_pure_eq, Walk.follow_eq, Finding.outcome, hnone]
  rfl

/-- The parts of a schema without faults are nodes, and none of these has a fault. -/
theorem exists_node_of_mem_parts
    (h : firstFault? (schema.findings settings.naming name) = none) {part : Finding}
    (hpart : part ∈ schema.parts settings.naming name) :
    ∃ node, part = .ok node ∧
      firstFault? (node.schema.findings settings.naming node.name) = none := by
  rw [findings_eq] at h
  have hall : ∀ finding ∈ part.expand settings.naming, finding.fault? = none := by
    intro finding hfinding
    refine List.findSome?_eq_none_iff.mp h finding (List.mem_append_left _ ?_)
    exact List.mem_flatMap.mpr ⟨part, hpart, hfinding⟩
  cases part with
  | error fault => cases hall (.error fault) (List.mem_singleton_self _)
  | ok node =>
    refine ⟨node, rfl, List.findSome?_eq_none_iff.mpr fun finding hfinding => ?_⟩
    have hfault := hall (finding.within node.place) (List.mem_map_of_mem hfinding)
    cases finding with
    | error fault => cases hfault
    | ok inner => rfl

theorem registrations_flatMap_expand {parts : List Finding}
    (h : ∀ part ∈ parts, ∃ node, part = .ok node ∧
      firstFault? (node.schema.findings settings.naming node.name) = none) :
    Finding.registrations settings (parts.flatMap (·.expand settings.naming)) =
      partRegistrations settings parts := by
  induction parts with
  | nil => rfl
  | cons part rest ih =>
    obtain ⟨⟨node, rfl, hnone⟩, hrest⟩ := List.forall_mem_cons.mp h
    have hnode : Finding.registrations settings (Finding.expand settings.naming (.ok node)) =
        node.schema.registrations settings node.name := by
      rw [registrations_of_findings hnone, Finding.expand, registrations_map_within]
    rw [List.flatMap_cons, registrations_append, hnode, ih hrest]
    rfl

/-- A schema without faults registers its parts and then itself. -/
theorem registrations_eq (h : firstFault? (schema.findings settings.naming name) = none) :
    schema.registrations settings name =
      partRegistrations settings (schema.parts settings.naming name) ++
        (schema.step settings name).toList := by
  have hself : Finding.registrations settings [.ok ⟨[], name, schema⟩] =
      (schema.step settings name).toList := by
    cases hstep : schema.step settings name <;>
      simp [Finding.registrations, nodes, Except.toOption, Node.step, hstep]
  rw [registrations_of_findings h, findings_eq, registrations_append, hself,
    registrations_flatMap_expand fun part hpart => exists_node_of_mem_parts h hpart]

theorem partRegistrations_propertyParts (name : String) (properties : List (String × Schema)) :
    partRegistrations settings (propertyParts name properties) =
      propertyRegistrations settings name properties := by
  have hparts : propertyParts name properties =
      ((NameMap.ofList properties).entries.map fun (property, schema) =>
        propertyNode name property schema).map .ok := by
    rw [List.map_map]
    rfl
  rw [partRegistrations, hparts, nodes_map_ok, List.flatMap_map]
  rfl

theorem partRegistrations_map_within (place : Pointer) (parts : List Finding) :
    partRegistrations settings (parts.map (·.within place)) = partRegistrations settings parts := by
  induction parts with
  | nil => rfl
  | cons part rest ih =>
    cases part with
    | error fault => exact ih
    | ok node => exact congrArg (node.schema.registrations settings node.name ++ ·) ih

theorem partRegistrations_memberParts (name : String) (combinator : Combinator) (index : Nat)
    (member : Schema) :
    partRegistrations settings (memberParts name combinator index member) =
      memberRegistrations settings name index member := by
  obtain ⟨kind, description⟩ := member
  cases kind with
  | object properties required additional =>
    exact (partRegistrations_map_within _ _).trans (partRegistrations_propertyParts _ properties)
  | _ => rfl

theorem partRegistrations_combinedParts (name : String) (combinator : Combinator) (index : Nat)
    (members : List Schema) :
    partRegistrations settings (combinedParts name combinator index members) =
      (members.zipIdx index).flatMap fun (member, index) =>
        memberRegistrations settings name index member := by
  induction members generalizing index with
  | nil => rfl
  | cons member rest ih =>
    rw [combinedParts_cons, partRegistrations_append, partRegistrations_memberParts, ih]
    rfl

section Kinds

variable {description : Option String}

/-- A combinator registers the properties of its members, first to last, and then its structure. -/
theorem registrations_combinator {combinator : Combinator} {members : List Schema}
    (h : Supported ⟨.combinator combinator members, description⟩) (name : String) :
    registrations settings ⟨.combinator combinator members, description⟩ name =
      (members.zipIdx.flatMap fun (member, index) =>
        memberRegistrations settings name index member) ++
        [.structure name ⟨.ofList (combinedMembers settings.naming name 0 members)⟩] := by
  rw [registrations_eq (h.ends name), ← partRegistrations_combinedParts name combinator 0 members]
  rfl

theorem registrations_array {items : Schema} {minItems : Nat} {maxItems : Option Nat}
    (h : Supported ⟨.array (some items) minItems maxItems, description⟩) (name : String) :
    registrations settings ⟨.array (some items) minItems maxItems, description⟩ name =
      items.registrations settings (settings.naming.split name).element ++
        [.field (typeName settings.naming ⟨.array (some items) minItems maxItems, description⟩ name)
          (.list (items.typeName settings.naming (settings.naming.split name).element)
            (.ofLimits minItems maxItems))] := by
  have hparts : partRegistrations settings (parts settings.naming
      ⟨.array (some items) minItems maxItems, description⟩ name) =
        items.registrations settings (settings.naming.split name).element := List.append_nil _
  rw [registrations_eq (h.ends name), hparts]
  rfl

end Kinds

/-- A scalar registers its field under the name that it is given, and nothing else. -/
theorem registrations_scalar {field : Field}
    (h : schema.kind.scalarField? settings name = some field) :
    schema.Supported ∧ schema.registration settings.naming name = ⟨some name, name⟩ ∧
      schema.registrations settings name = [.field name field] := by
  have hnone : ∀ {schema : Schema}, schema.Supported →
      firstFault? (schema.findings settings.naming name) = none := fun hschema => hschema.ends name
  obtain ⟨kind, description⟩ := schema
  cases kind with
  | boolean =>
    cases h
    exact ⟨.boolean, rfl, registrations_eq (hnone .boolean)⟩
  | integer shape =>
    cases h
    exact ⟨.integer, rfl, registrations_eq (hnone .integer)⟩
  | number shape =>
    cases h
    exact ⟨.number, rfl, registrations_eq (hnone .number)⟩
  | string shape =>
    cases h
    exact ⟨.string, rfl, registrations_eq (hnone .string)⟩
  | _ => cases h

end Schema

namespace Builder

/-- A dispatch of a supported schema, on any builder. -/
theorem run_dispatch_eq_after {schema : Schema} (h : schema.Supported) (name : String)
    (builder : Builder) :
    (dispatch schema name).run builder =
      (.ok (schema.registration builder.settings.naming name),
        builder.after (schema.registrations builder.settings name)) := by
  rw [run_dispatch, play, Schema.walk_of_supported h]
  rfl

end Builder

namespace Catalog

theorem structure?_applyAll_concat (catalog : Catalog) (steps : List Step) (name : String)
    (record : Structure) :
    (catalog.applyAll (steps ++ [.structure name record])).structure? name = some record := by
  rw [applyAll_append]
  change (NameMap.insert _ name record).find? name = some record
  rw [NameMap.find?_insert, if_pos rfl]

end Catalog

end SchemaCatalog

import SchemaCatalog.Proofs.Containment
import SchemaCatalog.Proofs.FaultPlaces

/-!
Where the nodes of a build are. The place of every node leads, from the root of the document that
was read, to the value that the schema of the node was read from.
-/
namespace SchemaCatalog

namespace Schema

variable {naming : Naming} {value : Json} {schema : Schema} {name : String} {node : Node}

theorem exists_of_mem_parts (hread : ofJson value = .ok schema)
    (h : .ok node ∈ schema.parts naming name) :
    ∃ inner, value.at? node.place = some inner ∧ ofJson inner = .ok node.schema := by
  obtain ⟨kind, description⟩ := schema
  cases kind with
  | object properties required additional =>
    have hproperty : .ok node ∈ propertyParts name properties →
        ∃ inner, value.at? node.place = some inner ∧ ofJson inner = .ok node.schema := by
      intro hmem
      obtain ⟨property, hnode, hfind⟩ := exists_property_of_mem_propertyParts hmem
      rw [hnode]
      exact exists_of_property? hread hfind
    cases additional with
    | values value =>
      simp only [parts, valueFaults] at h
      split at h <;> simp at h
    | undeclared => exact hproperty h
    | allowed any => exact hproperty h
  | array items minItems maxItems =>
    cases items with
    | none => simp [parts] at h
    | some items =>
      obtain rfl : node = ⟨["items"], (naming.split name).element, items⟩ := by
        simpa [parts] using h
      obtain ⟨inner, hinner, hitems⟩ := exists_of_items hread
      exact ⟨inner, Json.at?_singleton hinner, hitems⟩
  | combinator keyword members =>
    obtain ⟨⟨member, index⟩, hmember, hpart⟩ := List.mem_flatMap.mp h
    have hindex : members[index]? = some member := List.mk_mem_zipIdx_iff_getElem?.mp hmember
    obtain ⟨values, hvalues, hmembers⟩ := readFrom_of_ofJson hread
    obtain ⟨outer, houter, hmemberRead⟩ := exists_getElem?_of_forall₂ hmembers hindex
    obtain ⟨kind, description⟩ := member
    cases kind with
    | object properties required additional =>
      obtain ⟨part, hfound, hwithin⟩ := List.mem_map.mp hpart
      cases part with
      | error fault => cases hwithin
      | ok child =>
        cases hwithin
        obtain ⟨property, hchild, hfind⟩ := exists_property_of_mem_propertyParts hfound
        obtain ⟨inner, hinner, hchildRead⟩ := exists_of_property? hmemberRead hfind
        refine ⟨inner, ?_, hchildRead⟩
        rw [hchild]
        change value.at? (keyword.keyword :: toString index :: ["properties", property]) = _
        rw [Json.at?_of_field? hvalues, Json.at?_of_getElem? houter, hinner]
    | _ => simp [memberParts] at hpart
  | reference path target => cases target <;> simp [parts] at h
  | _ => simp [parts] at h

theorem exists_of_mem_findings (hread : ofJson value = .ok schema)
    (h : .ok node ∈ schema.findings naming name) :
    ∃ inner, value.at? node.place = some inner ∧ ofJson inner = .ok node.schema := by
  induction schema using induction_on_parts naming generalizing value name node with
  | node schema ih =>
    rcases mem_findings_cases h with hself | ⟨part, hpart, hexpand⟩
    · cases hself
      exact ⟨value, rfl, hread⟩
    · obtain ⟨child, inner, rfl, hinner, rfl⟩ := exists_of_mem_expand hexpand
      obtain ⟨outer, houter, hchild⟩ := exists_of_mem_parts hread hpart
      obtain ⟨found, hfound, hschema⟩ := ih name child hpart hchild hinner
      refine ⟨found, ?_, hschema⟩
      rw [Json.at?_append houter, hfound]

end Schema

namespace Document

/-- The place of a node leads to the value that the node's schema was read from. -/
theorem exists_of_mem_nodes {value : Json} {document : Document} {options : Options}
    {node : Node} (hread : ofJson value = .ok document)
    (h : node ∈ document.nodes options) :
    ∃ inner, value.at? node.place = some inner ∧ Schema.ofJson inner = .ok node.schema := by
  obtain ⟨name, schema, below, hfind, -, hbelow, rfl⟩ := exists_inner_of_mem_nodes h
  obtain ⟨outer, houter, hschema⟩ := exists_of_component hread hfind
  obtain ⟨inner, hinner, hnode⟩ := Schema.exists_of_mem_findings hschema hbelow
  refine ⟨inner, ?_, hnode⟩
  rw [Json.at?_append houter, hinner]

end Document

end SchemaCatalog

import SchemaCatalog.Proofs.Build

/-!
The first fault among the findings of a schema. It is that of the first part that has one, seen
from the schema: the properties of an object come in the order of their names, and the members of
a combinator by their positions. The name of the schema has no part in it.
-/
namespace SchemaCatalog

namespace Finding

theorem firstFault?_append (xs ys : List Finding) :
    firstFault? (xs ++ ys) = (firstFault? xs).or (firstFault? ys) :=
  List.findSome?_append

theorem firstFault?_map_within (place : Pointer) (findings : List Finding) :
    firstFault? (findings.map (·.within place)) =
      (firstFault? findings).map (·.within place) := by
  induction findings with
  | nil => rfl
  | cons finding rest ih =>
    cases finding with
    | error fault => rfl
    | ok node => exact ih

theorem firstFault?_flatMap_eq_none {α : Type} {xs : List α} {found : α → List Finding}
    (h : ∀ x ∈ xs, firstFault? (found x) = none) : firstFault? (xs.flatMap found) = none := by
  induction xs with
  | nil => rfl
  | cons x xs ih =>
    obtain ⟨hx, hxs⟩ := List.forall_mem_cons.mp h
    rw [List.flatMap_cons, firstFault?_append, hx, ih hxs]
    rfl

/-- A first fault comes from the first member of a list that has one. -/
theorem firstFault?_flatMap_eq_some {α : Type} {before after : List α} {x : α} {fault : WalkFault}
    {found : α → List Finding} (hbefore : ∀ y ∈ before, firstFault? (found y) = none)
    (hx : firstFault? (found x) = some fault) :
    firstFault? ((before ++ x :: after).flatMap found) = some fault := by
  rw [List.flatMap_append, firstFault?_append, firstFault?_flatMap_eq_none hbefore,
    List.flatMap_cons, firstFault?_append, hx]
  rfl

end Finding

namespace Schema

open Finding

variable {naming : Naming}

theorem firstFault?_findings (schema : Schema) (name : String) :
    firstFault? (schema.findings naming name) =
      firstFault? ((schema.parts naming name).flatMap (·.expand naming)) := by
  rw [findings_eq, firstFault?_append]
  exact Option.or_none

/-- A schema below a place has its faults there. -/
theorem firstFault?_expand (place : Pointer) (name : String) (schema : Schema) :
    firstFault? (Finding.expand naming (.ok ⟨place, name, schema⟩)) =
      (firstFault? (schema.findings naming name)).map (·.within place) :=
  firstFault?_map_within place _

/-- What is first found wrong with a schema, whatever its name is. -/
def Ends (naming : Naming) (schema : Schema) (fault : Option WalkFault) : Prop :=
  ∀ name, firstFault? (schema.findings naming name) = fault

theorem firstFault?_expand_propertyNode {schema : Schema} {fault : Option WalkFault}
    (h : schema.Ends naming fault) (name property : String) :
    firstFault? (Finding.expand naming (.ok (propertyNode name property schema))) =
      fault.map (·.within ["properties", property]) := by
  rw [propertyNode, firstFault?_expand, h]

theorem firstFault?_propertyParts_eq_none (name : String) {properties : List (String × Schema)}
    (h : ∀ property schema, (NameMap.ofList properties).find? property = some schema →
      schema.Ends naming none) :
    firstFault? ((propertyParts name properties).flatMap (·.expand naming)) = none := by
  rw [propertyParts, List.flatMap_map]
  refine firstFault?_flatMap_eq_none ?_
  rintro ⟨property, schema⟩ hmem
  exact firstFault?_expand_propertyNode (h property schema (NameMap.mem_entries_iff.mp hmem)) _ _

theorem firstFault?_propertyParts_eq_some (name : String) {properties : List (String × Schema)}
    {property : String} {schema : Schema} {fault : WalkFault}
    (hfind : (NameMap.ofList properties).find? property = some schema)
    (hearlier : ∀ other earlier, (NameMap.ofList properties).find? other = some earlier →
      other < property → earlier.Ends naming none)
    (hfault : schema.Ends naming (some fault)) :
    firstFault? ((propertyParts name properties).flatMap (·.expand naming)) =
      some (fault.within ["properties", property]) := by
  obtain ⟨before, after, heq, hbefore⟩ := NameMap.exists_entries_eq_append hfind
  rw [propertyParts, List.flatMap_map, heq]
  refine firstFault?_flatMap_eq_some ?_ (firstFault?_expand_propertyNode hfault _ _)
  rintro ⟨other, earlier⟩ hmem
  obtain ⟨hother, hlt⟩ := hbefore _ hmem
  exact firstFault?_expand_propertyNode (hearlier other earlier hother hlt) _ _

theorem firstFault?_memberParts_eq_none (name : String) (keyword : Combinator) (index : Nat)
    {member : Schema} (hobject : member.isObject)
    (hproperties : ∀ property schema, member.property? property = some schema →
      schema.Ends naming none) :
    firstFault? ((memberParts name keyword index member).flatMap (·.expand naming)) = none := by
  obtain ⟨kind, description⟩ := member
  cases kind with
  | object properties required additional =>
    rw [memberParts, flatMap_expand_map_within, firstFault?_map_within,
      firstFault?_propertyParts_eq_none _ hproperties]
    rfl
  | _ => cases hobject

theorem firstFault?_memberParts_eq_some (name : String) (keyword : Combinator) (index : Nat)
    {member schema : Schema} {property : String} {fault : WalkFault}
    (hfind : member.property? property = some schema)
    (hearlier : ∀ other earlier, member.property? other = some earlier → other < property →
      earlier.Ends naming none)
    (hfault : schema.Ends naming (some fault)) :
    firstFault? ((memberParts name keyword index member).flatMap (·.expand naming)) =
      some (fault.within [keyword.keyword, toString index, "properties", property]) := by
  obtain ⟨kind, description⟩ := member
  cases kind with
  | object properties required additional =>
    rw [memberParts, flatMap_expand_map_within, firstFault?_map_within,
      firstFault?_propertyParts_eq_some _ hfind hearlier hfault, Option.map_some,
      WalkFault.within_within]
    rfl
  | _ => cases hfind

theorem firstFault?_memberParts_of_not_object (name : String) (keyword : Combinator)
    (index : Nat) {member : Schema} (hobject : member.isObject = false) :
    firstFault? ((memberParts name keyword index member).flatMap (·.expand naming)) =
      some (.unsupported [keyword.keyword, toString index]
        (.nonObjectMember keyword member.kind.name)) := by
  obtain ⟨kind, description⟩ := member
  cases kind with
  | object properties required additional => cases hobject
  | _ => rfl

theorem firstFault?_combinedParts_eq_none (name : String) (keyword : Combinator)
    {members : List Schema}
    (h : ∀ member ∈ members, ∀ index,
      firstFault? ((memberParts name keyword index member).flatMap (·.expand naming)) = none) :
    firstFault? ((combinedParts name keyword 0 members).flatMap (·.expand naming)) = none := by
  rw [combinedParts, List.flatMap_assoc]
  refine firstFault?_flatMap_eq_none ?_
  rintro ⟨member, index⟩ hmem
  exact h member (List.fst_mem_of_mem_zipIdx hmem) index

theorem firstFault?_combinedParts_eq_some (name : String) (keyword : Combinator)
    {before after : List Schema} {member : Schema} {fault : WalkFault}
    (hbefore : ∀ member ∈ before, ∀ index,
      firstFault? ((memberParts name keyword index member).flatMap (·.expand naming)) = none)
    (hmember : firstFault? ((memberParts name keyword before.length member).flatMap
      (·.expand naming)) = some fault) :
    firstFault? ((combinedParts name keyword 0 (before ++ member :: after)).flatMap
      (·.expand naming)) = some fault := by
  rw [combinedParts, List.flatMap_assoc, List.zipIdx_append, List.zipIdx_cons]
  refine firstFault?_flatMap_eq_some ?_ ?_
  · rintro ⟨earlier, index⟩ hmem
    exact hbefore earlier (List.fst_mem_of_mem_zipIdx hmem) index
  · rw [Nat.zero_add]
    exact hmember

end Schema

end SchemaCatalog

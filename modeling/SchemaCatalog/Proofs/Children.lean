import SchemaCatalog.Proofs.Containment

/-!
From a node to its children. A type that a node registers refers to other types at its members
or at the elements of its list, and each of these names is the name of the child that the node has
there. A name is that of a reference's target or that of a type which the child registers.
-/
namespace SchemaCatalog

/-- Where a type refers to another. -/
inductive Label where
  | property (name : String)
  | items

/-- The name by which a registered type refers to another. -/
def Step.typeNameAt? : Step → Label → Option String
  | .structure _ record, .property name => (record.members.find? name).map (·.typeName)
  | .field _ (.list element _), .items => some element
  | _, _ => none

namespace Schema

/-- The last of the properties of a name that the members of a combinator have. -/
def lastMember? (name : String) (combinator : Combinator) (members : List Schema)
    (property : String) : Option Node :=
  members.zipIdx.reverse.findSome? fun (member, index) =>
    (member.property? property).map fun schema =>
      ⟨[combinator.keyword, toString index] ++ ["properties", property],
        Naming.propertyName (Naming.memberName name index) property, schema⟩

/-- The node below a schema to which the type that the schema registers refers. -/
def childAt? (naming : Naming) (schema : Schema) (name : String) : Label → Option Node
  | .property property =>
      match schema.kind with
      | .object _ _ (.values _) => none
      | .object properties _ _ =>
          ((NameMap.ofList properties).find? property).map (propertyNode name property)
      | .combinator combinator members => lastMember? name combinator members property
      | _ => none
  | .items =>
      match schema.kind with
      | .array (some items) _ _ => some ⟨["items"], (naming.split name).element, items⟩
      | _ => none

variable {settings : Settings} {naming : Naming} {schema : Schema} {name : String} {child : Node}

theorem mem_combinedParts_of_lastMember? {combinator : Combinator} {members : List Schema}
    {property : String} (h : lastMember? name combinator members property = some child) :
    .ok child ∈ combinedParts name combinator 0 members := by
  obtain ⟨⟨⟨kind, description⟩, index⟩, hmem, hsome⟩ := List.exists_of_findSome?_eq_some h
  obtain ⟨schema, hfind, rfl⟩ := Option.map_eq_some_iff.mp hsome
  refine List.mem_flatMap.mpr ⟨_, List.mem_reverse.mp hmem, ?_⟩
  cases kind with
  | object properties required additional =>
    exact List.mem_map.mpr ⟨_, mem_propertyParts hfind (Naming.memberName name index), rfl⟩
  | _ => cases hfind

theorem mem_parts_of_childAt? {label : Label} (h : schema.childAt? naming name label = some child) :
    .ok child ∈ schema.parts naming name := by
  obtain ⟨kind, description⟩ := schema
  cases label with
  | property property =>
    cases kind with
    | object properties required additional =>
      cases additional with
      | values value => cases h
      | _ =>
        obtain ⟨schema, hfind, rfl⟩ := Option.map_eq_some_iff.mp h
        exact mem_propertyParts hfind name
    | combinator combinator members => exact mem_combinedParts_of_lastMember? h
    | _ => cases h
  | items =>
    cases kind with
    | array items minItems maxItems =>
      cases items with
      | none => cases h
      | some items =>
        cases h
        exact List.mem_singleton_self _
    | _ => cases h

theorem typeName_objectMembers (required : List String) (properties : List (String × Schema))
    (property : String) :
    (NameMap.findLast? property (objectMembers naming name required properties)).map
        (·.typeName) =
      ((NameMap.ofList properties).find? property).map fun schema =>
        schema.typeName naming (Naming.propertyName name property) := by
  let typeOf := fun key (schema : Schema) => schema.typeName naming (Naming.propertyName name key)
  have hmembers : (objectMembers naming name required properties).map
        (fun p => (p.1, p.2.typeName)) =
      (NameMap.ofList properties).entries.map fun p => (p.1, typeOf p.1 p.2) := by
    rw [objectMembers, List.map_map,
      ← List.zipIdx_map_fst 0 (NameMap.ofList properties).entries, List.map_map,
      List.zipIdx_map_fst]
    rfl
  calc
    _ = NameMap.findLast? property ((objectMembers naming name required properties).map
          fun p => (p.1, p.2.typeName)) :=
      (NameMap.findLast?_map (fun _ (member : Member) => member.typeName) property _).symm
    _ = (NameMap.findLast? property (NameMap.ofList properties).entries).map
          (typeOf property) := by rw [hmembers, NameMap.findLast?_map typeOf]
    _ = _ := by rw [NameMap.findLast?_entries]

theorem typeName_memberMembers (index : Nat) (member : Schema) (property : String) :
    (NameMap.findLast? property (memberMembers naming name index member)).map (·.typeName) =
      (member.property? property).map fun schema =>
        schema.typeName naming
          (Naming.propertyName (Naming.memberName name index) property) := by
  obtain ⟨kind, description⟩ := member
  cases kind with
  | object properties required additional => exact typeName_objectMembers required properties _
  | _ => rfl

theorem typeName_combinedMembers (combinator : Combinator) (members : List Schema)
    (property : String) :
    (NameMap.findLast? property (combinedMembers naming name 0 members)).map (·.typeName) =
      (lastMember? name combinator members property).map fun child =>
        child.schema.typeName naming child.name := by
  rw [combinedMembers, NameMap.findLast?_flatMap, lastMember?, List.map_findSome?,
    List.map_findSome?]
  congr 1
  funext ⟨member, index⟩
  rw [Function.comp_apply, Function.comp_apply, typeName_memberMembers, Option.map_map]
  rfl

theorem typeNameAt?_step {step : Step} (h : schema.step settings name = some step) (label : Label) :
    step.typeNameAt? label =
      (schema.childAt? settings.naming name label).map fun child =>
        child.schema.typeName settings.naming child.name := by
  obtain ⟨kind, description⟩ := schema
  cases kind with
  | object properties required additional =>
    cases additional with
    | values value =>
      cases h
      cases label <;> rfl
    | _ =>
      cases h
      cases label with
      | items => rfl
      | property property =>
        change Option.map _ (NameMap.find? _ _) = _
        rw [NameMap.find?_ofList, typeName_objectMembers]
        simp only [childAt?, Option.map_map]
        rfl
  | array items minItems maxItems =>
    cases items with
    | none => cases h
    | some items =>
      cases h
      cases label <;> rfl
  | combinator combinator members =>
    cases h
    cases label with
    | items => rfl
    | property property =>
      change Option.map _ (NameMap.find? _ _) = _
      rw [NameMap.find?_ofList]
      exact typeName_combinedMembers combinator members property
  | integer shape =>
    obtain ⟨format, minimum, maximum⟩ := shape
    cases h
    cases label <;> cases format <;> rfl
  | reference path target => cases h
  | fragment => cases h
  | not schema => cases h
  | _ =>
    cases h
    cases label <;> rfl

/-- A schema without a fault of its own registers the name by which it is referred to, unless it
is a reference. -/
theorem exists_step (hreference : schema.isReference = false)
    (hparts : ∀ part ∈ schema.parts settings.naming name, ∃ child, part = .ok child) :
    ∃ step, schema.step settings name = some step ∧
      step.registeredName? = some (schema.typeName settings.naming name) := by
  obtain ⟨kind, description⟩ := schema
  cases kind with
  | object properties required additional =>
    cases additional <;> exact ⟨_, rfl, rfl⟩
  | array items minItems maxItems =>
    cases items with
    | none => simp [parts] at hparts
    | some items => exact ⟨_, rfl, rfl⟩
  | reference path target => cases hreference
  | fragment => simp [parts] at hparts
  | not schema => simp [parts] at hparts
  | _ => exact ⟨_, rfl, rfl⟩

/-- A reference without a fault is referred to by its target. -/
theorem exists_target (hreference : schema.isReference = true)
    (hparts : ∀ part ∈ schema.parts settings.naming name, ∃ child, part = .ok child) :
    ∃ path target description, schema = ⟨.reference path (some target), description⟩ ∧
      schema.typeName settings.naming name = target := by
  obtain ⟨kind, description⟩ := schema
  cases kind with
  | reference path target =>
    cases target with
    | none => simp [parts] at hparts
    | some target => exact ⟨path, target, description, rfl, rfl⟩
  | _ => cases hreference

/-- The values of a map are strings or what a reference inside the schema refers to. -/
theorem values_step {owner key value : String} {length : LengthRange}
    (h : schema.step settings name = some (.field owner (.map key value length)))
    (hparts : ∀ part ∈ schema.parts settings.naming name, ∃ child, part = .ok child) :
    value = stringType ∨
      ∃ path description, schema.Contains ⟨.reference path (some value), description⟩ := by
  obtain ⟨kind, description⟩ := schema
  cases kind with
  | object properties required additional =>
    cases additional with
    | values inner =>
      cases h
      obtain ⟨kind, inner⟩ := inner
      cases kind with
      | reference path target =>
        cases target with
        | none => simp [parts, valueFaults] at hparts
        | some target => exact .inr ⟨path, inner, .values .self⟩
      | _ => exact .inl rfl
    | _ => cases h
  | array items minItems maxItems => cases items <;> cases h
  | integer shape =>
    obtain ⟨format, minimum, maximum⟩ := shape
    cases format <;> cases h
  | _ => cases h

end Schema

namespace Node

def typeName (naming : Naming) (node : Node) : String := node.schema.typeName naming node.name

def childAt? (naming : Naming) (node : Node) (label : Label) : Option Node :=
  (node.schema.childAt? naming node.name label).map fun child =>
    { child with place := node.place ++ child.place }

theorem typeNameAt?_step {settings : Settings} {node : Node} {step : Step}
    (h : node.step settings = some step) (label : Label) :
    step.typeNameAt? label =
      (node.childAt? settings.naming label).map (·.typeName settings.naming) := by
  rw [node.schema.typeNameAt?_step h, childAt?, Option.map_map]
  rfl

end Node

namespace Catalog

/-- A type refers to another, as the type of a member or of the elements of a list. -/
inductive Refers (catalog : Catalog) (owner : String) : String → Prop
  | member {record name member} (hrecord : catalog.structure? owner = some record)
      (hmember : record.members.find? name = some member) : Refers catalog owner member.typeName
  | element {element length} (hfield : catalog.field? owner = some (.list element length)) :
      Refers catalog owner element

inductive RefersForValues (catalog : Catalog) (owner : String) : String → Prop
  | values {key value length} (hfield : catalog.field? owner = some (.map key value length)) :
      RefersForValues catalog owner value

theorem Refers.exists_step {steps : List Step} {owner name : String}
    (h : (empty.applyAll steps).Refers owner name) :
    ∃ step ∈ steps, step.registeredName? = some owner ∧
      ∃ label, step.typeNameAt? label = some name := by
  cases h with
  | @member record label member hrecord hmember =>
    refine ⟨_, mem_of_structure?_eq_some hrecord, rfl, .property label, ?_⟩
    rw [Step.typeNameAt?, hmember]
    rfl
  | element hfield => exact ⟨_, mem_of_field?_eq_some hfield, rfl, .items, rfl⟩

end Catalog

namespace Document

variable {document : Document} {options : Options} {catalog : Catalog}

theorem parts_ok (hbuild : document.build options = .ok catalog) {node : Node}
    (hnode : node ∈ document.nodes options) :
    ∀ part ∈ node.schema.parts options.settings.naming node.name, ∃ child, part = .ok child := by
  intro part hpart
  obtain ⟨child, heq, -⟩ := exists_node_of_mem_parts hbuild hnode hpart
  exact ⟨child, heq⟩

theorem childAt?_mem_nodes (hbuild : document.build options = .ok catalog) {node child : Node}
    {label : Label} (hnode : node ∈ document.nodes options)
    (h : node.childAt? options.settings.naming label = some child) :
    child ∈ document.nodes options := by
  obtain ⟨inner, hinner, rfl⟩ := Option.map_eq_some_iff.mp h
  obtain ⟨other, heq, hmem⟩ :=
    exists_node_of_mem_parts hbuild hnode (Schema.mem_parts_of_childAt? hinner)
  cases heq
  exact hmem

/-- Behind every reference between types stand a node and one of its children. -/
theorem exists_node_of_refers (hbuild : document.build options = .ok catalog)
    {owner name : String} (h : catalog.Refers owner name) :
    ∃ node ∈ document.nodes options, ∃ step, node.step options.settings = some step ∧
      step.registeredName? = some owner ∧
      ∃ child ∈ document.nodes options, ∃ label,
        node.childAt? options.settings.naming label = some child ∧
        child.typeName options.settings.naming = name := by
  obtain ⟨-, rfl⟩ := (document.build_eq_ok_iff options).mp hbuild
  obtain ⟨step, hmem, howner, label, hname⟩ := h.exists_step
  obtain ⟨node, hnode, hstep⟩ := List.mem_filterMap.mp hmem
  rw [Node.typeNameAt?_step hstep] at hname
  obtain ⟨child, hchild, htype⟩ := Option.map_eq_some_iff.mp hname
  exact ⟨node, hnode, step, hstep, howner, child, childAt?_mem_nodes hbuild hnode hchild, label,
    hchild, htype⟩

theorem exists_node_of_refersForValues (hbuild : document.build options = .ok catalog)
    {owner name : String} (h : catalog.RefersForValues owner name) :
    ∃ node ∈ document.nodes options, ∃ key length,
      node.step options.settings = some (.field owner (.map key name length)) := by
  obtain ⟨-, rfl⟩ := (document.build_eq_ok_iff options).mp hbuild
  cases h with
  | values hfield =>
    obtain ⟨node, hnode, hstep⟩ :=
      List.mem_filterMap.mp (Catalog.mem_of_field?_eq_some hfield)
    exact ⟨node, hnode, _, _, hstep⟩

end Document

end SchemaCatalog

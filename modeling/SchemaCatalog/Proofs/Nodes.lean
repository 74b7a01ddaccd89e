import SchemaCatalog.Build
import SchemaCatalog.Proofs.Registry

/-!
The nodes of a schema tree: every schema in it that a build takes up, with the place where it
stands and the name that it is given. The findings of a schema list its nodes and its faults in
the order in which a walk comes to them, and go on where a walk would stop. A node leaves one
step behind, which depends on the node and the settings only.
-/
namespace SchemaCatalog

/-- A schema at a place, with the name around it. -/
structure Node where
  place : Pointer
  name : String
  schema : Schema

@[simp] theorem WalkFault.within_nil (fault : WalkFault) : fault.within [] = fault := by
  cases fault <;> rfl

@[simp] theorem WalkFault.within_within (outer inner : Pointer) (fault : WalkFault) :
    (fault.within inner).within outer = fault.within (outer ++ inner) := by
  cases fault <;> simp [within]

/-- What a walk comes to: a node, or a fault that ends the walk. -/
abbrev Finding := Except WalkFault Node

namespace Finding

def within (steps : Pointer) : Finding → Finding
  | .ok node => .ok { node with place := steps ++ node.place }
  | .error fault => .error (fault.within steps)

@[simp] theorem within_nil (finding : Finding) : finding.within [] = finding := by
  cases finding <;> simp [within]

@[simp] theorem within_within (outer inner : Pointer) (finding : Finding) :
    (finding.within inner).within outer = finding.within (outer ++ inner) := by
  cases finding <;> simp [within]

end Finding

namespace Schema

def isReference (schema : Schema) : Bool :=
  match schema.kind with
  | .reference .. => true
  | _ => false

def isObject (schema : Schema) : Bool :=
  match schema.kind with
  | .object .. => true
  | _ => false

/-- A property of an object schema. -/
def property? (schema : Schema) (name : String) : Option Schema :=
  match schema.kind with
  | .object properties _ _ => (NameMap.ofList properties).find? name
  | _ => none

/-- The name by which a schema with a name around it is referred to: that of its target for a
reference and that of the list for an array of anonymous items. -/
def typeName (naming : Naming) (schema : Schema) (name : String) : String :=
  match schema.kind with
  | .reference _ target => target.getD ""
  | .array (some items) _ _ => if items.isReference then name else (naming.split name).list
  | _ => name

def registration (naming : Naming) (schema : Schema) (name : String) : Registration :=
  ⟨if schema.isReference then none else some (schema.typeName naming name),
    schema.typeName naming name⟩

def objectMembers (naming : Naming) (name : String) (required : List String)
    (properties : List (String × Schema)) : List (String × Member) :=
  (NameMap.ofList properties).entries.zipIdx.map fun ((property, schema), position) =>
    (property, ⟨schema.typeName naming (Naming.propertyName name property), position,
      required.contains property, schema.description⟩)

/-- The members that a combinator takes from one of its schemas. -/
def memberMembers (naming : Naming) (name : String) (index : Nat) (schema : Schema) :
    List (String × Member) :=
  match schema.kind with
  | .object properties required _ =>
      objectMembers naming (Naming.memberName name index) required properties
  | _ => []

def combinedMembers (naming : Naming) (name : String) (index : Nat) (schemas : List Schema) :
    List (String × Member) :=
  (schemas.zipIdx index).flatMap fun (schema, index) => memberMembers naming name index schema

def valueName : Kind → String
  | .reference _ target => target.getD ""
  | _ => stringType

/-- The step that registers a schema; there is none for a reference. -/
def step (settings : Settings) (schema : Schema) (name : String) : Option Step :=
  match schema.kind with
  | .boolean => some (.field name .boolean)
  | .integer shape => some (.field name shape.field)
  | .number shape => some (.field name (.double shape.range))
  | .string shape => some (.field name (.string (shape.field name settings.overrides)))
  | .object properties required additional =>
      match additional with
      | .values value => some (.field name (.map stringType (valueName value.kind) .unbounded))
      | _ =>
          let members := objectMembers settings.naming name required properties
          some (.structure name ⟨.ofList members⟩)
  | .array (some items) minItems maxItems =>
      some (.field (schema.typeName settings.naming name)
        (.list (items.typeName settings.naming (settings.naming.split name).element)
          (.ofLimits minItems maxItems)))
  | .combinator _ members =>
      some (.structure name ⟨.ofList (combinedMembers settings.naming name 0 members)⟩)
  | _ => none

theorem registers_of_step_eq_some {settings : Settings} {schema : Schema} {name : String}
    {step : Step} (h : schema.step settings name = some step) : step.registers := by
  obtain ⟨kind, description⟩ := schema
  cases kind with
  | object properties required additional =>
    cases additional <;> (cases h; rfl)
  | array items minItems maxItems =>
    cases items with
    | none => simp [Schema.step] at h
    | some items => cases h; rfl
  | reference path target => simp [Schema.step] at h
  | fragment => simp [Schema.step] at h
  | not schema => simp [Schema.step] at h
  | _ => cases h; rfl

def propertyNode (name property : String) (schema : Schema) : Node :=
  ⟨["properties", property], Naming.propertyName name property, schema⟩

def propertyParts (name : String) (properties : List (String × Schema)) : List Finding :=
  (NameMap.ofList properties).entries.map fun (property, schema) =>
    .ok (propertyNode name property schema)

/-- What is wrong with the values of a map. -/
def valueFaults : Kind → List Finding
  | .reference _ (some _) | .string _ => []
  | .reference path none => [.error (.missingTarget ["additionalProperties"] path)]
  | kind => [.error (.unsupported ["additionalProperties"] (.mapValue kind.name))]

/-- The parts of one of the schemas that a combinator puts together. -/
def memberParts (name : String) (combinator : Combinator) (index : Nat) (schema : Schema) :
    List Finding :=
  match schema.kind with
  | .object properties _ _ =>
      (propertyParts (Naming.memberName name index) properties).map
        (·.within [combinator.keyword, toString index])
  | kind =>
      [.error (.unsupported [combinator.keyword, toString index]
        (.nonObjectMember combinator kind.name))]

def combinedParts (name : String) (combinator : Combinator) (index : Nat)
    (schemas : List Schema) : List Finding :=
  (schemas.zipIdx index).flatMap fun (schema, index) => memberParts name combinator index schema

theorem combinedParts_cons (name : String) (combinator : Combinator) (index : Nat)
    (schema : Schema) (rest : List Schema) :
    combinedParts name combinator index (schema :: rest) =
      memberParts name combinator index schema ++
        combinedParts name combinator (index + 1) rest := rfl

/-- The nodes right below a schema, and what is wrong with the schema itself. -/
def parts (naming : Naming) (schema : Schema) (name : String) : List Finding :=
  match schema.kind with
  | .object properties _ additional =>
      match additional with
      | .values value => valueFaults value.kind
      | _ => propertyParts name properties
  | .array none _ _ => [.error (.unsupported [] .missingItems)]
  | .array (some items) _ _ => [.ok ⟨["items"], (naming.split name).element, items⟩]
  | .combinator combinator schemas => combinedParts name combinator 0 schemas
  | .reference path none => [.error (.missingTarget [] path)]
  | .fragment => [.error (.unsupported [] .fragment)]
  | .not _ => [.error (.unsupported [] .negation)]
  | _ => []

theorem mem_propertyParts {properties : List (String × Schema)} {property : String}
    {schema : Schema} (h : (NameMap.ofList properties).find? property = some schema)
    (name : String) : .ok (propertyNode name property schema) ∈ propertyParts name properties :=
  List.mem_map.mpr ⟨(property, schema), NameMap.mem_entries_iff.mpr h, rfl⟩

theorem exists_mem_combinedParts {members : List Schema} {member schema : Schema}
    {property : String} (hmember : member ∈ members)
    (hfind : member.property? property = some schema) (name : String) (keyword : Combinator) :
    ∃ node, .ok node ∈ combinedParts name keyword 0 members ∧ node.schema = schema := by
  obtain ⟨index, hindex⟩ := List.mem_iff_getElem?.mp hmember
  obtain ⟨kind, description⟩ := member
  cases kind with
  | object properties required additional =>
    let node := propertyNode (Naming.memberName name index) property schema
    have hnode : .ok node ∈ propertyParts (Naming.memberName name index) properties :=
      mem_propertyParts hfind _
    refine ⟨{ node with place := [keyword.keyword, toString index] ++ node.place }, ?_, rfl⟩
    exact List.mem_flatMap.mpr ⟨_, List.mk_mem_zipIdx_iff_getElem?.mpr hindex,
      List.mem_map.mpr ⟨.ok node, hnode, rfl⟩⟩
  | _ => cases hfind

theorem sizeOf_lt_of_find? {properties : List (String × Schema)} {name : String} {schema : Schema}
    (h : (NameMap.ofList properties).find? name = some schema) :
    sizeOf schema < sizeOf properties := by
  have hlisted := NameMap.mem_of_find?_ofList_eq_some h
  have hlt := List.sizeOf_lt_of_mem hlisted
  simp only [Prod.mk.sizeOf_spec] at hlt
  omega

private theorem sizeOf_lt_of_mem_propertyParts {name : String}
    {properties : List (String × Schema)} {node : Node}
    (h : .ok node ∈ propertyParts name properties) :
    sizeOf node.schema < sizeOf properties := by
  obtain ⟨⟨property, schema⟩, hmem, heq⟩ := List.mem_map.mp h
  cases heq
  exact sizeOf_lt_of_find? (NameMap.mem_entries_iff.mp hmem)

private theorem sizeOf_lt_of_mem_memberParts {name : String} {combinator : Combinator}
    {index : Nat} {schema : Schema} {node : Node}
    (h : .ok node ∈ memberParts name combinator index schema) :
    sizeOf node.schema < sizeOf schema := by
  obtain ⟨kind, description⟩ := schema
  cases kind with
  | object properties required additional =>
    obtain ⟨part, hpart, hwithin⟩ := List.mem_map.mp h
    cases part with
    | error fault => cases hwithin
    | ok child =>
      cases hwithin
      have hlt := sizeOf_lt_of_mem_propertyParts hpart
      simp only [Schema.mk.sizeOf_spec, Kind.object.sizeOf_spec]
      omega
  | _ => simp [memberParts] at h

private theorem sizeOf_lt_of_mem_combinedParts {name : String} {combinator : Combinator}
    {index : Nat} {schemas : List Schema} {node : Node}
    (h : .ok node ∈ combinedParts name combinator index schemas) :
    sizeOf node.schema < sizeOf schemas := by
  obtain ⟨⟨schema, position⟩, hmem, hpart⟩ := List.mem_flatMap.mp h
  have hmember : sizeOf schema < sizeOf schemas :=
    List.sizeOf_lt_of_mem (List.fst_mem_of_mem_zipIdx hmem)
  have hnode : sizeOf node.schema < sizeOf schema := sizeOf_lt_of_mem_memberParts hpart
  omega

theorem sizeOf_lt_of_mem_parts {naming : Naming} {schema : Schema} {name : String} {node : Node}
    (h : .ok node ∈ schema.parts naming name) : sizeOf node.schema < sizeOf schema := by
  obtain ⟨kind, description⟩ := schema
  cases kind with
  | object properties required additional =>
    cases additional with
    | values value =>
      simp only [parts, valueFaults] at h
      split at h <;> simp at h
    | _ =>
      have hlt := sizeOf_lt_of_mem_propertyParts h
      simp only [Schema.mk.sizeOf_spec, Kind.object.sizeOf_spec]
      omega
  | array items minItems maxItems =>
    cases items with
    | none => simp [parts] at h
    | some items =>
      obtain rfl : node = ⟨["items"], (naming.split name).element, items⟩ := by
        simpa [parts] using h
      simp only [Schema.mk.sizeOf_spec, Kind.array.sizeOf_spec, Option.some.sizeOf_spec]
      omega
  | combinator combinator schemas =>
    have hlt := sizeOf_lt_of_mem_combinedParts h
    simp only [Schema.mk.sizeOf_spec, Kind.combinator.sizeOf_spec]
    omega
  | reference path target => cases target <;> simp [parts] at h
  | _ => simp [parts] at h

/-- The nodes and faults of a schema: those of its parts, and then the schema as a node. -/
def findings (naming : Naming) (schema : Schema) (name : String) : List Finding :=
  ((schema.parts naming name).attach.flatMap fun ⟨part, hpart⟩ =>
    match part, hpart with
    | .ok node, _ => (node.schema.findings naming node.name).map (·.within node.place)
    | .error fault, _ => [.error fault]) ++ [.ok ⟨[], name, schema⟩]
termination_by sizeOf schema
decreasing_by exact sizeOf_lt_of_mem_parts ‹_›

end Schema

def Node.step (settings : Settings) (node : Node) : Option Step :=
  node.schema.step settings node.name

namespace Finding

/-- A fault as it is, or a node with all that is found below it. -/
def expand (naming : Naming) : Finding → List Finding
  | .ok node => (node.schema.findings naming node.name).map (·.within node.place)
  | .error fault => [.error fault]

/-- The nodes among findings. -/
def nodes (findings : List Finding) : List Node := findings.filterMap Except.toOption

theorem nodes_map_ok (found : List Node) : nodes (found.map .ok) = found := by
  induction found with
  | nil => rfl
  | cons node rest ih => exact congrArg (node :: ·) ih

theorem mem_nodes {findings : List Finding} {node : Node} :
    node ∈ nodes findings ↔ .ok node ∈ findings := by
  rw [nodes, List.mem_filterMap]
  constructor
  · rintro ⟨fault | other, hmem, heq⟩
    · cases heq
    · exact Option.some.inj heq ▸ hmem
  · intro hmem
    exact ⟨.ok node, hmem, rfl⟩

/-- The nodes before the first fault. -/
def reached : List Finding → List Node
  | .ok node :: rest => node :: reached rest
  | _ => []

theorem reached_map_ok (found : List Node) : reached (found.map .ok) = found := by
  induction found with
  | nil => rfl
  | cons node rest ih => exact congrArg (node :: ·) ih

def fault? : Finding → Option WalkFault
  | .ok _ => none
  | .error fault => some fault

def firstFault? (findings : List Finding) : Option WalkFault := findings.findSome? fault?

/-- How a walk that comes to all findings ends. -/
def outcome (findings : List Finding) : Except WalkFault Unit :=
  match firstFault? findings with
  | none => .ok ()
  | some fault => .error fault

theorem firstFault?_map_ok (found : List Node) : firstFault? (found.map .ok) = none := by
  induction found with
  | nil => rfl
  | cons node rest ih => exact ih

theorem eq_map_ok_of_firstFault? {findings : List Finding} (h : firstFault? findings = none) :
    findings = (reached findings).map .ok := by
  induction findings with
  | nil => rfl
  | cons finding rest ih =>
    cases finding with
    | error fault => cases h
    | ok node => exact congrArg (Except.ok node :: ·) (ih h)

/-- Before the first fault there are the nodes that are reached, and no others. -/
theorem exists_eq_append_of_firstFault? {findings : List Finding} {fault : WalkFault}
    (h : firstFault? findings = some fault) :
    ∃ rest, findings = (reached findings).map .ok ++ .error fault :: rest := by
  induction findings with
  | nil => cases h
  | cons finding rest ih =>
    cases finding with
    | error first =>
      cases h
      exact ⟨rest, rfl⟩
    | ok node =>
      obtain ⟨more, heq⟩ := ih h
      exact ⟨more, congrArg (Except.ok node :: ·) heq⟩

theorem expand_within (naming : Naming) (place : Pointer) (finding : Finding) :
    (finding.within place).expand naming = (finding.expand naming).map (·.within place) := by
  cases finding with
  | error fault => rfl
  | ok node =>
    change (node.schema.findings naming node.name).map (within (place ++ node.place)) =
      List.map (within place) (List.map (within node.place) _)
    rw [List.map_map]
    refine List.map_congr_left fun finding _ => ?_
    exact (within_within place node.place finding).symm

theorem flatMap_expand_map_within (naming : Naming) (place : Pointer) (findings : List Finding) :
    (findings.map (·.within place)).flatMap (·.expand naming) =
      (findings.flatMap (·.expand naming)).map (·.within place) := by
  rw [List.flatMap_map, List.map_flatMap]
  congr 1
  funext finding
  exact finding.expand_within naming place

end Finding

namespace Schema

theorem findings_eq (naming : Naming) (schema : Schema) (name : String) :
    schema.findings naming name =
      (schema.parts naming name).flatMap (·.expand naming) ++ [.ok ⟨[], name, schema⟩] := by
  rw [findings, List.flatMap_subtype (g := (·.expand naming)), List.unattach_attach]
  intro part hpart
  cases part <;> rfl

/-- What holds of a schema whenever it holds of all nodes right below it holds of all schemas. -/
theorem induction_on_parts (naming : Naming) {motive : Schema → Prop}
    (node : ∀ schema, (∀ name node, .ok node ∈ schema.parts naming name → motive node.schema) →
      motive schema) (schema : Schema) : motive schema :=
  node schema fun _ node _ => induction_on_parts naming ‹_› node.schema
termination_by sizeOf schema
decreasing_by exact sizeOf_lt_of_mem_parts ‹_›

end Schema

end SchemaCatalog

import SchemaCatalog.Proofs.Containment
import SchemaCatalog.Proofs.Outcome

/-!
Schemas in normal form. Properties mean a map, and in normal form they stand as the map has them,
at every depth. A schema and its normal form are the same to every build.
-/
namespace SchemaCatalog

namespace Schema

/-- The schemas right below a schema. -/
def children (schema : Schema) : List Schema :=
  match schema.kind with
  | .object properties _ additional =>
      (NameMap.ofList properties).entries.map (·.2) ++ additional.values?.toList
  | .array items _ _ => items.toList
  | .combinator _ members => members
  | .not inner => [inner]
  | _ => []

theorem contains_of_mem_children {schema child : Schema} (h : child ∈ schema.children) :
    schema.Contains child := by
  obtain ⟨kind, description⟩ := schema
  cases kind with
  | object properties required additional =>
    rcases List.mem_append.mp h with hproperty | hvalues
    · obtain ⟨⟨name, schema⟩, hmem, rfl⟩ := List.mem_map.mp hproperty
      exact .property .self (NameMap.mem_entries_iff.mp hmem)
    · cases additional with
      | values schema =>
        obtain rfl := List.mem_singleton.mp hvalues
        exact .values .self
      | _ => cases hvalues
  | array items minItems maxItems =>
    cases items with
    | none => cases h
    | some items =>
      obtain rfl := List.mem_singleton.mp h
      exact .items .self
  | combinator keyword members => exact .member .self h
  | not schema =>
    obtain rfl := List.mem_singleton.mp h
    exact .negated .self
  | _ => cases h

theorem mem_children_of_property? {schema child : Schema} {name : String}
    (h : schema.property? name = some child) : child ∈ schema.children := by
  obtain ⟨kind, description⟩ := schema
  cases kind with
  | object properties required additional =>
    have hmem : (name, child) ∈ (NameMap.ofList properties).entries :=
      NameMap.mem_entries_iff.mpr h
    exact List.mem_append_left _ (List.mem_map_of_mem hmem)
  | _ => cases h

theorem mem_children_of_values {properties : List (String × Schema)} {required : List String}
    {schema : Schema} {description : Option String} :
    schema ∈ children ⟨.object properties required (.values schema), description⟩ :=
  List.mem_append_right _ (List.mem_singleton_self schema)

/-- What lies inside a schema is the schema or lies inside one right below it. -/
theorem Contains.cases_children {outer inner : Schema} (h : outer.Contains inner) :
    inner = outer ∨ ∃ child ∈ outer.children, child.Contains inner := by
  -- One more step down from a schema inside, or from the schema itself to one right below it.
  have hstep : ∀ {middle last : Schema}, last ∈ middle.children →
      (middle = outer ∨ ∃ child ∈ outer.children, child.Contains middle) →
        last = outer ∨ ∃ child ∈ outer.children, child.Contains last := by
    rintro middle last hlast (rfl | ⟨child, hchild, hmiddle⟩)
    · exact .inr ⟨last, hlast, .self⟩
    · exact .inr ⟨child, hchild, hmiddle.trans (contains_of_mem_children hlast)⟩
  induction h with
  | self => exact .inl rfl
  | property _ hfind ih => exact hstep (mem_children_of_property? hfind) ih
  | values _ ih => exact hstep mem_children_of_values ih
  | items _ ih => exact hstep (List.mem_singleton_self _) ih
  | @member keyword members schema description _ hmember ih =>
    have hchild : schema ∈ children ⟨.combinator keyword members, description⟩ := hmember
    exact hstep hchild ih
  | negated _ ih => exact hstep (List.mem_singleton_self _) ih

theorem sizeOf_lt_of_mem_children {schema child : Schema} (h : child ∈ schema.children) :
    sizeOf child < sizeOf schema := by
  obtain ⟨kind, description⟩ := schema
  cases kind with
  | object properties required additional =>
    simp only [Schema.mk.sizeOf_spec, Kind.object.sizeOf_spec]
    rcases List.mem_append.mp h with hproperty | hvalues
    · obtain ⟨⟨name, schema⟩, hmem, rfl⟩ := List.mem_map.mp hproperty
      have hlt : sizeOf schema < sizeOf properties :=
        sizeOf_lt_of_find? (NameMap.mem_entries_iff.mp hmem)
      dsimp only
      omega
    · cases additional with
      | values schema =>
        obtain rfl := List.mem_singleton.mp hvalues
        simp only [Additional.values.sizeOf_spec]
        omega
      | _ => cases hvalues
  | array items minItems maxItems =>
    cases items with
    | none => cases h
    | some items =>
      obtain rfl := List.mem_singleton.mp h
      simp only [Schema.mk.sizeOf_spec, Kind.array.sizeOf_spec, Option.some.sizeOf_spec]
      omega
  | combinator keyword members =>
    have hlt : sizeOf child < sizeOf members := List.sizeOf_lt_of_mem h
    simp only [Schema.mk.sizeOf_spec, Kind.combinator.sizeOf_spec]
    omega
  | not schema =>
    obtain rfl := List.mem_singleton.mp h
    simp only [Schema.mk.sizeOf_spec, Kind.not.sizeOf_spec]
    omega
  | _ => cases h

/-- What holds of a schema whenever it holds of all schemas right below it holds of all schemas. -/
theorem induction_on_children {motive : Schema → Prop}
    (node : ∀ schema, (∀ child ∈ schema.children, motive child) → motive schema)
    (schema : Schema) : motive schema :=
  node schema fun child _ => induction_on_children node child
termination_by sizeOf schema
decreasing_by exact sizeOf_lt_of_mem_children ‹_›

mutual

/-- The same schema with the properties of all objects in the order of their names, one to a
name. -/
def normal : Schema → Schema
  | ⟨kind, description⟩ => ⟨normalKind kind, description⟩
termination_by structural schema => schema

def normalKind : Kind → Kind
  | .boolean => .boolean
  | .integer shape => .integer shape
  | .number shape => .number shape
  | .string shape => .string shape
  | .object properties required additional =>
      .object (NameMap.ofList (normalProperties properties)).entries required
        (normalAdditional additional)
  | .array items minItems maxItems => .array (normalItems items) minItems maxItems
  | .combinator combinator members => .combinator combinator (normalMembers members)
  | .reference path target => .reference path target
  | .fragment => .fragment
  | .not schema => .not schema.normal
termination_by structural kind => kind

def normalProperties : List (String × Schema) → List (String × Schema)
  | [] => []
  | (name, schema) :: rest => (name, schema.normal) :: normalProperties rest
termination_by structural properties => properties

def normalAdditional : Additional Schema → Additional Schema
  | .undeclared => .undeclared
  | .allowed any => .allowed any
  | .values schema => .values schema.normal
termination_by structural additional => additional

def normalItems : Option Schema → Option Schema
  | none => none
  | some schema => some schema.normal
termination_by structural items => items

def normalMembers : List Schema → List Schema
  | [] => []
  | schema :: rest => schema.normal :: normalMembers rest
termination_by structural members => members

end

theorem normalProperties_eq_map (properties : List (String × Schema)) :
    normalProperties properties = properties.map fun p => (p.1, p.2.normal) := by
  induction properties with
  | nil => rfl
  | cons p rest ih => rw [normalProperties, ih, List.map_cons]

theorem normalMembers_eq_map (members : List Schema) :
    normalMembers members = members.map normal := by
  induction members with
  | nil => rfl
  | cons schema rest ih => rw [normalMembers, ih, List.map_cons]

section Walks

variable {settings : Settings}

theorem description_normal (schema : Schema) : schema.normal.description = schema.description := by
  cases schema
  rfl

theorem ofList_normalProperties (properties : List (String × Schema)) :
    NameMap.ofList (normalProperties properties) = (NameMap.ofList properties).map normal := by
  rw [normalProperties_eq_map, NameMap.ofList_map]

/-- Whether every build takes a schema for its normal form, also as a member of a combinator. -/
def WalksAsNormal (settings : Settings) (schema : Schema) : Prop :=
  (∀ name, schema.normal.walk settings name = schema.walk settings name) ∧
    ∀ name combinator index, walkMember settings name combinator index schema.normal =
      walkMember settings name combinator index schema

theorem walkMembers_normal (name : String) (required : List String)
    {properties : List (String × Schema)}
    (h : ∀ property schema, (NameMap.ofList properties).find? property = some schema →
      schema.WalksAsNormal settings) :
    walkMembers required
        (visits settings name (NameMap.ofList (normalProperties properties)).entries) =
      walkMembers required (visits settings name properties) := by
  refine walkMembers_congr (fun property => ?_) (fun _ _ => Iff.rfl)
  rw [visits_eq_map, visits_eq_map, NameMap.findLast?_map, NameMap.findLast?_map,
    NameMap.findLast?_entries, ofList_normalProperties, NameMap.find?_map, NameMap.find?_ofList,
    Option.map_map]
  refine Option.map_congr ?_
  intro schema hfind
  have hschema := h property schema (NameMap.find?_ofList properties property ▸ hfind)
  simp only [Function.comp_apply, visit, hschema.1, description_normal]

theorem mapValueName_normalKind (kind : Kind) :
    mapValueName (normalKind kind) = mapValueName kind := by
  cases kind <;> rfl

theorem walkCombined_normal (name : String) (combinator : Combinator) (index : Nat)
    {members : List Schema} (h : ∀ member ∈ members, member.WalksAsNormal settings) :
    walkCombined settings name combinator index (normalMembers members) =
      walkCombined settings name combinator index members := by
  induction members generalizing index with
  | nil => rfl
  | cons member rest ih =>
    obtain ⟨hmember, hrest⟩ := List.forall_mem_cons.mp h
    rw [normalMembers, walkCombined_cons, walkCombined_cons, hmember.2, ih (index + 1) hrest]

theorem typeName_normal (naming : Naming) (schema : Schema) (name : String) :
    schema.normal.typeName naming name = schema.typeName naming name := by
  obtain ⟨kind, description⟩ := schema
  cases kind with
  | array items minItems maxItems =>
    cases items with
    | none => rfl
    | some items =>
      obtain ⟨kind, inner⟩ := items
      cases kind <;> rfl
  | _ => rfl

theorem walk_object (properties : List (String × Schema)) (required : List String)
    {additional : Additional Schema} (hadditional : additional.values? = none)
    (description : Option String) (name : String) :
    walk settings ⟨.object properties required additional, description⟩ name =
      walkMembers required (visits settings name properties) >>= fun members =>
        registerStructure name ⟨.ofList members⟩ := by
  cases additional with
  | values schema => cases hadditional
  | _ => rfl

/-- A build takes a schema for its normal form. -/
theorem walksAsNormal (schema : Schema) : schema.WalksAsNormal settings := by
  -- Both halves go together, as a combinator takes the properties even of a member that is a map,
  -- which the walk over that member alone never looks at.
  induction schema using induction_on_children with
  | node schema ih =>
    obtain ⟨kind, description⟩ := schema
    cases kind with
    | object properties required additional =>
      have hproperties : ∀ property child,
          (NameMap.ofList properties).find? property = some child →
            child.WalksAsNormal settings := by
        intro property child hfind
        exact ih child (mem_children_of_property? hfind)
      refine ⟨fun name => ?_, fun name combinator index => ?_⟩
      · cases additional with
        | values value =>
          obtain ⟨kind, inner⟩ := value
          change walkMap name ⟨normalKind kind, inner⟩ = walkMap name ⟨kind, inner⟩
          rw [walkMap, walkMap, mapValueName_normalKind]
        | _ =>
          rw [normal, normalKind, walk_object _ _ rfl, walk_object _ _ rfl,
            walkMembers_normal name required hproperties]
      · simp only [walkMember, normal, normalKind]
        rw [walkMembers_normal _ required hproperties]
    | array items minItems maxItems =>
      refine ⟨fun name => ?_, fun name combinator index => rfl⟩
      cases items with
      | none => rfl
      | some items =>
        have hitems := ih items (List.mem_singleton_self items)
        have htype := typeName_normal settings.naming
          ⟨.array (some items) minItems maxItems, description⟩ name
        rw [normal, normalKind, normalItems] at htype ⊢
        rw [walk_array, walk_array, hitems.1, htype]
    | combinator combinator members =>
      refine ⟨fun name => ?_, fun name outer index => rfl⟩
      have hmembers : walkCombined settings name combinator 0 (normalMembers members) =
          walkCombined settings name combinator 0 members :=
        walkCombined_normal name combinator 0 ih
      change walkCombined settings name combinator 0 (normalMembers members) >>= _ = _
      rw [hmembers]
      rfl
    | _ => exact ⟨fun name => rfl, fun name combinator index => rfl⟩

end Walks

end Schema

namespace Document

/-- The same document with its components in normal form. -/
def normal (document : Document) : Document :=
  { document with components := document.components.map Schema.normal }

theorem walkSelected_normal (document : Document) (options : Options) (name : String)
    (schema : Schema) :
    document.normal.walkSelected options name schema.normal =
      document.walkSelected options name schema := by
  have hwalk : schema.normal.walk options.settings name = schema.walk options.settings name :=
    schema.walksAsNormal.1 name
  simp only [walkSelected, Schema.walkComponent, hwalk]
  rfl

theorem walk_normal (document : Document) (options : Options) :
    document.normal.walk options = document.walk options := by
  have hentries : document.normal.components.entries =
      document.components.entries.map fun p => (p.1, p.2.normal) := rfl
  rw [walk, walk, hentries]
  induction document.components.entries with
  | nil => rfl
  | cons entry rest ih =>
    have hentry := document.walkSelected_normal options entry.1 entry.2
    exact congrArg₂ (fun walk (next : Walk PUnit) => walk >>= fun _ => next) hentry ih

/-- A document and its normal form are built alike. -/
theorem build_normal (document : Document) (options : Options) :
    document.normal.build options = document.build options := by
  rw [build_eq_walk, build_eq_walk, walk_normal]

end Document

end SchemaCatalog

import SchemaCatalog.Proofs.Limits

/-!
What all catalogs of documents have in common. Limits that say nothing are not kept, limits that
are left out exist, and the keys of a map are any texts. Each member of a structure is a property
that some schema object of the document lists: it stands at a position among the properties of this
object, and is required only if this object says so.
-/
namespace SchemaCatalog

def LengthRange.WellFormed (length : LengthRange) : Prop := length.minimum ≠ some 0

/-- Only a limit that is there can be left out itself. -/
structure Range.WellFormed {α : Type} (range : Range α) : Prop where
  minimum : range.exclusiveMinimum → range.minimum.isSome
  maximum : range.exclusiveMaximum → range.maximum.isSome

def Field.WellFormed : Field → Prop
  | .boolean => True
  | .integer range | .long range => range.WellFormed
  | .double range => range.WellFormed
  | .string field => field.length.WellFormed
  | .list _ length => length.WellFormed
  | .map key _ length => key = stringType ∧ length = .unbounded

theorem LengthRange.wellFormed_ofLimits (minimum : Nat) (maximum : Option Nat) :
    (ofLimits minimum maximum).WellFormed := by
  unfold WellFormed ofLimits
  split <;> simp
  omega

theorem Range.wellFormed_ofBounds {α : Type} (minimum maximum : Option (Bound α)) :
    (ofBounds minimum maximum).WellFormed := by
  have hside : ∀ side : Option (Bound α), side.any (·.exclusive) →
      (side.map (·.value)).isSome := by
    intro side h
    cases side with
    | none => cases h
    | some bound => rfl
  exact ⟨hside minimum, hside maximum⟩

/-- Every field that a schema is made into is well formed. -/
theorem Schema.wellFormed_of_step {settings : Settings} {schema : Schema} {name registered : String}
    {field : Field} (h : schema.step settings name = some (.field registered field)) :
    field.WellFormed := by
  obtain ⟨kind, description⟩ := schema
  cases kind with
  | boolean =>
    cases h
    trivial
  | integer shape =>
    obtain ⟨format, minimum, maximum⟩ := shape
    cases format <;> (cases h; exact Range.wellFormed_ofBounds minimum maximum)
  | number shape =>
    cases h
    exact Range.wellFormed_ofBounds shape.minimum shape.maximum
  | string shape =>
    cases h
    exact LengthRange.wellFormed_ofLimits shape.minLength shape.maxLength
  | object properties required additional =>
    cases additional with
    | values value =>
      cases h
      exact ⟨rfl, rfl⟩
    | _ => cases h
  | array items minItems maxItems =>
    cases items with
    | none => cases h
    | some items =>
      cases h
      exact LengthRange.wellFormed_ofLimits minItems maxItems
  | _ => cases h

namespace Json

/-- The properties that a schema object lists, by name. -/
def listedProperties (value : Json) : NameMap Json :=
  match value.field? "properties" with
  | some (.object properties) => .ofList properties
  | _ => .empty

/-- What a schema object lists as required. -/
def listedRequired (value : Json) : List Json :=
  match value.field? "required" with
  | some (.array entries) => entries
  | _ => []

theorem find?_listedProperties {value listed inner : Json} {name : String}
    (hlisted : value.field? "properties" = some listed) (hinner : listed.field? name = some inner) :
    value.listedProperties.find? name = some inner := by
  cases listed with
  | object properties =>
    rw [listedProperties, hlisted, NameMap.find?_ofList]
    exact hinner
  | _ => cases hinner

end Json

/-- A member of a structure is made of a property that a schema object lists, and refers to what the
property becomes with the name `outer` around it. -/
structure Member.MadeFrom (member : Member) (naming : Naming) (object : Json)
    (outer property : String) : Prop where
  schema : ∃ listed schema, object.listedProperties.find? property = some listed ∧
    Schema.ofJson listed = .ok schema ∧
    member.typeName = schema.typeName naming (Naming.propertyName outer property) ∧
    member.documentation = schema.description
  position : member.position < object.listedProperties.size
  required : member.required ↔ .string property ∈ object.listedRequired

namespace Schema

variable {value : Json} {properties : List (String × Schema)} {required : List String}
  {additional : Additional Schema} {description : Option String}

theorem exists_of_object
    (hread : ofJson value = .ok ⟨.object properties required additional, description⟩) :
    ∃ fields : Fields, value = .object fields ∧
      ((partsOf fields).named "properties").getD (.ok []) = .ok properties ∧
      requiredNames fields = .ok required := by
  obtain ⟨fields, rfl, htyped⟩ := typedKind_of_ofJson hread rfl
  refine ⟨fields, rfl, ?_⟩
  rcases typedKind_cases htyped with hobject | harray | heq | ⟨shape, heq⟩ | ⟨shape, heq⟩ |
    ⟨shape, heq⟩ | heq
  · rw [objectKind_eq] at hobject
    obtain ⟨named, hnamed, hobject⟩ := bind_eq_ok_iff.mp hobject
    obtain ⟨names, hnames, hobject⟩ := bind_eq_ok_iff.mp hobject
    obtain ⟨others, -, heq⟩ := bind_eq_ok_iff.mp hobject
    cases heq
    exact ⟨hnamed, hnames⟩
  · obtain ⟨items, minItems, maxItems, heq, -⟩ := arrayKind_eq_ok harray
    cases heq
  all_goals cases heq

theorem names_of_named {keyword : String} (h : named keyword value = .ok properties) :
    ∃ fields, value = .object fields ∧
      (NameMap.ofList properties).names = (NameMap.ofList fields).names := by
  cases value with
  | object fields =>
    rw [named_object] at h
    obtain ⟨schemas, hschemas, heq⟩ := bind_eq_ok_iff.mp h
    obtain rfl : schemas.entries = properties := Except.ok.inj heq
    refine ⟨fields, rfl, ?_⟩
    rw [NameMap.ofList_entries, NameMap.names_of_traverse hschemas, NameMap.names_map]
  | _ => simp [named, fail] at h

theorem names_of_object
    (hread : ofJson value = .ok ⟨.object properties required additional, description⟩) :
    (NameMap.ofList properties).names = value.listedProperties.names := by
  obtain ⟨fields, rfl, hnamed, -⟩ := exists_of_object hread
  have hfield : (Json.object fields).field? "properties" = fields.get? "properties" := rfl
  rw [Json.listedProperties, hfield]
  cases hlisted : fields.get? "properties" with
  | none =>
    obtain rfl : [] = properties := by simpa [partsOf, hlisted] using hnamed
    rfl
  | some listed =>
    have hread : named "properties" listed = .ok properties := by
      simpa [partsOf, hlisted] using hnamed
    obtain ⟨inner, rfl, hnames⟩ := names_of_named hread
    exact hnames

theorem eq_map_of_mapM_string? {entries : List Json} {names : List String}
    (h : entries.mapM Json.string? = some names) : entries = names.map Json.string := by
  induction entries generalizing names with
  | nil =>
    cases h
    rfl
  | cons entry rest ih =>
    rw [List.mapM_cons] at h
    obtain ⟨name, hname, h⟩ := Option.bind_eq_some_iff.mp h
    obtain ⟨others, hothers, heq⟩ := Option.bind_eq_some_iff.mp h
    cases heq
    cases entry <;> cases hname
    rw [ih hothers, List.map_cons]

theorem listedRequired_eq
    (hread : ofJson value = .ok ⟨.object properties required additional, description⟩) :
    value.listedRequired = required.map Json.string := by
  obtain ⟨fields, rfl, -, hrequired⟩ := exists_of_object hread
  have hfield : (Json.object fields).field? "required" = fields.get? "required" := rfl
  rw [Json.listedRequired, hfield]
  unfold requiredNames at hrequired
  split at hrequired
  · rename_i hnone
    cases hrequired
    rw [hnone]
    rfl
  · rename_i entries hentries
    split at hrequired
    · rename_i names hnames
      cases hrequired
      rw [hentries]
      exact eq_map_of_mapM_string? hnames
    · cases hrequired
  · cases hrequired

/-- An object schema makes its members of what is listed by the value that it was read from. -/
theorem madeFrom_of_mem_objectMembers {naming : Naming} {outer property : String} {member : Member}
    (hread : ofJson value = .ok ⟨.object properties required additional, description⟩)
    (h : (property, member) ∈ objectMembers naming outer required properties) :
    member.MadeFrom naming value outer property := by
  obtain ⟨⟨⟨key, schema⟩, position⟩, hmem, heq⟩ := List.mem_map.mp h
  cases heq
  have hlt : position < (NameMap.ofList properties).size := by
    simpa [NameMap.size] using (List.mem_zipIdx hmem).2.1
  have hfind : (NameMap.ofList properties).find? property = some schema :=
    NameMap.mem_entries_iff.mp (List.fst_mem_of_mem_zipIdx hmem)
  refine ⟨?_, ?_, ?_⟩
  · obtain ⟨listed, inner, hlisted, hinner, hschema⟩ :=
      (readFrom_of_ofJson hread).1 property schema hfind
    exact ⟨inner, schema, Json.find?_listedProperties hlisted hinner, hschema, rfl, rfl⟩
  · have hsize := congrArg List.length (names_of_object hread)
    rw [NameMap.length_names, NameMap.length_names] at hsize
    exact hsize ▸ hlt
  · rw [listedRequired_eq hread, List.mem_map_of_injective @Json.string.inj]
    exact List.contains_iff_mem

/-- Only objects and combinators are made into structures. -/
theorem step_structure_cases {settings : Settings} {schema : Schema} {name registered : String}
    {record : Structure} (h : schema.step settings name = some (.structure registered record)) :
    registered = name ∧
      ((∃ properties required additional, schema.kind = .object properties required additional ∧
        record = ⟨.ofList (objectMembers settings.naming name required properties)⟩) ∨
      ∃ keyword members, schema.kind = .combinator keyword members ∧
        record = ⟨.ofList (combinedMembers settings.naming name 0 members)⟩) := by
  obtain ⟨kind, description⟩ := schema
  cases kind with
  | object properties required additional =>
    cases additional with
    | values value => cases h
    | _ =>
      cases h
      exact ⟨rfl, .inl ⟨properties, required, _, rfl, rfl⟩⟩
  | array items minItems maxItems => cases items <;> cases h
  | combinator keyword members =>
    cases h
    exact ⟨rfl, .inr ⟨keyword, members, rfl, rfl⟩⟩
  | integer shape =>
    obtain ⟨format, minimum, maximum⟩ := shape
    cases format <;> cases h
  | _ => cases h

/-- A combinator has each of its members from one of its schemas, which is an object. -/
theorem exists_of_mem_combinedMembers {naming : Naming} {name property : String} {member : Member}
    {schemas : List Schema} (h : (property, member) ∈ combinedMembers naming name 0 schemas) :
    ∃ index properties required additional description,
      schemas[index]? = some ⟨.object properties required additional, description⟩ ∧
        (property, member) ∈
          objectMembers naming (Naming.memberName name index) required properties := by
  obtain ⟨⟨⟨kind, description⟩, index⟩, hschema, hmember⟩ := List.mem_flatMap.mp h
  cases kind with
  | object properties required additional =>
    exact ⟨index, properties, required, additional, description,
      List.mk_mem_zipIdx_iff_getElem?.mp hschema, hmember⟩
  | _ => cases hmember

end Schema

/-- The schema objects that a node has its members from, by their places and with the names around
their properties: the object itself, or those that a combinator puts together. -/
def Node.objects (node : Node) : List (Pointer × String) :=
  match node.schema.kind with
  | .object .. => [(node.place, node.name)]
  | .combinator keyword members => (List.range members.length).map fun index =>
      (node.place ++ [keyword.keyword, toString index], Naming.memberName node.name index)
  | _ => []

theorem Node.exists_madeFrom {settings : Settings} {node : Node} {value inner : Json}
    {registered property : String} {record : Structure} {member : Member}
    (hplace : value.at? node.place = some inner) (hread : Schema.ofJson inner = .ok node.schema)
    (hstep : node.step settings = some (.structure registered record))
    (hmember : record.members.find? property = some member) :
    ∃ place outer object, (place, outer) ∈ node.objects ∧ value.at? place = some object ∧
      member.MadeFrom settings.naming object outer property := by
  obtain ⟨above, name, ⟨kind, description⟩⟩ := node
  obtain ⟨-, ⟨properties, required, additional, hkind, rfl⟩ | ⟨keyword, members, hkind, rfl⟩⟩ :=
    Schema.step_structure_cases hstep
  · dsimp only at hkind
    subst hkind
    have hmade := Schema.madeFrom_of_mem_objectMembers hread
      (NameMap.mem_of_find?_ofList_eq_some hmember)
    exact ⟨above, name, inner, List.mem_singleton_self _, hplace, hmade⟩
  · dsimp only at hkind
    subst hkind
    obtain ⟨index, properties, required, additional, documentation, hindex, hlisted⟩ :=
      Schema.exists_of_mem_combinedMembers (NameMap.mem_of_find?_ofList_eq_some hmember)
    obtain ⟨values, hvalues, hmembers⟩ := Schema.readFrom_of_ofJson hread
    obtain ⟨object, hobject, hschema⟩ := exists_getElem?_of_forall₂ hmembers hindex
    refine ⟨above ++ [keyword.keyword, toString index], Naming.memberName name index, object, ?_, ?_,
      Schema.madeFrom_of_mem_objectMembers hschema hlisted⟩
    · have hlt := (List.getElem?_eq_some_iff.mp hindex).1
      exact List.mem_map.mpr ⟨index, List.mem_range.mpr hlt, rfl⟩
    · rw [Json.at?_append hplace, Json.at?_of_field? hvalues, Json.at?_of_getElem? hobject,
        Json.at?_nil]

namespace Document

variable {value : Json} {document : Document} {options : Options} {catalog : Catalog}

theorem wellFormed_of_build (hbuild : document.build options = .ok catalog) {name : String}
    {field : Field} (hfield : catalog.field? name = some field) : field.WellFormed := by
  obtain ⟨-, rfl⟩ := (document.build_eq_ok_iff options).mp hbuild
  obtain ⟨node, -, hstep⟩ := List.mem_filterMap.mp (Catalog.mem_of_field?_eq_some hfield)
  exact Schema.wellFormed_of_step hstep

/-- Every member of a structure is made of a property that an object of the document lists. -/
theorem exists_madeFrom (hread : ofJson value = .ok document)
    (hbuild : document.build options = .ok catalog) {name property : String} {record : Structure}
    {member : Member} (hrecord : catalog.structure? name = some record)
    (hmember : record.members.find? property = some member) :
    ∃ node ∈ document.nodes options, node.name = name ∧ ∃ place outer object,
      (place, outer) ∈ node.objects ∧ value.at? place = some object ∧
        member.MadeFrom options.settings.naming object outer property := by
  obtain ⟨-, rfl⟩ := (document.build_eq_ok_iff options).mp hbuild
  obtain ⟨node, hnode, hstep⟩ := List.mem_filterMap.mp (Catalog.mem_of_structure?_eq_some hrecord)
  obtain ⟨inner, hinner, hschema⟩ := exists_of_mem_nodes hread hnode
  have hname : name = node.name := (Schema.step_structure_cases hstep).1
  exact ⟨node, hnode, hname.symm, node.exists_madeFrom hinner hschema hstep hmember⟩

/-- The catalog of a document is normalised, whatever value the document was read from. No length
has a minimum of zero, no limit is left out that is not there, and maps have texts as keys and lengths
without limits; the limits of doubles are finite, as all numbers are that a JSON value can hold. Every
member of a structure is made of a property that an object of the document lists, be it the object of
the structure or one that a combinator puts into it: its position is below the number of properties
that this object lists, and it is required if the same object lists it as required, and only then. -/
theorem normalised_of_build (hread : ofJson value = .ok document)
    (hbuild : document.build options = .ok catalog) :
    (∀ name field, catalog.field? name = some field → field.WellFormed) ∧
    (value.Throughout Json.IsStored → catalog.HasFiniteLimits) ∧
    ∀ name record property member, catalog.structure? name = some record →
      record.members.find? property = some member →
        ∃ node ∈ document.nodes options, node.name = name ∧ ∃ place outer object,
          (place, outer) ∈ node.objects ∧ value.at? place = some object ∧
            member.MadeFrom options.settings.naming object outer property := by
  refine ⟨fun name field => wellFormed_of_build hbuild,
    fun hvalue => hasFiniteLimits_of_build hvalue hread hbuild, ?_⟩
  intro name record property member hrecord hmember
  exact exists_madeFrom hread hbuild hrecord hmember

/-- A flag without a limit is lost, and the member that it is about is required by the object inside
the combinator, which lists it twice. -/
theorem normalised_of_build_combined :
    let size : Json := .object [("type", .string "number"), ("exclusiveMinimum", .bool true)]
    let inside : Json := .object [("properties", .object [("size", size)]),
      ("required", .array [.string "size", .string "size"])]
    let schema : Json := .object [("allOf", .array [inside])]
    let value : Json := .object [("components", .object [("schemas", .object [("Pet", schema)])])]
    ∃ document catalog, ofJson value = .ok document ∧ document.build .default = .ok catalog ∧
      catalog.field? "Pet1Size" = some (.double ⟨none, none, false, false⟩) ∧
      (Field.double ⟨none, none, false, false⟩).WellFormed ∧ catalog.HasFiniteLimits ∧
      ∃ record member, catalog.structure? "Pet" = some record ∧
        record.members.find? "size" = some member ∧ member.required ∧
        ∃ node ∈ document.nodes .default, node.name = "Pet" ∧ ∃ place outer object,
          (place, outer) ∈ node.objects ∧ value.at? place = some object ∧
            member.MadeFrom .default object outer "size" := by
  intro size inside schema value
  have htext : ∀ text, (Json.string text).Throughout Json.IsStored :=
    fun text => Json.throughout_of_leaf trivial fun _ => rfl
  have hflag : (Json.bool true).Throughout Json.IsStored :=
    Json.throughout_of_leaf trivial fun _ => rfl
  have hobject : ∀ fields : List (String × Json), (∀ p ∈ fields, p.2.Throughout Json.IsStored) →
      (Json.object fields).Throughout Json.IsStored :=
    fun fields => Json.throughout_object trivial
  have harray : ∀ values : List Json, (∀ entry ∈ values, entry.Throughout Json.IsStored) →
      (Json.array values).Throughout Json.IsStored := fun values => Json.throughout_array trivial
  have hsize : size.Throughout Json.IsStored := hobject _ (by simp [htext, hflag])
  have hlisted : (Json.object [("size", size)]).Throughout Json.IsStored :=
    hobject _ (by simp [hsize])
  have hinside : inside.Throughout Json.IsStored :=
    hobject _ (by simp [hlisted, harray, htext])
  have hschema : schema.Throughout Json.IsStored := hobject _ (by simp [harray, hinside])
  have hvalue : value.Throughout Json.IsStored :=
    Json.throughout_component (fun _ => trivial) hschema "Pet"
  have hbuilt : (ofJson value).toOption.bind (fun document => (document.build .default).toOption.map
      fun catalog => (catalog.field? "Pet1Size",
        (catalog.structure? "Pet").map (·.members.entries))) =
      some (some (.double ⟨none, none, false, false⟩),
        some [("size", ⟨"Pet1Size", 0, true, none⟩)]) := by decide +kernel
  obtain ⟨document, hread, hbuilt⟩ := Option.bind_eq_some_iff.mp hbuilt
  obtain ⟨catalog, hbuild, hfacts⟩ := Option.map_eq_some_iff.mp hbuilt
  obtain ⟨hfield, hrecord⟩ := Prod.mk.inj hfacts
  obtain ⟨record, hrecord, hentries⟩ := Option.map_eq_some_iff.mp hrecord
  have hmember : record.members.find? "size" = some ⟨"Pet1Size", 0, true, none⟩ :=
    NameMap.mem_entries_iff.mp (hentries ▸ List.mem_singleton_self _)
  rw [toOption_eq_some_iff] at hread hbuild
  obtain ⟨hfields, hfinite, hmembers⟩ := normalised_of_build hread hbuild
  exact ⟨document, catalog, hread, hbuild, hfield, hfields "Pet1Size" _ hfield, hfinite hvalue,
    record, _, hrecord, hmember, rfl, hmembers "Pet" record "size" _ hrecord hmember⟩

end Document

end SchemaCatalog

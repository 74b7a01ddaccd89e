import SchemaCatalog.Proofs.NormalForm
import SchemaCatalog.Proofs.Rendering
import SchemaCatalog.Schema.Same

/-!
Written schemas read again. What is written in either dialect is read as the schema it was written
for, with its properties as a map has them, so both dialects of a document build alike.
-/
namespace SchemaCatalog

/-- Whether a kind is fit for writing: a reference names what its path names, and JSON has texts
for the limits. -/
def Kind.Writable : Kind → Prop
  | .reference path target => target = Schema.targetOf path
  | .number shape => ∀ bound, shape.minimum = some bound ∨ shape.maximum = some bound →
      bound.value.isFinite
  | _ => True

namespace Schema

/-- Whether a schema and all schemas inside it are fit for writing. -/
def Writable (schema : Schema) : Prop := ∀ inner, schema.Contains inner → inner.kind.Writable

theorem Writable.of_mem_children {schema child : Schema} (h : schema.Writable)
    (hchild : child ∈ schema.children) : child.Writable :=
  fun inner hinner => h inner ((contains_of_mem_children hchild).trans hinner)

theorem writable_iff {schema : Schema} :
    schema.Writable ↔ schema.kind.Writable ∧ ∀ child ∈ schema.children, child.Writable := by
  constructor
  · intro h
    exact ⟨h schema .self, fun child hchild => h.of_mem_children hchild⟩
  · rintro ⟨hkind, hchildren⟩ inner hinner
    rcases hinner.cases_children with rfl | ⟨child, hchild, hinner⟩
    · exact hkind
    · exact hchildren child hchild inner hinner

section Written

variable (dialect : Dialect)

theorem propertyFields_eq_map (properties : List (String × Schema)) :
    propertyFields dialect properties = properties.map fun p => (p.1, p.2.toJson dialect) := by
  induction properties with
  | nil => rfl
  | cons p rest ih => rw [propertyFields, ih, List.map_cons]

theorem memberValues_eq_map (members : List Schema) :
    memberValues dialect members = members.map (toJson dialect) := by
  induction members with
  | nil => rfl
  | cons schema rest ih => rw [memberValues, ih, List.map_cons]

/-- A kind that is told by its type is written with that type, and without the keywords by which
the other kinds are told. -/
theorem get?_toFields_of_hasType {kind : Kind} (h : hasType kind) :
    Fields.get? (toFields dialect kind) "type" = some (.string kind.name) ∧
      ∀ keyword ∈ ["$ref", "allOf", "anyOf", "oneOf", "not", "description"],
        Fields.get? (toFields dialect kind) keyword = none := by
  cases kind with
  | boolean => simp [toFields, typeField, Kind.name]
  | integer shape =>
    simp [toFields, typeField, Kind.name, IntegerShape.toFields, limitFields, Side.keyword,
      Side.exclusiveKeyword]
  | number shape =>
    simp [toFields, typeField, Kind.name, NumberShape.toFields, limitFields, Side.keyword,
      Side.exclusiveKeyword]
  | string shape => simp [toFields, typeField, Kind.name, StringShape.toFields, leastField]
  | object properties required additional => simp [toFields, typeField, Kind.name]
  | array items minItems maxItems => simp [toFields, typeField, Kind.name, leastField]
  | _ => cases h

theorem get?_written (schema : Schema) (keyword : String) :
    (schema.written dialect).get? keyword =
      (if "description" = keyword then schema.description.map Json.string else none).or
        (Fields.get? (toFields dialect schema.kind) keyword) := by
  rw [written, Fields.get?_append, Fields.get?_fieldIfSome]

theorem text?_description_written (schema : Schema) :
    Fields.text? (schema.written dialect) "description" = schema.description := by
  have hnone : Fields.get? (toFields dialect schema.kind) "description" = none := by
    by_cases htype : hasType schema.kind
    · exact (get?_toFields_of_hasType dialect htype).2 "description" (by simp)
    · obtain ⟨kind, description⟩ := schema
      cases kind with
      | combinator combinator members => cases combinator <;> simp [toFields, Combinator.keyword]
      | reference path target => simp [toFields]
      | fragment => rfl
      | not schema => simp [toFields]
      | _ => exact absurd rfl htype
  refine Fields.text?_eq ?_
  rw [get?_written, hnone]
  simp

/-- What decides the kind of a schema that is written decides what is read. -/
theorem ofJson_toJson_of_classify {schema : Schema} {kind : Kind}
    (h : classify (schema.written dialect) (partsOf (schema.written dialect)) = .ok kind) :
    ofJson (schema.toJson dialect) = .ok ⟨kind, schema.description⟩ := by
  rw [toJson_eq, ofJson_object, h, text?_description_written]
  rfl

variable {dialect}

/-- A schema object without keywords that come first has a type. -/
theorem classify_eq_typedKind {fields : Fields}
    (h : ∀ keyword ∈ ["$ref", "allOf", "anyOf", "oneOf", "not"], fields.get? keyword = none) :
    classify fields (partsOf fields) = typedKind fields (partsOf fields) := by
  simp only [List.forall_mem_cons, List.not_mem_nil, false_implies, implies_true, and_true] at h
  obtain ⟨href, hall, hany, hone, hnot⟩ := h
  simp [classify, partsOf, Combinator.keyword, href, hall, hany, hone, hnot]

theorem declaredType_eq {fields : Fields} {name : String}
    (h : fields.get? "type" = some (.string name)) : declaredType fields = .ok (some name) := by
  rw [declaredType, h]

section Kinds

variable {description : Option String}

theorem named_written {properties : List (String × Schema)}
    (h : ∀ name schema, (NameMap.ofList properties).find? name = some schema →
      ofJson (schema.toJson dialect) = .ok schema.normal) (keyword : String) :
    named keyword (.object (NameMap.ofList (propertyFields dialect properties)).entries) =
      .ok (NameMap.ofList (normalProperties properties)).entries := by
  let readings := (NameMap.ofList properties).map fun schema => ofJson (schema.toJson dialect)
  have hread : readings.traverse (fun name reading => within [keyword, name] reading) =
      .ok ((NameMap.ofList properties).map normal) := by
    refine NameMap.traverse_map_eq_ok ?_
    intro name schema hfind
    rw [h name schema hfind]
    rfl
  rw [named_object, NameMap.ofList_entries, propertyFields_eq_map, normalProperties_eq_map,
    NameMap.ofList_map, NameMap.ofList_map, NameMap.map_map, hread]
  rfl

theorem members_written {schemas : List Schema}
    (h : ∀ schema ∈ schemas, ofJson (schema.toJson dialect) = .ok schema.normal) :
    members (.array (memberValues dialect schemas)) = .ok (normalMembers schemas) := by
  refine members_eq_ok_iff.mpr ⟨_, rfl, ?_⟩
  rw [memberValues_eq_map, normalMembers_eq_map]
  exact List.forall₂_map_left_iff.mpr (List.forall₂_map_right_iff.mpr (List.forall₂_same.mpr h))

theorem classify_combinator {combinator : Combinator} {schemas : List Schema}
    (h : ∀ schema ∈ schemas, ofJson (schema.toJson dialect) = .ok schema.normal) :
    let fields := written dialect ⟨.combinator combinator schemas, description⟩
    classify fields (partsOf fields) = .ok (.combinator combinator (normalMembers schemas)) := by
  intro fields
  have hmembers := members_written h
  cases combinator <;>
    simp [fields, written, toFields, classify, partsOf, Combinator.keyword, hmembers, within,
      Except.map]

theorem classify_not {schema : Schema} (h : ofJson (schema.toJson dialect) = .ok schema.normal) :
    let fields := written dialect ⟨.not schema, description⟩
    classify fields (partsOf fields) = .ok (.not schema.normal) := by
  intro fields
  simp [fields, written, toFields, classify, partsOf, Combinator.keyword, h, within, Except.map]

theorem classify_reference {path : String} {target : Option String} :
    let fields := written dialect ⟨.reference path target, description⟩
    classify fields (partsOf fields) = .ok (.reference path (targetOf path)) := by
  intro fields
  simp [fields, written, toFields, classify]

theorem classify_fragment :
    let fields := written dialect ⟨.fragment, description⟩
    classify fields (partsOf fields) = .ok .fragment := by
  intro fields
  have hnone (keyword : String) (h : "description" ≠ keyword) : fields.get? keyword = none := by
    rw [get?_written, if_neg h]
    rfl
  have hdeclared : declaredType fields = .ok none := by
    rw [declaredType, hnone "type" (by decide)]
  have hparts (keyword : String) (h : "description" ≠ keyword) : fields.has keyword = false := by
    rw [Fields.has, hnone keyword h]
    rfl
  have hclassify : classify fields (partsOf fields) = typedKind fields (partsOf fields) :=
    classify_eq_typedKind (by simp [hnone])
  rw [hclassify, typedKind, hdeclared]
  simp only [bind, Except.bind]
  rw [hparts "properties" (by decide), hparts "additionalProperties" (by decide),
    hparts "items" (by decide)]
  rfl

theorem objectKind_written {properties : List (String × Schema)} {required : List String}
    {additional : Additional Schema} {fields : Fields}
    (hfields : written dialect ⟨.object properties required additional, description⟩ = fields)
    (hproperties : ∀ name schema, (NameMap.ofList properties).find? name = some schema →
      ofJson (schema.toJson dialect) = .ok schema.normal)
    (hvalues : ∀ schema, additional = .values schema →
      ofJson (schema.toJson dialect) = .ok schema.normal) :
    objectKind fields (partsOf fields) =
      .ok (normalKind (.object properties required additional)) := by
  have hget (keyword : String) : fields.get? keyword = _ :=
    congrArg (Fields.get? · keyword) hfields.symm
  simp only [written, toFields, typeField, Fields.get?_append, Fields.get?_cons,
    Fields.get?_fieldIfSome, Fields.get?_fieldUnlessEmpty] at hget
  have hlisted : ((partsOf fields).named "properties").getD (.ok []) =
      .ok (NameMap.ofList (normalProperties properties)).entries := by
    have hnamed := named_written hproperties "properties"
    cases properties with
    | nil =>
      have hnone : fields.get? "properties" = none := by simp [hget, propertyFields]
      simp only [partsOf, hnone]
      rfl
    | cons p rest =>
      have hsome : fields.get? "properties" = some (.object
          (NameMap.ofList (propertyFields dialect (p :: rest))).entries) := by
        simp [hget, propertyFields]
      simp only [partsOf, hsome, Option.map_some, Option.getD_some, hnamed]
  have hrequired : requiredNames fields = .ok required := by
    refine requiredNames_eq ?_
    simp [hget]
  have hadditional : additionalOf fields (partsOf fields) = .ok (normalAdditional additional) := by
    have hvalue : fields.get? "additionalProperties" = additionalValue dialect additional := by
      simp [hget]
    simp only [additionalOf, partsOf, hvalue]
    cases additional with
    | undeclared => rfl
    | allowed any => rfl
    | values schema =>
      simp only [additionalValue, toJson_eq, Option.map_some]
      rw [← toJson_eq, hvalues schema rfl]
      rfl
  rw [objectKind_eq, hlisted, hrequired, hadditional]
  rfl

theorem arrayKind_written {items : Option Schema} {minItems : Nat} {maxItems : Option Nat}
    {fields : Fields}
    (hfields : written dialect ⟨.array items minItems maxItems, description⟩ = fields)
    (hitems : ∀ schema, items = some schema →
      ofJson (schema.toJson dialect) = .ok schema.normal) :
    arrayKind fields (partsOf fields) = .ok (normalKind (.array items minItems maxItems)) := by
  have hget (keyword : String) : fields.get? keyword = _ :=
    congrArg (Fields.get? · keyword) hfields.symm
  simp only [written, toFields, typeField, leastField, Fields.get?_append, Fields.get?_cons,
    Fields.get?_fieldIfSome] at hget
  have hread : itemsOf (partsOf fields) = .ok (normalItems items) := by
    have hvalue : fields.get? "items" = itemsValue dialect items := by simp [hget]
    simp only [itemsOf, partsOf, hvalue]
    cases items with
    | none => rfl
    | some schema =>
      simp only [itemsValue, Option.map_some, hitems schema rfl]
      rfl
  obtain ⟨least, hleast, hminItems⟩ :
      ∃ count, count? fields "minItems" = .ok count ∧ count.getD 0 = minItems := by
    refine count?_least ?_
    simp [hget]
  have hmaxItems : count? fields "maxItems" = .ok maxItems := by
    refine count?_eq ?_
    simp [hget]
  rw [arrayKind_eq, hread, hleast, hmaxItems, ← hminItems]
  rfl

theorem classify_of_hasType {kind : Kind} (h : hasType kind) {fields : Fields}
    (hfields : written dialect ⟨kind, description⟩ = fields) :
    declaredType fields = .ok (some kind.name) ∧
      classify fields (partsOf fields) = typedKind fields (partsOf fields) := by
  obtain ⟨htype, hnone⟩ := get?_toFields_of_hasType dialect h
  refine ⟨declaredType_eq ?_, classify_eq_typedKind ?_⟩
  · rw [← hfields, get?_written, htype]
    simp
  · intro keyword hkeyword
    have hother : "description" ≠ keyword := by
      rintro rfl
      simp at hkeyword
    rw [← hfields, get?_written, if_neg hother, Option.none_or]
    exact hnone keyword (List.mem_append_left ["description"] hkeyword)

theorem typedKind_written {kind : Kind} (h : hasType kind) (hwritable : kind.Writable)
    (hread : ∀ child ∈ children ⟨kind, description⟩,
      ofJson (child.toJson dialect) = .ok child.normal)
    {fields : Fields} (hfields : written dialect ⟨kind, description⟩ = fields) :
    typedKind fields (partsOf fields) = .ok (normalKind kind) := by
  rw [typedKind, (classify_of_hasType h hfields).1]
  cases kind with
  | boolean => rfl
  | integer shape =>
    simp only [Kind.name, ← hfields, integerShape_written]
    rfl
  | number shape =>
    simp only [Kind.name, ← hfields, numberShape_written dialect description hwritable]
    rfl
  | string shape =>
    simp only [Kind.name, ← hfields, stringShape_written]
    rfl
  | object properties required additional =>
    refine objectKind_written hfields ?_ ?_
    · intro name schema hfind
      exact hread schema (mem_children_of_property? hfind)
    · rintro schema rfl
      exact hread schema mem_children_of_values
  | array items minItems maxItems =>
    refine arrayKind_written hfields ?_
    rintro schema rfl
    exact hread schema (List.mem_singleton_self schema)
  | _ => cases h

end Kinds

end Written

/-- A schema that is written in either dialect is read as it was. -/
theorem ofJson_toJson (dialect : Dialect) {schema : Schema} (h : schema.Writable) :
    ofJson (schema.toJson dialect) = .ok schema.normal := by
  induction schema using induction_on_children with
  | node schema ih =>
    have hread : ∀ child ∈ schema.children, ofJson (child.toJson dialect) = .ok child.normal :=
      fun child hchild => ih child hchild (h.of_mem_children hchild)
    have hself := h schema .self
    obtain ⟨kind, description⟩ := schema
    refine ofJson_toJson_of_classify dialect ?_
    -- A type is looked at only when none of the keywords of the other kinds is there.
    by_cases htype : hasType kind
    · rw [(classify_of_hasType htype rfl).2]
      exact typedKind_written htype hself hread rfl
    · cases kind with
      | combinator combinator members => exact classify_combinator hread
      | reference path target =>
        obtain rfl : target = targetOf path := hself
        exact classify_reference
      | fragment => exact classify_fragment
      | not schema => exact classify_not (hread schema (List.mem_singleton_self schema))
      | _ => exact absurd rfl htype

end Schema

theorem NameMap.matches?_map {α β : Type} {m : NameMap α} {test : α → β → Bool} {value : α → β}
    (h : ∀ name inner, m.find? name = some inner → test inner (value inner)) :
    (m.map test).matches? (m.map value) := by
  have hnames : (m.map test).names = (m.map value).names := by
    simp [names, map, Function.comp_def]
  rw [matches?, hnames, Bool.and_eq_true]
  refine ⟨beq_self_eq_true _, ?_⟩
  rw [map, map, List.zip_map', List.all_map, List.all_eq_true]
  rintro ⟨name, inner⟩ hmem
  exact h name inner (mem_entries_iff.mp hmem)

theorem Double.same_self {x : Double} (h : x.isFinite) : x.same x := by
  have hnumber : x.isNaN = false := by
    simp only [isFinite, isNaN, decide_eq_true_eq, decide_eq_false_iff_not] at h ⊢
    omega
  simp [same, hnumber]

theorem NumberShape.same_self {shape : NumberShape} (h : (Kind.number shape).Writable) :
    shape.same shape := by
  obtain ⟨format, minimum, maximum⟩ := shape
  have hself : ∀ limit : Option (Bound Double), (∀ bound, limit = some bound →
      bound.value.isFinite) → optionSame Bound.same limit limit := by
    intro limit hfinite
    cases limit with
    | none => rfl
    | some bound => simp [optionSame, Bound.same, Double.same_self (hfinite bound rfl)]
  have hminimum := hself minimum fun bound hbound => h bound (.inl hbound)
  have hmaximum := hself maximum fun bound hbound => h bound (.inr hbound)
  simp [same, hminimum, hmaximum]

namespace Schema

theorem propertyTests_eq_map (properties : List (String × Schema)) :
    propertyTests properties = properties.map fun p => (p.1, same p.2) := by
  induction properties with
  | nil => rfl
  | cons p rest ih => rw [propertyTests, ih, List.map_cons]

theorem sameMembers_normal {members : List Schema}
    (h : ∀ member ∈ members, member.same member.normal) :
    sameMembers members (normalMembers members) := by
  induction members with
  | nil => rfl
  | cons member rest ih =>
    obtain ⟨hmember, hrest⟩ := List.forall_mem_cons.mp h
    rw [normalMembers, sameMembers, hmember, ih hrest]
    rfl

/-- A schema is equal to its normal form. -/
theorem same_normal {schema : Schema} (h : schema.Writable) : schema.same schema.normal := by
  induction schema using induction_on_children with
  | node schema ih =>
    have hsame : ∀ child ∈ schema.children, child.same child.normal :=
      fun child hchild => ih child hchild (h.of_mem_children hchild)
    have hself := h schema .self
    obtain ⟨kind, description⟩ := schema
    suffices hkind : sameKind kind (normalKind kind) by
      rw [same, normal, hkind]
      simp
    cases kind with
    | number shape => exact NumberShape.same_self hself
    | object properties required additional =>
      have hlisted : (NameMap.ofList (propertyTests properties)).matches?
          (NameMap.ofList (NameMap.ofList (normalProperties properties)).entries) := by
        rw [NameMap.ofList_entries, ofList_normalProperties, propertyTests_eq_map,
          NameMap.ofList_map]
        refine NameMap.matches?_map ?_
        intro name child hfind
        exact hsame child (mem_children_of_property? hfind)
      have hadditional : sameAdditional additional (normalAdditional additional) := by
        cases additional with
        | undeclared => rfl
        | allowed any => simp [sameAdditional, normalAdditional]
        | values child => exact hsame child mem_children_of_values
      rw [normalKind, sameKind, hlisted, hadditional]
      simp
    | array items minItems maxItems =>
      have hitems : sameItems items (normalItems items) := by
        cases items with
        | none => rfl
        | some child => exact hsame child (List.mem_singleton_self child)
      rw [normalKind, sameKind, hitems]
      simp
    | combinator combinator members =>
      have hmembers : sameMembers members (normalMembers members) := sameMembers_normal hsame
      rw [normalKind, sameKind, hmembers]
      simp
    | not child => exact hsame child (List.mem_singleton_self child)
    | _ => simp [sameKind, normalKind]

end Schema

namespace Document

theorem componentsOf_toJson (dialect : Dialect) {document : Document}
    (h : ∀ name schema, document.components.find? name = some schema → schema.Writable) :
    componentsOf (document.toJson dialect) = .ok document.normal.components := by
  have hlisted : ((document.toJson dialect).field? "components").bind (·.field? "schemas") =
      some (.object (document.components.map (Schema.toJson dialect)).entries) := by
    simp [toJson, Json.field?, NameMap.findLast?, Json.ofMap]
  rw [componentsOf, hlisted]
  dsimp only
  rw [NameMap.ofList_entries]
  refine NameMap.traverse_map_eq_ok ?_
  intro name schema hfind
  rw [Schema.ofJson_toJson dialect (h name schema hfind)]
  rfl

theorem ofJson_toJson (dialect : Dialect) {document : Document}
    (h : ∀ name schema, document.components.find? name = some schema → schema.Writable) :
    ofJson (document.toJson dialect) = .ok document.normal := by
  obtain ⟨title, version, components⟩ := document
  let info : Schema.Fields := Json.fieldIfSome "title" .string title ++
    Json.fieldIfSome "version" .string version
  have htitle : info.text? "title" = title := Schema.Fields.text?_eq (by simp [info])
  have hversion : info.text? "version" = version := Schema.Fields.text?_eq (by simp [info])
  have hread : ofJson (toJson dialect ⟨title, version, components⟩) =
      componentsOf (toJson dialect ⟨title, version, components⟩) >>= fun read =>
        .ok ⟨info.text? "title", info.text? "version", read⟩ := rfl
  rw [hread, componentsOf_toJson dialect h, htitle, hversion]
  rfl

theorem build_toJson (dialect : Dialect) {document : Document}
    (h : ∀ name schema, document.components.find? name = some schema → schema.Writable)
    (options : Options) :
    (ofJson (document.toJson dialect)).map (·.build options) = .ok (document.build options) := by
  rw [ofJson_toJson dialect h, Except.map, build_normal]

end Document

namespace Schema

/-- Whichever dialect a schema is written in, it is read as the same schema, wherever it stands,
and what is read is built as the schema is, alone and as the component of a document. -/
theorem reads_back {schema : Schema} (h : schema.Writable) :
    (∀ dialect place, within place (ofJson (schema.toJson dialect)) = .ok schema.normal) ∧
      schema.same schema.normal ∧
      (∀ name builder, (Builder.dispatch schema.normal name).run builder =
        (Builder.dispatch schema name).run builder) ∧
      ∀ dialect title version name options,
        let document : Document := ⟨title, version, NameMap.empty.insert name schema⟩
        (Document.ofJson (document.toJson dialect)).map (·.build options) =
          .ok (document.build options) := by
  refine ⟨?_, same_normal h, ?_, ?_⟩
  · intro dialect place
    rw [ofJson_toJson dialect h]
    rfl
  · intro name builder
    rw [Builder.run_dispatch, Builder.run_dispatch, schema.walksAsNormal.1]
  · intro dialect title version name options document
    refine Document.build_toJson dialect ?_ options
    intro other inner hfind
    have hinner : (if other = name then some schema else none) = some inner := by
      rwa [NameMap.find?_insert] at hfind
    obtain ⟨-, heq⟩ := Option.ite_none_right_eq_some.mp hinner
    exact Option.some.inj heq ▸ h

/-- A price above zero, with the limit left out, beside references. -/
theorem reads_back_exclusive :
    let price : Schema := ⟨.number ⟨none, some ⟨.zero, true⟩, none⟩, some "The price."⟩
    let owner : Schema := ⟨reference "Owner", none⟩
    let pet : Schema := ⟨.object [("price", price)] ["price"] (.values owner), none⟩
    price.toJson .flags = .object [("type", .string "number"), ("minimum", .float .zero),
        ("exclusiveMinimum", .bool true), ("description", .string "The price.")] ∧
      price.toJson .limits = .object [("type", .string "number"),
        ("exclusiveMinimum", .float .zero), ("description", .string "The price.")] ∧
      pet.Writable ∧
      (∀ dialect place, within place (ofJson (pet.toJson dialect)) = .ok pet.normal) ∧
      pet.same pet.normal := by
  intro price owner pet
  have hprice : price.Writable := by
    refine writable_iff.mpr ⟨?_, by simp [children, price]⟩
    rintro bound (h | h)
    · cases h
      decide
    · cases h
  have howner : owner.Writable := by
    have htarget : some "Owner" = targetOf (componentRoot ++ "Owner") := by decide +kernel
    exact writable_iff.mpr ⟨htarget, by simp [children, owner, reference]⟩
  have hpet : pet.Writable := by
    have hchildren : pet.children = [price, owner] := rfl
    refine writable_iff.mpr ⟨trivial, ?_⟩
    simp [hchildren, hprice, howner]
  exact ⟨rfl, rfl, hpet, (reads_back hpet).1, (reads_back hpet).2.1⟩

end Schema

end SchemaCatalog

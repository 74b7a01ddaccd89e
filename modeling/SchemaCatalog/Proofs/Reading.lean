import SchemaCatalog.Document
import SchemaCatalog.Proofs.NameMap

/-!
What a value is read from. A schema that is read well has its parts from the fields of a schema
object: each part is the reading of what stands under a keyword, or inside that under a name or at
an index. So whatever a schema contains is the reading of a value at a place that the schema tells.
-/
namespace SchemaCatalog

namespace Schema

/-- The schema that a value at a place is, as far as can be told with the text of the place alone:
a fault is told by the text of its own place and by its message. -/
def ofJsonAt (path : String) (value : Json) : Except (String × String) Schema :=
  (ofJson value).mapError fun fault => (Document.placeText path fault.place, fault.defect.message)

theorem within_eq_ok_iff {α : Type} {steps : Pointer} {reading : Except Fault α} {value : α} :
    within steps reading = .ok value ↔ reading = .ok value := by
  cases reading <;> simp [within]

theorem within_eq_error_iff {α : Type} {steps : Pointer} {reading : Except Fault α} {fault : Fault} :
    within steps reading = .error fault ↔
      ∃ inner, reading = .error inner ∧ fault = ⟨steps ++ inner.place, inner.defect⟩ := by
  cases reading <;> simp [within, eq_comm]

theorem map_eq_ok_iff {α β : Type} {f : α → β} {reading : Except Fault α} {value : β} :
    reading.map f = .ok value ↔ ∃ inner, reading = .ok inner ∧ f inner = value := by
  cases reading <;> simp [Except.map]

section Parts

variable (keyword : String) (fields : Fields)

theorem schemaUnder_eq :
    schemaUnder keyword fields =
      (fields.get? keyword).map fun value => within [keyword] (ofJson value) := by
  induction fields with
  | nil => rfl
  | cons field rest ih =>
    rw [schemaUnder, ih, Fields.get?, Fields.get?, NameMap.findLast?]
    cases NameMap.findLast? keyword rest <;> by_cases h : field.1 = keyword <;> simp [h]

theorem membersUnder_eq :
    membersUnder keyword fields =
      (fields.get? keyword).map fun value => within [keyword] (members value) := by
  induction fields with
  | nil => rfl
  | cons field rest ih =>
    rw [membersUnder, ih, Fields.get?, Fields.get?, NameMap.findLast?]
    cases NameMap.findLast? keyword rest <;> by_cases h : field.1 = keyword <;> simp [h]

theorem namedUnder_eq :
    namedUnder keyword fields = (fields.get? keyword).map (named keyword) := by
  induction fields with
  | nil => rfl
  | cons field rest ih =>
    rw [namedUnder, ih, Fields.get?, Fields.get?, NameMap.findLast?]
    cases NameMap.findLast? keyword rest <;> by_cases h : field.1 = keyword <;> simp [h]

/-- The readings of what a schema object has under its keywords. -/
def partsOf : Parts where
  schema keyword := (fields.get? keyword).map fun value => within [keyword] (ofJson value)
  members keyword := (fields.get? keyword).map fun value => within [keyword] (members value)
  named keyword := (fields.get? keyword).map (named keyword)

theorem ofJson_object :
    ofJson (.object fields) =
      classify fields (partsOf fields) >>= fun kind =>
        .ok ⟨kind, fields.text? "description"⟩ := by
  have hparts : partsOf fields = ⟨fun keyword => schemaUnder keyword fields,
      fun keyword => membersUnder keyword fields, fun keyword => namedUnder keyword fields⟩ := by
    simp only [partsOf, schemaUnder_eq, membersUnder_eq, namedUnder_eq]
  rw [hparts]
  rfl

end Parts

theorem membersFrom_eq_ok_iff {index : Nat} {values : List Json} {schemas : List Schema} :
    membersFrom index values = .ok schemas ↔
      List.Forall₂ (fun value schema => ofJson value = .ok schema) values schemas := by
  induction values generalizing index schemas with
  | nil => simp [membersFrom, eq_comm]
  | cons value rest ih =>
    simp only [membersFrom, bind_eq_ok_iff, within_eq_ok_iff, ih, List.forall₂_cons_left_iff,
      pure, Except.pure, Except.ok.injEq]
    constructor
    · rintro ⟨schema, hschema, others, hothers, rfl⟩
      exact ⟨schema, others, hschema, hothers, rfl⟩
    · rintro ⟨schema, others, hschema, hothers, rfl⟩
      exact ⟨schema, hschema, others, hothers, rfl⟩

theorem members_eq_ok_iff {value : Json} {schemas : List Schema} :
    members value = .ok schemas ↔ ∃ values, value = .array values ∧
      List.Forall₂ (fun value schema => ofJson value = .ok schema) values schemas := by
  cases value with
  | array values => simp [members, membersFrom_eq_ok_iff]
  | _ => simp [members, fail]

theorem readings_eq_map (fields : Fields) :
    readings fields = fields.map fun p => (p.1, ofJson p.2) := by
  induction fields with
  | nil => rfl
  | cons field rest ih => rw [readings, ih, List.map_cons]

theorem named_object (keyword : String) (fields : Fields) :
    named keyword (.object fields) =
      (((NameMap.ofList fields).map ofJson).traverse fun name reading =>
        within [keyword, name] reading) >>= fun schemas => .ok schemas.entries := by
  rw [named, readings_eq_map, NameMap.ofList_map]
  rfl

/-- What is read under a name is the reading of what stands there. -/
theorem exists_of_named {keyword : String} {value : Json} {properties : List (String × Schema)}
    (h : named keyword value = .ok properties) {name : String} {schema : Schema}
    (hfind : (NameMap.ofList properties).find? name = some schema) :
    ∃ inner, value.field? name = some inner ∧ ofJson inner = .ok schema := by
  cases value with
  | object fields =>
    rw [named_object] at h
    obtain ⟨schemas, hschemas, heq⟩ := bind_eq_ok_iff.mp h
    obtain rfl : schemas.entries = properties := Except.ok.inj heq
    rw [NameMap.ofList_entries] at hfind
    obtain ⟨reading, hreading, hwithin⟩ := NameMap.exists_of_traverse hschemas hfind
    rw [NameMap.find?_map, Option.map_eq_some_iff] at hreading
    obtain ⟨inner, hinner, rfl⟩ := hreading
    rw [NameMap.find?_ofList] at hinner
    exact ⟨inner, hinner, within_eq_ok_iff.mp hwithin⟩
  | _ => simp [named, fail] at h

section Kinds

variable {fields : Fields} {parts : Parts} {kind : Kind}

/-- A schema object is a reference, a combinator, a negation, or has a type. -/
theorem classify_cases (h : classify fields parts = .ok kind) :
    (∃ path, fields.get? "$ref" = some (.string path) ∧
      kind = .reference path (targetOf path)) ∨
    (∃ combinator members, parts.members combinator.keyword = some (.ok members) ∧
      kind = .combinator combinator members) ∨
    (∃ schema, parts.schema "not" = some (.ok schema) ∧ kind = .not schema) ∨
    typedKind fields parts = .ok kind := by
  unfold classify at h
  split at h
  · rename_i path hpath
    exact .inl ⟨path, hpath, (Except.ok.inj h).symm⟩
  · cases h
  · dsimp only at h
    split at h
    · rename_i combinator reading hcombined
      obtain ⟨members, rfl, rfl⟩ := map_eq_ok_iff.mp h
      obtain ⟨found, -, hfound⟩ := List.exists_of_findSome?_eq_some hcombined
      obtain ⟨reading, hreading, hpair⟩ := Option.map_eq_some_iff.mp hfound
      cases hpair
      exact .inr (.inl ⟨combinator, members, hreading, rfl⟩)
    · split at h
      · rename_i reading hnot
        obtain ⟨schema, rfl, rfl⟩ := map_eq_ok_iff.mp h
        exact .inr (.inr (.inl ⟨schema, hnot, rfl⟩))
      · exact .inr (.inr (.inr h))

/-- Whether a kind is told by its type. -/
def hasType : Kind → Bool
  | .combinator .. | .reference .. | .fragment | .not _ => false
  | _ => true

/-- A schema whose kind is told by its type is read from an object, by this type. -/
theorem typedKind_of_ofJson {value : Json} {description : Option String}
    (hread : ofJson value = .ok ⟨kind, description⟩) (htype : hasType kind) :
    ∃ fields, value = .object fields ∧ typedKind fields (partsOf fields) = .ok kind := by
  cases value with
  | bool flag => cases flag <;> (cases hread; cases htype)
  | object fields =>
    rw [ofJson_object] at hread
    obtain ⟨found, hkind, heq⟩ := bind_eq_ok_iff.mp hread
    cases heq
    refine ⟨fields, rfl, ?_⟩
    rcases classify_cases hkind with ⟨path, -, rfl⟩ | ⟨combinator, members, -, rfl⟩ |
      ⟨schema, -, rfl⟩ | htyped
    · cases htype
    · cases htype
    · cases htype
    · exact htyped
  | _ => cases hread

/-- A schema with a type is an object, an array, or has no parts. -/
theorem typedKind_cases (h : typedKind fields parts = .ok kind) :
    objectKind fields parts = .ok kind ∨ arrayKind fields parts = .ok kind ∨
      kind = .boolean ∨ (∃ shape, kind = .integer shape) ∨ (∃ shape, kind = .number shape) ∨
      (∃ shape, kind = .string shape) ∨ kind = .fragment := by
  obtain ⟨declared, -, h⟩ := bind_eq_ok_iff.mp h
  split at h
  · exact .inr (.inr (.inl (Except.ok.inj h).symm))
  · obtain ⟨shape, -, heq⟩ := bind_eq_ok_iff.mp h
    cases heq
    simp
  · obtain ⟨shape, -, heq⟩ := bind_eq_ok_iff.mp h
    cases heq
    simp
  · obtain ⟨shape, -, heq⟩ := bind_eq_ok_iff.mp h
    cases heq
    simp
  · exact .inl h
  · exact .inr (.inl h)
  · cases h
  · split at h
    · exact .inl h
    · split at h
      · exact .inr (.inl h)
      · cases h
        simp

/-- What an object says about properties that it does not list. -/
def additionalOf (fields : Fields) (parts : Parts) : Except Fault (Additional Schema) :=
  match fields.get? "additionalProperties" with
  | some (.bool any) => .ok (.allowed any)
  | _ => match parts.schema "additionalProperties" with
    | some reading => reading.map .values
    | none => .ok .undeclared

theorem objectKind_eq (fields : Fields) (parts : Parts) :
    objectKind fields parts =
      ((parts.named "properties").getD (.ok []) >>= fun properties =>
        requiredNames fields >>= fun required =>
          additionalOf fields parts >>= fun additional =>
            .ok (.object properties required additional)) := by
  unfold objectKind additionalOf
  generalize fields.get? "additionalProperties" = clause
  generalize parts.schema "additionalProperties" = reading
  cases clause with
  | none => cases reading <;> rfl
  | some value => cases value <;> cases reading <;> rfl

def itemsOf (parts : Parts) : Except Fault (Option Schema) :=
  match parts.schema "items" with
  | some reading => reading.map some
  | none => .ok none

theorem arrayKind_eq (fields : Fields) (parts : Parts) :
    arrayKind fields parts =
      (itemsOf parts >>= fun items =>
        count? fields "minItems" >>= fun minItems =>
          count? fields "maxItems" >>= fun maxItems =>
            .ok (.array items (minItems.getD 0) maxItems)) := by
  unfold arrayKind itemsOf
  cases parts.schema "items" <;> rfl

theorem objectKind_eq_ok (h : objectKind fields parts = .ok kind) :
    ∃ properties required additional, kind = .object properties required additional ∧
      (parts.named "properties").getD (.ok []) = .ok properties ∧
      ∀ schema, additional = .values schema →
        parts.schema "additionalProperties" = some (.ok schema) := by
  rw [objectKind_eq] at h
  obtain ⟨properties, hproperties, h⟩ := bind_eq_ok_iff.mp h
  obtain ⟨required, -, h⟩ := bind_eq_ok_iff.mp h
  obtain ⟨additional, hadditional, h⟩ := bind_eq_ok_iff.mp h
  refine ⟨properties, required, additional, (Except.ok.inj h).symm, hproperties, ?_⟩
  rintro schema rfl
  unfold additionalOf at hadditional
  split at hadditional
  · cases hadditional
  · split at hadditional
    · rename_i reading hreading
      obtain ⟨inner, rfl, heq⟩ := map_eq_ok_iff.mp hadditional
      cases heq
      exact hreading
    · cases hadditional

theorem arrayKind_eq_ok (h : arrayKind fields parts = .ok kind) :
    ∃ items minItems maxItems, kind = .array items minItems maxItems ∧
      itemsOf parts = .ok items := by
  rw [arrayKind_eq] at h
  obtain ⟨items, hitems, h⟩ := bind_eq_ok_iff.mp h
  obtain ⟨minItems, -, h⟩ := bind_eq_ok_iff.mp h
  obtain ⟨maxItems, -, h⟩ := bind_eq_ok_iff.mp h
  exact ⟨items, minItems.getD 0, maxItems, (Except.ok.inj h).symm, hitems⟩

end Kinds

/-- That a kind has its parts from what a value holds: each part is the reading of one value
below. -/
def ReadFrom (value : Json) : Kind → Prop
  | .reference path target => value.field? "$ref" = some (.string path) ∧ target = targetOf path
  | .combinator combinator members => ∃ values,
      value.field? combinator.keyword = some (.array values) ∧
        List.Forall₂ (fun inner schema => ofJson inner = .ok schema) values members
  | .object properties _ additional =>
      (∀ name schema, (NameMap.ofList properties).find? name = some schema →
        ∃ listed inner, value.field? "properties" = some listed ∧
          listed.field? name = some inner ∧ ofJson inner = .ok schema) ∧
      ∀ schema, additional = .values schema →
        ∃ inner, value.field? "additionalProperties" = some inner ∧ ofJson inner = .ok schema
  | .array items _ _ =>
      Option.Rel (fun inner schema => ofJson inner = .ok schema) (value.field? "items") items
  | _ => True

section Values

variable {fields : Fields} {keyword : String}

theorem exists_of_schema_partsOf {schema : Schema}
    (h : (partsOf fields).schema keyword = some (.ok schema)) :
    ∃ inner, fields.get? keyword = some inner ∧ ofJson inner = .ok schema := by
  obtain ⟨inner, hinner, hwithin⟩ := Option.map_eq_some_iff.mp h
  exact ⟨inner, hinner, within_eq_ok_iff.mp hwithin⟩

theorem exists_of_members_partsOf {members : List Schema}
    (h : (partsOf fields).members keyword = some (.ok members)) :
    ∃ values, fields.get? keyword = some (.array values) ∧
      List.Forall₂ (fun inner schema => ofJson inner = .ok schema) values members := by
  obtain ⟨inner, hinner, hwithin⟩ := Option.map_eq_some_iff.mp h
  obtain ⟨values, rfl, hmembers⟩ := members_eq_ok_iff.mp (within_eq_ok_iff.mp hwithin)
  exact ⟨values, hinner, hmembers⟩

theorem exists_of_named_partsOf {properties : List (String × Schema)}
    (h : ((partsOf fields).named keyword).getD (.ok []) = .ok properties) {name : String}
    {schema : Schema} (hfind : (NameMap.ofList properties).find? name = some schema) :
    ∃ listed inner, fields.get? keyword = some listed ∧ listed.field? name = some inner ∧
      ofJson inner = .ok schema := by
  cases hlisted : fields.get? keyword with
  | none =>
    obtain rfl : [] = properties := by simpa [partsOf, hlisted] using h
    cases hfind
  | some listed =>
    have hnamed : named keyword listed = .ok properties := by
      simpa [partsOf, hlisted] using h
    obtain ⟨inner, hinner, hread⟩ := exists_of_named hnamed hfind
    exact ⟨listed, inner, rfl, hinner, hread⟩

theorem rel_of_itemsOf {items : Option Schema} (h : itemsOf (partsOf fields) = .ok items) :
    Option.Rel (fun inner schema => ofJson inner = .ok schema) (fields.get? "items") items := by
  unfold itemsOf partsOf at h
  cases hitems : fields.get? "items" with
  | none =>
    obtain rfl : none = items := by simpa [hitems] using h
    exact .none
  | some inner =>
    simp only [hitems, Option.map_some] at h
    obtain ⟨schema, hschema, rfl⟩ := map_eq_ok_iff.mp h
    exact .some (within_eq_ok_iff.mp hschema)

/-- Whatever a schema is read from, its parts are read from what lies below. -/
theorem readFrom_of_ofJson {value : Json} {schema : Schema} (h : ofJson value = .ok schema) :
    ReadFrom value schema.kind := by
  cases value with
  | bool flag => cases flag <;> (cases h; trivial)
  | object fields =>
    rw [ofJson_object] at h
    obtain ⟨kind, hkind, heq⟩ := bind_eq_ok_iff.mp h
    cases heq
    rcases classify_cases hkind with ⟨path, hpath, rfl⟩ | ⟨combinator, members, hmembers, rfl⟩ |
      ⟨schema, -, rfl⟩ | htyped
    · exact ⟨hpath, rfl⟩
    · exact exists_of_members_partsOf hmembers
    · trivial
    · rcases typedKind_cases htyped with hobject | harray | rfl | ⟨shape, rfl⟩ | ⟨shape, rfl⟩ |
        ⟨shape, rfl⟩ | rfl
      · obtain ⟨properties, required, additional, rfl, hnamed, hvalues⟩ := objectKind_eq_ok hobject
        refine ⟨fun name schema hfind => exists_of_named_partsOf hnamed hfind, ?_⟩
        exact fun schema hadditional => exists_of_schema_partsOf (hvalues schema hadditional)
      · obtain ⟨items, minItems, maxItems, rfl, hitems⟩ := arrayKind_eq_ok harray
        exact rel_of_itemsOf hitems
      all_goals trivial
  | _ => cases h

end Values

end Schema

end SchemaCatalog

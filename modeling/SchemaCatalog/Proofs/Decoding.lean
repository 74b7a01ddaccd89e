import SchemaCatalog.Catalog.Decoding
import SchemaCatalog.Catalog.Encoding
import SchemaCatalog.Proofs.Registry
import SchemaCatalog.Proofs.Rendering
import Mathlib.Data.List.Nodup

/-!
Catalogs read back from the values that they are written as. Each record is read from its fields,
whichever of them are left out, and comes back as it was. Only limits that are not finite are lost:
there is no number for them, so they are written as null and read as no limit at all.
-/
namespace SchemaCatalog

namespace Json

open Schema (Fields)

section Records

variable {α β : Type}

/-- An object in which no name is given twice has the fields of a record under their names. -/
theorem record?_object {names : List String} {required : Nat} {fields : Fields}
    (h : (fields.map (·.1)).Nodup) :
    record? names required (.object fields) = some (names.map fields.get?) := by
  have hcount : ∀ name, (fields.filter (·.1 == name)).length ≤ 1 := by
    intro name
    rw [← List.countP_eq_length_filter]
    have hone := List.nodup_iff_count_le_one.mp h name
    rwa [List.count, List.countP_map] at hone
  have hnone : (names.any fun name => 1 < (fields.filter (·.1 == name)).length) = false := by
    rw [List.any_eq_false]
    intro name _
    have hle := hcount name
    simp only [decide_eq_true_eq]
    omega
  simp only [record?, hnone]
  rfl

theorem fst_fieldIfSome (name : String) (encode : α → Json) (value : Option α) :
    ((fieldIfSome name encode value).map (·.1)).Sublist [name] := by
  cases value with
  | none => exact List.nil_sublist _
  | some value => exact List.Sublist.refl _

theorem fst_fieldUnlessEmpty (name : String) (encode : List α → Json) (values : List α) :
    ((fieldUnlessEmpty name encode values).map (·.1)).Sublist [name] := by
  cases values with
  | nil => exact List.nil_sublist _
  | cons value rest => exact List.Sublist.refl _

theorem optional_ofOption {encode : α → Json} {read : Json → Option β} {kept : α → Option β}
    (h : ∀ x, optional read (some (encode x)) = some (kept x)) (value : Option α) :
    optional read (some (ofOption encode value)) = some (value.bind kept) := by
  cases value with
  | none => rfl
  | some x => exact h x

theorem optional_of_ne_null {encode : α → Json} {read : Json → Option β} {kept : α → β}
    (hread : ∀ x, read (encode x) = some (kept x)) (hnull : ∀ x, encode x ≠ .null) (x : α) :
    optional read (some (encode x)) = some (some (kept x)) := by
  have hne := hnull x
  have hsome := hread x
  generalize encode x = written at hne hsome
  cases written with
  | null => exact absurd rfl hne
  | _ => simp only [optional, hsome, Option.map_some]

theorem map?_ofMap {encode : α → Json} {read : Json → Option β} {kept : α → β}
    (h : ∀ x, read (encode x) = some (kept x)) (map : NameMap α) :
    map? read (ofMap encode map) = some (map.map kept) := by
  have hentry : ∀ p : String × α,
      (do return (p.1, ← read (encode p.2)) : Option (String × β)) = pure (p.1, kept p.2) := by
    intro p
    rw [h]
    rfl
  have hentries : ((map.map encode).entries.mapM fun p => do return (p.1, ← read p.2)) =
      some (map.map kept).entries := by
    rw [NameMap.map, List.mapM_map]
    have hstep := congrArg (List.mapM · map.entries) (funext hentry)
    exact hstep.trans List.mapM_pure
  simp only [map?, ofMap]
  rw [hentries]
  exact congrArg some (NameMap.ofList_entries _)

theorem count?_ofCount (count : Nat) : count? (ofCount count) = some count := by
  simp [count?, ofCount]

theorem int64?_ofInt64 (value : Int64) : int64? (ofInt64 value) = some value := by
  have hbounds : Int64.minValue.toInt ≤ value.toInt ∧ value.toInt ≤ Int64.maxValue.toInt :=
    ⟨value.minValue_le_toInt, value.toInt_le⟩
  rw [ofInt64, int64?, if_pos hbounds, Int64.ofInt_toInt]

theorem optional_string? (text : Option String) : optional string? (text.map .string) = some text := by
  cases text <;> rfl

theorem list?_string? (texts : List String) :
    list? string? (.array (texts.map .string)) = some texts := by
  rw [list?, Schema.mapM_string?]

end Records

end Json

/-- A range with what a function makes of each limit, or of its absence; the flags stay. -/
def Range.mapLimits (f : Option Double → Option Double) (range : Range Double) : Range Double :=
  { range with minimum := f range.minimum, maximum := f range.maximum }

/-- A field with the function on its limits, if they are doubles. -/
def Field.mapLimits (f : Option Double → Option Double) : Field → Field
  | .double range => .double (range.mapLimits f)
  | field => field

def Catalog.mapLimits (f : Option Double → Option Double) (catalog : Catalog) : Catalog :=
  { catalog with fields := catalog.fields.map (Field.mapLimits f) }

def finiteLimit (limit : Option Double) : Option Double := limit.filter Double.isFinite

/-- A catalog without the limits that are not finite. -/
def Catalog.finitePart (catalog : Catalog) : Catalog := catalog.mapLimits finiteLimit

/-- That a property holds of the limits of a range, as many as it has. -/
def Range.Limits (P : Double → Prop) (range : Range Double) : Prop :=
  (∀ limit ∈ range.minimum, P limit) ∧ ∀ limit ∈ range.maximum, P limit

/-- That a property holds of all limits of a catalog that are doubles. -/
def Catalog.Limits (P : Double → Prop) (catalog : Catalog) : Prop :=
  ∀ name range, catalog.field? name = some (.double range) → range.Limits P

def Catalog.HasFiniteLimits (catalog : Catalog) : Prop := catalog.Limits (·.isFinite)

theorem Range.mapLimits_eq {P : Double → Prop} {f : Option Double → Option Double}
    (hf : ∀ limit, (∀ x ∈ limit, P x) → f limit = limit) {range : Range Double}
    (h : range.Limits P) : range.mapLimits f = range := by
  obtain ⟨hminimum, hmaximum⟩ := h
  rw [mapLimits, hf _ hminimum, hf _ hmaximum]

/-- A function that leaves some limits alone leaves a catalog with such limits alone. -/
theorem Catalog.mapLimits_eq {P : Double → Prop} {f : Option Double → Option Double}
    (hf : ∀ limit, (∀ x ∈ limit, P x) → f limit = limit) {catalog : Catalog}
    (h : catalog.Limits P) : catalog.mapLimits f = catalog := by
  refine eq_of_find_eq (fun name => ?_) fun name => rfl
  have hfind : (catalog.mapLimits f).field? name = (catalog.field? name).map (Field.mapLimits f) :=
    NameMap.find?_map _ _ _
  rw [hfind]
  cases hfield : catalog.field? name with
  | none => rfl
  | some field =>
    cases field with
    | double range =>
      have hrange := Range.mapLimits_eq hf (h name range hfield)
      simp [Field.mapLimits, hrange]
    | _ => rfl

section RoundTrip

open Json (record?_object optional_ofOption)

variable {α : Type} {encode : α → Json} {read : Json → Option α} {kept : α → Option α}

theorem Range.ofJson?_toJson (h : ∀ x, Json.optional read (some (encode x)) = some (kept x))
    (range : Range α) :
    Range.ofJson? read (range.toJson encode) =
      some { range with
        minimum := range.minimum.bind kept, maximum := range.maximum.bind kept } := by
  unfold Range.ofJson? Range.toJson
  rw [record?_object (by simp)]
  simp [optional_ofOption h, Json.orElse, Json.bool?]

theorem Range.ofJson?_ofInt64 (range : Range Int64) :
    Range.ofJson? Json.int64? (range.toJson .ofInt64) = some range := by
  have hlimit : ∀ x, Json.optional Json.int64? (some (.ofInt64 x)) = some (some x) :=
    Json.optional_of_ne_null Json.int64?_ofInt64 (by simp [Json.ofInt64])
  rw [Range.ofJson?_toJson hlimit, Option.bind_fun_some, Option.bind_fun_some]

theorem Double.optional_ofDouble (x : Double) :
    Json.optional Double.ofJson? (some (.ofDouble x)) = some ((some x).filter Double.isFinite) := by
  cases hfinite : x.isFinite <;> simp [Json.ofDouble, hfinite, Json.optional, ofJson?, Option.filter]

theorem Range.ofJson?_ofDouble (range : Range Double) :
    Range.ofJson? Double.ofJson? (range.toJson .ofDouble) = some (range.mapLimits finiteLimit) := by
  have hbind : ∀ limit : Option Double,
      (limit.bind fun x => (some x).filter Double.isFinite) = limit.filter Double.isFinite := by
    intro limit
    cases limit <;> rfl
  rw [Range.ofJson?_toJson Double.optional_ofDouble, hbind, hbind]
  rfl

theorem LengthRange.ofJson?_toJson (range : LengthRange) :
    LengthRange.ofJson? range.toJson = some range := by
  have hcount : ∀ x, Json.optional Json.count? (some (.ofCount x)) = some (some x) :=
    Json.optional_of_ne_null Json.count?_ofCount (by simp [Json.ofCount])
  unfold LengthRange.ofJson? LengthRange.toJson
  rw [record?_object (by simp)]
  simp [optional_ofOption hcount]

theorem StringField.entries_eq (field : StringField) :
    field.entries = ("length_constraint", field.length.toJson) ::
      (Json.fieldIfSome "pattern" .string field.pattern ++
        Json.fieldIfSome "default_value" .string field.default ++
        Json.fieldIfSome "format" .string field.format ++
        Json.fieldUnlessEmpty "allowed_values" (fun texts => .array (texts.map .string))
          field.allowed) := by
  simp only [StringField.entries, List.cons_append, List.nil_append]
  rfl

theorem StringField.names_entries (field : StringField) :
    (field.entries.map (·.1)).Sublist
      ["length_constraint", "pattern", "default_value", "format", "allowed_values"] := by
  rw [field.entries_eq]
  simp only [List.map_cons, List.map_append]
  have htexts := ((Json.fst_fieldIfSome "pattern" .string field.pattern).append
    (Json.fst_fieldIfSome "default_value" .string field.default)).append
    (Json.fst_fieldIfSome "format" .string field.format)
  exact .cons_cons _ (htexts.append (Json.fst_fieldUnlessEmpty "allowed_values" _ _))

theorem StringField.ofJson?_toJson (field : StringField) :
    StringField.ofJson? field.toJson = some field := by
  have hallowed : Json.orElse [] (Json.list? Json.string?)
      (if field.allowed = [] then none else some (.array (field.allowed.map .string))) =
        some field.allowed := by
    by_cases hnone : field.allowed = []
    · simp [hnone, Json.orElse]
    · simp [hnone, Json.orElse, Json.list?_string?]
  have hnodup : (field.entries.map (·.1)).Nodup := field.names_entries.nodup (by simp)
  have hrecord : ∀ required, Json.record?
      ["length_constraint", "pattern", "default_value", "format", "allowed_values"] required
        field.toJson = some [some field.length.toJson, field.pattern.map .string,
          field.default.map .string, field.format.map .string,
          if field.allowed = [] then none else some (.array (field.allowed.map .string))] := by
    intro required
    rw [StringField.toJson, record?_object hnodup, field.entries_eq]
    simp
  simp only [StringField.ofJson?, hrecord]
  simp [hallowed, Json.need, Json.optional_string?, LengthRange.ofJson?_toJson]

theorem Field.nodup_entries (double : Double → Json) (field : Field) :
    ("kind" :: (field.entries double).map (·.1)).Nodup := by
  cases field with
  | string field =>
    have hnames := List.Sublist.cons_cons "kind" field.names_entries
    exact hnames.nodup (by simp)
  | _ => simp [Field.entries]

theorem Field.ofContent?_entries (field : Field) :
    ofContent? field.kind (.object (field.entries .ofDouble)) =
      some (field.mapLimits finiteLimit) := by
  have hrange : ∀ value, Json.record? ["range_constraint"] 1
      (.object [("range_constraint", value)]) = some [some value] := by
    intro value
    rw [record?_object (by simp)]
    simp
  cases field with
  | boolean => rfl
  | integer range =>
    simp only [ofContent?, kind, entries, hrange]
    simp [Json.need, Range.ofJson?_ofInt64, mapLimits]
  | long range =>
    simp only [ofContent?, kind, entries, hrange]
    simp [Json.need, Range.ofJson?_ofInt64, mapLimits]
  | double range =>
    simp only [ofContent?, kind, entries, hrange]
    simp [Json.need, Range.ofJson?_ofDouble, mapLimits]
  | string field =>
    have hread := field.ofJson?_toJson
    rw [StringField.toJson] at hread
    simp only [ofContent?, kind, entries, hread]
    rfl
  | list element length =>
    have hnames := ((list element length).nodup_entries .ofDouble).tail
    simp only [entries, List.tail_cons] at hnames
    simp only [ofContent?, kind, entries, record?_object hnames]
    simp [Json.need, Json.string?, LengthRange.ofJson?_toJson, mapLimits]
  | map key value length =>
    have hnames := ((map key value length).nodup_entries .ofDouble).tail
    simp only [entries, List.tail_cons] at hnames
    simp only [ofContent?, kind, entries, record?_object hnames]
    simp [Json.need, Json.string?, LengthRange.ofJson?_toJson, mapLimits]

/-- A field comes back without the limits that are not finite. -/
theorem Field.ofJson?_toJson (field : Field) :
    ofJson? field.toJson = some (field.mapLimits finiteLimit) := by
  have hnodup := field.nodup_entries .ofDouble
  obtain ⟨hkind, -⟩ := List.nodup_cons.mp hnodup
  have hfields : ((("kind", Json.string field.kind) :: field.entries .ofDouble).map (·.1)).Nodup :=
    hnodup
  have hbeside : (("kind", Json.string field.kind) :: field.entries .ofDouble).filter
      (·.1 != "kind") = field.entries .ofDouble := by
    rw [List.filter_cons_of_neg (by simp), List.filter_eq_self]
    intro p hp
    have hne : p.1 ≠ "kind" := fun heq => hkind (heq ▸ List.mem_map_of_mem hp)
    simpa using hne
  have hget : Schema.Fields.get? (field.entries .ofDouble) "kind" = none :=
    NameMap.findLast?_eq_none_iff.mpr fun p hp heq => hkind (heq ▸ List.mem_map_of_mem hp)
  simp only [toJson, encode, ofJson?, record?_object hfields, hbeside]
  simp [hget, Json.need, Json.string?, field.ofContent?_entries]

theorem Member.ofJson?_toJson (member : Member) : ofJson? member.toJson = some member := by
  have hnodup : (([("type_name", Json.string member.typeName),
      ("position", Json.ofCount member.position), ("required", Json.bool member.required)] ++
        Json.fieldIfSome "documentation" .string member.documentation).map (·.1)).Nodup := by
    rw [List.map_append]
    have hnames := (List.Sublist.refl ["type_name", "position", "required"]).append
      (Json.fst_fieldIfSome "documentation" .string member.documentation)
    exact hnames.nodup (by simp)
  simp only [ofJson?, toJson, record?_object hnodup]
  simp [Json.need, Json.string?, Json.bool?, Json.count?_ofCount, Json.optional_string?]

theorem Structure.ofJson?_toJson (record : Structure) : ofJson? record.toJson = some record := by
  have hmembers : Json.map? Member.ofJson? (.ofMap Member.toJson record.members) =
      some (record.members.map id) := Json.map?_ofMap Member.ofJson?_toJson _
  rw [NameMap.map_id] at hmembers
  unfold ofJson? toJson
  rw [record?_object (by simp)]
  simp [Json.need, hmembers]

/-- A catalog comes back from the value that it is written as, without the limits that are not
finite. -/
theorem Catalog.ofJson?_toJson (catalog : Catalog) :
    ofJson? catalog.toJson = some catalog.finitePart := by
  have hfields : Json.map? Field.ofJson? (.ofMap Field.toJson catalog.fields) =
      some (catalog.fields.map (Field.mapLimits finiteLimit)) := Json.map?_ofMap Field.ofJson?_toJson _
  have hstructures : Json.map? Structure.ofJson? (.ofMap Structure.toJson catalog.structures) =
      some (catalog.structures.map id) := Json.map?_ofMap Structure.ofJson?_toJson _
  rw [NameMap.map_id] at hstructures
  have hnodup : ([("field_descriptions", Json.ofMap (Field.encode .ofDouble) catalog.fields),
      ("structure_descriptions", Json.ofMap Structure.toJson catalog.structures)].map
        (·.1)).Nodup := by simp
  simp only [ofJson?, toJson, encode, record?_object hnodup]
  change Json.map? Field.ofJson? (.ofMap (Field.encode .ofDouble) catalog.fields) = _ at hfields
  simp [Json.need, hfields, hstructures, finitePart, mapLimits]

end RoundTrip

end SchemaCatalog

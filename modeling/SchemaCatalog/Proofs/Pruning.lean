import SchemaCatalog.Proofs.Keywords

/-!
Values without what is never looked at. At every place where a schema is read the keywords that its
reading does not look at are left out. The value is read as before, as the same schema or with the
same fault, and so is a schema object in which those keywords hold something else.
-/
namespace SchemaCatalog.Schema

mutual

/-- A value without the fields that are not read, in all schemas that it holds. -/
def pruneAs : Holding → Json → Json
  | .schema, .object fields => .object (pruneFields (Fields.readKeywords fields) fields)
  | .members, .array values => .array (pruneValues values)
  | .named, .object fields => .object (pruneNamed fields)
  | _, value => value
termination_by structural _ value => value

def pruneFields (keywords : List String) : List (String × Json) → List (String × Json)
  | [] => []
  | (name, value) :: rest =>
      if name ∈ keywords then (name, pruneAs (holding name) value) :: pruneFields keywords rest
      else pruneFields keywords rest
termination_by structural fields => fields

def pruneValues : List Json → List Json
  | [] => []
  | value :: rest => pruneAs .schema value :: pruneValues rest
termination_by structural values => values

def pruneNamed : List (String × Json) → List (String × Json)
  | [] => []
  | (name, value) :: rest => (name, pruneAs .schema value) :: pruneNamed rest
termination_by structural fields => fields

end

def prune (value : Json) : Json := pruneAs .schema value

theorem get?_pruneFields (keywords : List String) (fields : Fields) (keyword : String) :
    Fields.get? (pruneFields keywords fields) keyword =
      if keyword ∈ keywords then (fields.get? keyword).map (pruneAs (holding keyword)) else none := by
  induction fields with
  | nil => simp [pruneFields, Fields.get?, NameMap.findLast?]
  | cons field rest ih =>
    obtain ⟨name, value⟩ := field
    unfold Fields.get? at ih ⊢
    rw [pruneFields, NameMap.findLast?]
    by_cases hsame : name = keyword
    · subst hsame
      by_cases hread : name ∈ keywords
      · rw [if_pos hread] at ih
        rw [if_pos hread, if_pos hread, NameMap.findLast?, ih]
        cases NameMap.findLast? name rest <;> simp
      · rw [if_neg hread, ih, if_neg hread, if_neg hread]
    · rw [if_neg hsame, Option.or_none, ← ih]
      by_cases hread : name ∈ keywords
      · rw [if_pos hread, NameMap.findLast?, if_neg hsame, Option.or_none]
      · rw [if_neg hread]

theorem pruneValues_eq_map (values : List Json) : pruneValues values = values.map prune := by
  induction values with
  | nil => rfl
  | cons value rest ih => rw [pruneValues, ih, List.map_cons, prune]

theorem pruneNamed_eq_map (fields : List (String × Json)) :
    pruneNamed fields = fields.map fun p => (p.1, prune p.2) := by
  induction fields with
  | nil => rfl
  | cons field rest ih => rw [pruneNamed, ih, List.map_cons, prune]

theorem shows_pruneFields {fields : Fields}
    (ih : ∀ p ∈ fields, ∀ holding, ReadAlike p.2 (pruneAs holding p.2) holding) :
    Fields.Shows (pruneFields fields.readKeywords fields) fields := by
  constructor
  · intro keyword habsent
    rw [get?_pruneFields, habsent, Option.map_none, ite_self]
  · intro keyword hread
    rw [AlikeAt, get?_pruneFields, if_pos hread]
    cases hvalue : fields.get? keyword with
    | none => exact .none
    | some value =>
      have hmem : (keyword, value) ∈ fields := NameMap.mem_of_findLast?_eq_some hvalue
      exact .some (ih _ hmem (holding keyword))

theorem membersFrom_map_prune {values : List Json}
    (ih : ∀ value ∈ values, ofJson (prune value) = ofJson value) (index : Nat) :
    membersFrom index (values.map prune) = membersFrom index values := by
  induction values generalizing index with
  | nil => rfl
  | cons value rest hrest =>
    obtain ⟨hvalue, hlater⟩ := List.forall_mem_cons.mp ih
    rw [List.map_cons, membersFrom, membersFrom, hvalue, hrest hlater]

theorem readings_map_prune {fields : Fields} (ih : ∀ p ∈ fields, ofJson (prune p.2) = ofJson p.2) :
    readings (fields.map fun p => (p.1, prune p.2)) = readings fields := by
  rw [readings_eq_map, readings_eq_map, List.map_map]
  exact List.map_congr_left fun p hp => by rw [Function.comp_apply, ih p hp]

/-- What is left of a value may stand for it wherever a keyword holds it. -/
theorem readAlike_pruneAs (value : Json) (holding : Holding) :
    ReadAlike value (pruneAs holding value) holding := by
  cases value with
  | object fields =>
    have ih : ∀ p ∈ fields, ∀ holding, ReadAlike p.2 (pruneAs holding p.2) holding := by
      intro p hp holding
      exact readAlike_pruneAs p.2 holding
    cases holding with
    | schema => exact ⟨(shows_pruneFields ih).ofJson_eq, by simp [pruneAs]⟩
    | named =>
      intro keyword
      rw [pruneAs, pruneNamed_eq_map, named, named,
        readings_map_prune fun p hp => (ih p hp .schema).1]
    | _ => exact .refl _ _
  | array values =>
    have ih : ∀ inner ∈ values, ofJson (prune inner) = ofJson inner := by
      intro inner hinner
      exact (readAlike_pruneAs inner .schema).1
    cases holding with
    | members =>
      change members (pruneAs .members (.array values)) = members (.array values)
      rw [pruneAs, pruneValues_eq_map, members, members, membersFrom_map_prune ih]
    | _ => exact .refl _ _
  | _ => cases holding <;> exact .refl _ _
termination_by sizeOf value
decreasing_by
  · subst_vars
    exact Json.sizeOf_lt_array hinner
  · subst_vars
    exact Json.sizeOf_lt_object hp

/-- Keywords that are not read make no difference, whatever they hold and wherever a value is: it is
read without them as it is with them, also in all schemas inside it; and a schema object in which
they hold something else, or nothing, is read like the first. -/
theorem unread_keywords_never_matter (path : String) :
    (∀ value, ofJsonAt path (prune value) = ofJsonAt path value) ∧
    ∀ fields other : Fields,
      (∀ keyword ∈ fields.readKeywords, other.get? keyword = fields.get? keyword) →
      (∀ p ∈ other, fields.has p.1) →
      ofJsonAt path (.object other) = ofJsonAt path (.object fields) := by
  constructor
  · intro value
    have halike := readAlike_pruneAs value .schema
    rw [ofJsonAt, ofJsonAt, prune, halike.1]
  · intro fields other hread hnames
    have hshows : other.Shows fields := by
      constructor
      · intro keyword habsent
        by_contra hpresent
        obtain ⟨value, hvalue⟩ := Option.ne_none_iff_exists'.mp hpresent
        have hhas := hnames _ (NameMap.mem_of_findLast?_eq_some hvalue)
        rw [Fields.has, habsent] at hhas
        cases hhas
      · intro keyword hkeyword
        exact .of_get?_eq (hread keyword hkeyword)
    rw [ofJsonAt, ofJsonAt, hshows.ofJson_eq]

/-- A type beside a combinator, and in its member a keyword of texts beside the type of whole
numbers: both are faulty where they are read. -/
theorem unread_keywords_never_matter_faulty :
    let fields : Fields := [("type", .string "integer"), ("minLength", .string "two")]
    let other : Fields := [("minLength", .null), ("type", .string "integer")]
    let value : Json := .object [("type", .int 1), ("allOf", .array
      [.object [("type", .string "integer"), ("minLength", .string "two")]])]
    prune value = .object [("allOf", .array [.object [("type", .string "integer")]])] ∧
      ofJsonAt "#" (prune value) = ofJsonAt "#" value ∧
      (∀ keyword ∈ fields.readKeywords, other.get? keyword = fields.get? keyword) ∧
      (∀ p ∈ other, fields.has p.1) ∧
      ofJsonAt "#" (.object other) = ofJsonAt "#" (.object fields) := by
  intro fields other value
  have hprune : prune value = .object [("allOf", .array [.object [("type", .string "integer")]])] :=
    rfl
  have hkeywords : fields.readKeywords =
      ["description", "type", "format", "minimum", "maximum", "exclusiveMinimum",
        "exclusiveMaximum"] := by decide
  have hread : ∀ keyword ∈ fields.readKeywords, other.get? keyword = fields.get? keyword := by
    rw [hkeywords]
    simp [fields, other, Fields.get?, NameMap.findLast?]
  have hnames : ∀ p ∈ other, fields.has p.1 := by
    simp [fields, other, Fields.has, Fields.get?, NameMap.findLast?]
  obtain ⟨hpruned, hother⟩ := unread_keywords_never_matter "#"
  exact ⟨hprune, hpruned value, hread, hnames, hother fields other hread hnames⟩

end SchemaCatalog.Schema

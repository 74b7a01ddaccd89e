import SchemaCatalog.Proofs.Reading

/-!
Keywords that are read. The first of a few leading keywords, or else the type, decides the kind of a
schema object, and so which other keywords are looked at. Two schema objects of which one has these
keywords alike and no keywords that the other lacks are read as the same schema, or with the same
fault.
-/
namespace SchemaCatalog.Schema

/-- What decides the kind of a schema without regard to its type. -/
inductive Leading where
  | reference
  | composition (combinator : Combinator)
  | negation
deriving DecidableEq, Repr

def Leading.keyword : Leading → String
  | .reference => "$ref"
  | .composition combinator => combinator.keyword
  | .negation => "not"

/-- The first of these of which a schema has the keyword. -/
def Fields.leading? (fields : Fields) : Option Leading :=
  [.reference, .composition .allOf, .composition .anyOf, .composition .oneOf, .negation].find?
    fun leading => fields.has leading.keyword

/-- The type of a schema that declares none. -/
def Fields.impliedType? (fields : Fields) : Option String :=
  if fields.has "properties" || fields.has "additionalProperties" then some "object"
  else if fields.has "items" then some "array"
  else none

/-- The keywords that are read besides the type. -/
def typeKeywords : Option String → List String
  | some "integer" | some "number" =>
      ["format", "minimum", "maximum", "exclusiveMinimum", "exclusiveMaximum"]
  | some "string" => ["enum", "minLength", "maxLength", "pattern", "format", "default"]
  | some "object" => ["properties", "required", "additionalProperties"]
  | some "array" => ["items", "minItems", "maxItems"]
  | _ => []

/-- The keywords that the reading of a schema object looks at. -/
def Fields.readKeywords (fields : Fields) : List String :=
  "description" ::
    match fields.leading? with
    | some leading => [leading.keyword]
    | none =>
        "type" :: match declaredType fields with
          | .ok declared => typeKeywords (declared.or fields.impliedType?)
          | .error _ => []

/-- What a keyword that is read holds. -/
inductive Holding where
  | plain
  | schema
  | members
  | named
deriving DecidableEq, Repr

def holding : String → Holding
  | "not" | "items" | "additionalProperties" => .schema
  | "allOf" | "anyOf" | "oneOf" => .members
  | "properties" => .named
  | _ => .plain

/-- The kind that a leading keyword makes. -/
def leadingKind (fields : Fields) (parts : Parts) : Leading → Except Fault Kind
  | .reference =>
      match fields.get? "$ref" with
      | some (.string path) => .ok (.reference path (targetOf path))
      | _ => fail .referenceNotString
  | .composition combinator =>
      (parts.members combinator.keyword).elim (.ok .fragment) (·.map (.combinator combinator))
  | .negation => (parts.schema "not").elim (.ok .fragment) (·.map .not)

def kindOfType (fields : Fields) (parts : Parts) : Option String → Except Fault Kind
  | some "boolean" => .ok .boolean
  | some "integer" => integerShape fields >>= fun shape => .ok (.integer shape)
  | some "number" => numberShape fields >>= fun shape => .ok (.number shape)
  | some "string" => stringShape fields >>= fun shape => .ok (.string shape)
  | some "object" => objectKind fields parts
  | some "array" => arrayKind fields parts
  | some name => fail (.unknownType name)
  | none => .ok .fragment

theorem typedKind_eq_kindOfType (fields : Fields) (parts : Parts) :
    typedKind fields parts = declaredType fields >>= fun declared =>
      kindOfType fields parts (declared.or fields.impliedType?) := by
  refine congrArg (declaredType fields >>= ·) (funext fun declared => ?_)
  cases declared with
  | none =>
    rw [Option.none_or, Fields.impliedType?]
    dsimp only
    split
    · rfl
    · split <;> rfl
  | some name =>
    rw [Option.some_or]
    split <;> simp_all [kindOfType] <;> rfl

theorem classify_eq_leadingKind (fields : Fields) :
    classify fields (partsOf fields) =
      match fields.leading? with
      | some leading => leadingKind fields (partsOf fields) leading
      | none => typedKind fields (partsOf fields) := by
  unfold Fields.leading? Fields.has
  cases href : fields.get? "$ref" with
  | some value =>
    cases value <;> simp [classify, Leading.keyword, leadingKind, href]
  | none =>
    cases hall : fields.get? "allOf" <;> cases hany : fields.get? "anyOf" <;>
      cases hone : fields.get? "oneOf" <;> cases hnot : fields.get? "not" <;>
      simp [classify, Leading.keyword, leadingKind, partsOf, Combinator.keyword, href, hall, hany,
        hone, hnot]

/-- That a keyword may hold one value or the other: what is read of them is the same. -/
def ReadAlike (value other : Json) : Holding → Prop
  | .plain => other = value
  | .schema => ofJson other = ofJson value ∧ ∀ flag, other = .bool flag ↔ value = .bool flag
  | .members => members other = members value
  | .named => ∀ keyword, named keyword other = named keyword value

theorem ReadAlike.refl (value : Json) (holding : Holding) : ReadAlike value value holding := by
  cases holding with
  | plain => rfl
  | schema => exact ⟨rfl, fun _ => Iff.rfl⟩
  | members => rfl
  | named => exact fun _ => rfl

/-- That a keyword is read alike in two schema objects: it is in none, or holds values that may stand
for each other. -/
def AlikeAt (fields other : Fields) (keyword : String) : Prop :=
  Option.Rel (ReadAlike · · (holding keyword)) (fields.get? keyword) (other.get? keyword)

/-- That one schema object has what the reading of the other looks at, and no other keywords. -/
structure Fields.Shows (other fields : Fields) : Prop where
  absent : ∀ keyword, fields.get? keyword = none → other.get? keyword = none
  alike : ∀ keyword ∈ fields.readKeywords, AlikeAt fields other keyword

section Agreement

variable {fields other : Fields} {keyword : String}

theorem map_eq_map_of_rel {α β : Type} {relation : α → α → Prop} {f : α → β}
    {first second : Option α} (h : Option.Rel relation first second)
    (hf : ∀ x y, relation x y → f y = f x) : second.map f = first.map f := by
  cases h with
  | none => rfl
  | some hrelation => exact congrArg some (hf _ _ hrelation)

theorem AlikeAt.of_get?_eq (h : other.get? keyword = fields.get? keyword) :
    AlikeAt fields other keyword := by
  rw [AlikeAt, h]
  cases fields.get? keyword with
  | none => exact .none
  | some value => exact .some (.refl value _)

/-- A keyword that is read alike is there in both or in none. -/
theorem AlikeAt.has_eq (h : AlikeAt fields other keyword) :
    other.has keyword = fields.has keyword := by
  have hunit := map_eq_map_of_rel h fun _ _ _ => (rfl : () = ())
  rw [Fields.has, Fields.has, ← Option.isSome_map, hunit, Option.isSome_map]

theorem AlikeAt.get?_eq (h : AlikeAt fields other keyword) (hholding : holding keyword = .plain) :
    other.get? keyword = fields.get? keyword := by
  unfold AlikeAt at h
  rw [hholding] at h
  simpa using map_eq_map_of_rel (f := id) h fun _ _ halike => halike

theorem AlikeAt.schema_eq (h : AlikeAt fields other keyword)
    (hholding : holding keyword = .schema) :
    (partsOf other).schema keyword = (partsOf fields).schema keyword := by
  unfold AlikeAt at h
  rw [hholding] at h
  exact map_eq_map_of_rel h fun _ _ halike => by rw [halike.1]

theorem AlikeAt.members_eq (h : AlikeAt fields other keyword)
    (hholding : holding keyword = .members) :
    (partsOf other).members keyword = (partsOf fields).members keyword := by
  unfold AlikeAt at h
  rw [hholding] at h
  exact map_eq_map_of_rel h fun _ _ halike => congrArg (within [keyword]) halike

theorem AlikeAt.named_eq (h : AlikeAt fields other keyword)
    (hholding : holding keyword = .named) :
    (partsOf other).named keyword = (partsOf fields).named keyword := by
  unfold AlikeAt at h
  rw [hholding] at h
  exact map_eq_map_of_rel h fun _ _ halike => halike keyword

/-- Under a keyword of a schema there is a flag in both or in none. -/
theorem AlikeAt.flag_iff (h : AlikeAt fields other keyword) (hholding : holding keyword = .schema)
    (flag : Bool) :
    other.get? keyword = some (.bool flag) ↔ fields.get? keyword = some (.bool flag) := by
  unfold AlikeAt at h
  rw [hholding] at h
  generalize fields.get? keyword = value at h
  generalize other.get? keyword = found at h
  cases h with
  | none => simp
  | some halike => simpa using halike.2 flag

end Agreement

section Congruence

variable {fields other : Fields}

theorem declaredType_congr (h : other.get? "type" = fields.get? "type") :
    declaredType other = declaredType fields := by
  rw [declaredType, declaredType, h]

theorem text?_congr {keyword : String} (h : other.get? keyword = fields.get? keyword) :
    other.text? keyword = fields.text? keyword := by
  rw [Fields.text?, Fields.text?, h]

theorem count?_congr {keyword : String} (h : other.get? keyword = fields.get? keyword) :
    count? other keyword = count? fields keyword := by
  rw [count?, count?, h]

/-- Limits of whole numbers and of doubles are read from the same keywords. -/
theorem bound_congr {α : Type} [Limit α]
    (h : ∀ keyword ∈ typeKeywords (some "integer"), AlikeAt fields other keyword)
    (side : Side) : bound (α := α) other side = bound fields side := by
  have hplain : other.get? side.keyword = fields.get? side.keyword := by
    cases side
    · exact (h "minimum" (by decide)).get?_eq rfl
    · exact (h "maximum" (by decide)).get?_eq rfl
  have hexclusive : other.get? side.exclusiveKeyword = fields.get? side.exclusiveKeyword := by
    cases side
    · exact (h "exclusiveMinimum" (by decide)).get?_eq rfl
    · exact (h "exclusiveMaximum" (by decide)).get?_eq rfl
  have hlimit : limit? (α := α) other side.keyword = limit? fields side.keyword := by
    rw [limit?, limit?, hplain]
  have hown : exclusive? (α := α) other side.exclusiveKeyword =
      exclusive? fields side.exclusiveKeyword := by
    rw [exclusive?, exclusive?, hexclusive]
  rw [bound, bound, hlimit, hown]

theorem stringShape_congr
    (h : ∀ keyword ∈ typeKeywords (some "string"), AlikeAt fields other keyword) :
    stringShape other = stringShape fields := by
  simp only [typeKeywords, List.forall_mem_cons, List.not_mem_nil, false_implies, implies_true,
    and_true] at h
  obtain ⟨henum, hmin, hmax, hpattern, hformat, hdefault⟩ := h
  have hallowed : allowedValues other = allowedValues fields := by
    rw [allowedValues, allowedValues, henum.get?_eq rfl]
  rw [stringShape, stringShape, hallowed, count?_congr (hmin.get?_eq rfl),
    count?_congr (hmax.get?_eq rfl), text?_congr (hpattern.get?_eq rfl),
    text?_congr (hformat.get?_eq rfl), hdefault.get?_eq rfl]

theorem additionalOf_of_not_flag {parts : Parts}
    (h : ∀ flag, fields.get? "additionalProperties" ≠ some (.bool flag)) :
    additionalOf fields parts =
      match parts.schema "additionalProperties" with
      | some reading => reading.map .values
      | none => .ok .undeclared := by
  unfold additionalOf
  split
  · rename_i flag hflag
    exact absurd hflag (h flag)
  · rfl

theorem objectKind_congr
    (h : ∀ keyword ∈ typeKeywords (some "object"), AlikeAt fields other keyword) :
    objectKind other (partsOf other) = objectKind fields (partsOf fields) := by
  simp only [typeKeywords, List.forall_mem_cons, List.not_mem_nil, false_implies, implies_true,
    and_true] at h
  obtain ⟨hproperties, hrequired, hadditional⟩ := h
  have hnames : requiredNames other = requiredNames fields := by
    rw [requiredNames, requiredNames, hrequired.get?_eq rfl]
  have hclause : additionalOf other (partsOf other) = additionalOf fields (partsOf fields) := by
    have hflag := hadditional.flag_iff rfl
    by_cases h : ∃ flag, fields.get? "additionalProperties" = some (.bool flag)
    · obtain ⟨flag, hfields⟩ := h
      rw [additionalOf, additionalOf, hfields, (hflag flag).mpr hfields]
    · rw [additionalOf_of_not_flag fun flag hfields => h ⟨flag, hfields⟩,
        additionalOf_of_not_flag fun flag hother => h ⟨flag, (hflag flag).mp hother⟩,
        hadditional.schema_eq rfl]
  rw [objectKind_eq, objectKind_eq, hproperties.named_eq rfl, hnames, hclause]

theorem arrayKind_congr
    (h : ∀ keyword ∈ typeKeywords (some "array"), AlikeAt fields other keyword) :
    arrayKind other (partsOf other) = arrayKind fields (partsOf fields) := by
  simp only [typeKeywords, List.forall_mem_cons, List.not_mem_nil, false_implies, implies_true,
    and_true] at h
  obtain ⟨hitems, hmin, hmax⟩ := h
  have hinner : itemsOf (partsOf other) = itemsOf (partsOf fields) := by
    rw [itemsOf, itemsOf, hitems.schema_eq rfl]
  rw [arrayKind_eq, arrayKind_eq, hinner, count?_congr (hmin.get?_eq rfl),
    count?_congr (hmax.get?_eq rfl)]

theorem kindOfType_congr (type : Option String)
    (h : ∀ keyword ∈ typeKeywords type, AlikeAt fields other keyword) :
    kindOfType other (partsOf other) type = kindOfType fields (partsOf fields) type := by
  unfold kindOfType
  split
  · rfl
  · have hformat := text?_congr ((h "format" (by decide)).get?_eq rfl)
    rw [integerShape, integerShape, bound_congr h, bound_congr h, hformat]
  · have hformat := text?_congr ((h "format" (by decide)).get?_eq rfl)
    rw [numberShape, numberShape, bound_congr h, bound_congr h, hformat]
  · rw [stringShape_congr h]
  · exact objectKind_congr h
  · exact arrayKind_congr h
  · rfl
  · rfl

theorem leadingKind_congr (leading : Leading)
    (h : AlikeAt fields other leading.keyword) :
    leadingKind other (partsOf other) leading = leadingKind fields (partsOf fields) leading := by
  cases leading with
  | reference =>
    have href : other.get? "$ref" = fields.get? "$ref" := h.get?_eq rfl
    rw [leadingKind, leadingKind, href]
  | composition combinator =>
    have hmembers : (partsOf other).members combinator.keyword =
        (partsOf fields).members combinator.keyword :=
      h.members_eq (by cases combinator <;> rfl)
    rw [leadingKind, leadingKind, hmembers]
  | negation =>
    have hnot : (partsOf other).schema "not" = (partsOf fields).schema "not" :=
      h.schema_eq rfl
    rw [leadingKind, leadingKind, hnot]

end Congruence

namespace Fields

variable {fields other : Fields}

theorem mem_readKeywords_of_leading {leading : Leading} (h : fields.leading? = some leading) :
    leading.keyword ∈ fields.readKeywords := by
  simp [readKeywords, h]

theorem mem_readKeywords_of_type (h : fields.leading? = none) : "type" ∈ fields.readKeywords := by
  simp [readKeywords, h]

theorem mem_readKeywords_of_declared (h : fields.leading? = none) {declared : Option String}
    (hdeclared : declaredType fields = .ok declared) {keyword : String}
    (hkeyword : keyword ∈ typeKeywords (declared.or fields.impliedType?)) :
    keyword ∈ fields.readKeywords := by
  simp [readKeywords, h, hdeclared, hkeyword]

theorem Shows.has_eq_false (h : other.Shows fields) {keyword : String}
    (hkeyword : fields.has keyword = false) : other.has keyword = false := by
  rw [has, Option.isSome_eq_false_iff, Option.isNone_iff_eq_none] at hkeyword ⊢
  exact h.absent keyword hkeyword

theorem Shows.has_eq (h : other.Shows fields) {keyword : String}
    (hkeyword : keyword ∈ fields.readKeywords) : other.has keyword = fields.has keyword :=
  (h.alike keyword hkeyword).has_eq

theorem Shows.leading?_eq (h : other.Shows fields) : other.leading? = fields.leading? := by
  cases hfirst : fields.leading? with
  | none =>
    have hnone := List.find?_eq_none.mp hfirst
    refine List.find?_eq_none.mpr fun leading hleading => ?_
    have habsent : fields.has leading.keyword = false := by simpa using hnone leading hleading
    simp [h.has_eq_false habsent]
  | some leading =>
    obtain ⟨hhas, before, after, hlist, hbefore⟩ := List.find?_eq_some_iff_append.mp hfirst
    refine List.find?_eq_some_iff_append.mpr ⟨?_, before, after, hlist, fun earlier hearlier => ?_⟩
    · rw [h.has_eq (mem_readKeywords_of_leading hfirst)]
      exact hhas
    · have habsent : fields.has earlier.keyword = false := by simpa using hbefore earlier hearlier
      simp [h.has_eq_false habsent]

/-- Of the keywords that imply a type the ones that are not read cannot come first. -/
theorem Shows.impliedType?_eq (h : other.Shows fields)
    (hread : ∀ keyword ∈ typeKeywords fields.impliedType?, keyword ∈ fields.readKeywords) :
    other.impliedType? = fields.impliedType? := by
  by_cases hobject : fields.has "properties" || fields.has "additionalProperties"
  · have himplied : fields.impliedType? = some "object" := by rw [impliedType?, if_pos hobject]
    rw [himplied] at hread
    rw [impliedType?, impliedType?, h.has_eq (hread "properties" (by decide)),
      h.has_eq (hread "additionalProperties" (by decide)), if_pos hobject, if_pos hobject]
  · obtain ⟨hproperties, hadditional⟩ : fields.has "properties" = false ∧
        fields.has "additionalProperties" = false := by simpa using hobject
    have hother : other.has "items" = fields.has "items" := by
      by_cases hitems : fields.has "items" = true
      · have himplied : fields.impliedType? = some "array" := by
          rw [impliedType?, if_neg hobject, if_pos hitems]
        rw [himplied] at hread
        exact h.has_eq (hread "items" (by decide))
      · rw [Bool.not_eq_true] at hitems
        rw [hitems, h.has_eq_false hitems]
    rw [impliedType?, impliedType?, hproperties, hadditional, hother,
      h.has_eq_false hproperties, h.has_eq_false hadditional]

theorem Shows.classify_eq (h : other.Shows fields) :
    classify other (partsOf other) = classify fields (partsOf fields) := by
  rw [classify_eq_leadingKind, classify_eq_leadingKind, h.leading?_eq]
  cases hfirst : fields.leading? with
  | some leading =>
    exact leadingKind_congr leading (h.alike _ (mem_readKeywords_of_leading hfirst))
  | none =>
    have htype : declaredType other = declaredType fields :=
      declaredType_congr ((h.alike "type" (mem_readKeywords_of_type hfirst)).get?_eq rfl)
    dsimp only
    rw [typedKind_eq_kindOfType, typedKind_eq_kindOfType, htype]
    cases hdeclared : declaredType fields with
    | error fault => rfl
    | ok declared =>
      have hsame : declared.or other.impliedType? = declared.or fields.impliedType? := by
        cases declared with
        | some name => rfl
        | none =>
          exact h.impliedType?_eq fun _ hkeyword =>
            mem_readKeywords_of_declared hfirst hdeclared hkeyword
      change kindOfType other (partsOf other) _ = kindOfType fields (partsOf fields) _
      rw [hsame]
      exact kindOfType_congr _ fun keyword hkeyword =>
        h.alike keyword (mem_readKeywords_of_declared hfirst hdeclared hkeyword)

/-- A schema object that shows what another shows is read as the other is. -/
theorem Shows.ofJson_eq (h : other.Shows fields) :
    ofJson (.object other) = ofJson (.object fields) := by
  have hdescription : other.get? "description" = fields.get? "description" :=
    (h.alike "description" List.mem_cons_self).get?_eq rfl
  rw [ofJson_object, ofJson_object, h.classify_eq, text?_congr hdescription]

end Fields

end SchemaCatalog.Schema

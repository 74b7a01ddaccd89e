import SchemaCatalog.Proofs.Decoding
import SchemaCatalog.Proofs.NodePlaces

/-!
Limits of doubles. All limits in the catalog of a document are numbers in the value that the
document was read from, so they have what all those numbers have. A JSON value holds whole numbers
of 64 bits and finite doubles only: limits are finite. And only a zero that is written with its sign
is a negative zero.
-/
namespace SchemaCatalog

namespace Double

theorem roundDiv_le (numerator denominator : Nat) :
    roundDiv numerator denominator ≤ numerator / denominator + 1 := by
  rcases roundDiv_eq_or numerator denominator with h | h <;> omega

theorem binaryExponent_one {n : Nat} (h : n ≠ 0) : binaryExponent n 1 = n.log2 := by
  have hlow : 2 ^ n.log2 ≤ n := Nat.log2_self_le h
  have hone : Nat.log2 1 = 0 := by decide
  simp [binaryExponent, hone, Nat.shiftLeft_eq, hlow]

/-- A whole number that is scaled to its exponent has a significand of 53 bits. -/
theorem scaled_lt {n : Nat} :
    n <<< (52 - (n.log2 : Int)).toNat / 1 <<< ((n.log2 : Int) - 52).toNat < 2 ^ 53 := by
  have hhigh : n < 2 ^ (n.log2 + 1) := Nat.lt_log2_self
  simp only [Nat.shiftLeft_eq, Nat.one_mul]
  by_cases hsmall : n.log2 ≤ 52
  · have hup : (52 - (n.log2 : Int)).toNat = 52 - n.log2 := by omega
    have hdown : ((n.log2 : Int) - 52).toNat = 0 := by omega
    rw [hup, hdown, Nat.pow_zero, Nat.div_one]
    calc n * 2 ^ (52 - n.log2)
        < 2 ^ (n.log2 + 1) * 2 ^ (52 - n.log2) :=
          Nat.mul_lt_mul_of_pos_right hhigh (Nat.two_pow_pos _)
      _ = 2 ^ 53 := by rw [← Nat.pow_add]; congr 1; omega
  · have hup : (52 - (n.log2 : Int)).toNat = 0 := by omega
    have hdown : ((n.log2 : Int) - 52).toNat = n.log2 - 52 := by omega
    rw [hup, hdown, Nat.pow_zero, Nat.mul_one, Nat.div_lt_iff_lt_mul (Nat.two_pow_pos _),
      ← Nat.pow_add]
    have hsum : 53 + (n.log2 - 52) = n.log2 + 1 := by omega
    rwa [hsum]

/-- Whole numbers of 64 bits are far from the largest double. -/
theorem nearestMagnitude_lt {n : Nat} (hzero : n ≠ 0) (h : n < 2 ^ 64) :
    nearestMagnitude n 1 < infiniteMagnitude := by
  have hlog : n.log2 < 64 := (Nat.log2_lt hzero).mpr h
  have hscale : max (-1074) (binaryExponent n 1 - 52) = (n.log2 : Int) - 52 := by
    rw [binaryExponent_one hzero]
    omega
  have hround := roundDiv_le (n <<< (52 - (n.log2 : Int)).toNat)
    (1 <<< ((n.log2 : Int) - 52).toNat)
  have hscaled := scaled_lt (n := n)
  have hplace : ((n.log2 : Int) - 52 + 1074).toNat ≤ 1085 := by omega
  have hbinade := Nat.mul_le_mul_right binadeSize hplace
  simp only [nearestMagnitude, hscale, Int.neg_sub]
  apply Nat.lt_of_le_of_lt (Nat.min_le_right _ _)
  simp only [binadeSize, infiniteMagnitude] at hbinade ⊢
  omega

theorem isFinite_ofInt {n : Int} (h : n.natAbs < 2 ^ 64) : (ofInt n).isFinite := by
  unfold ofInt nearest
  split
  · rfl
  · rename_i hzero
    exact decide_eq_true (nearestMagnitude_lt hzero h)

/-- A whole number that is not zero is far from the smallest double. -/
theorem nearestMagnitude_pos {n : Nat} (h : n ≠ 0) : 0 < nearestMagnitude n 1 := by
  have hscale : max (-1074) (binaryExponent n 1 - 52) = (n.log2 : Int) - 52 := by
    rw [binaryExponent_one h]
    omega
  have hplace : 1 ≤ ((n.log2 : Int) - 52 + 1074).toNat := by omega
  have hbinade := Nat.mul_le_mul_right binadeSize hplace
  simp only [nearestMagnitude, hscale, Int.neg_sub]
  rw [Nat.lt_min]
  simp only [binadeSize, infiniteMagnitude] at hbinade ⊢
  omega

theorem ofInt_ne_negativeZero (n : Int) : ofInt n ≠ signedZero true := by
  unfold ofInt nearest
  split
  · rename_i hzero
    obtain rfl := Int.natAbs_eq_zero.mp hzero
    decide
  · rename_i hne
    have hpos := nearestMagnitude_pos hne
    intro heq
    rw [signedZero, mk.injEq] at heq
    omega

end Double

namespace Json

/-- Whether a value, if it is a number, is one that JSON can hold: a whole number of 64 bits, with a
sign or without, or a finite double. -/
def IsStored : Json → Prop
  | .int n => -2 ^ 63 ≤ n ∧ n < 2 ^ 64
  | .float x => x.isFinite
  | _ => True

/-- That a property holds of a value and of all that lies inside it. -/
def Throughout (P : Json → Prop) (value : Json) : Prop :=
  ∀ place found, value.at? place = some found → P found

variable {P : Json → Prop}

theorem Throughout.inner {value inner : Json} {place : Pointer} (h : value.Throughout P)
    (hinner : value.at? place = some inner) : inner.Throughout P := by
  intro below found hfound
  apply h (place ++ below) found
  rw [at?_append hinner, hfound]

theorem throughout_of_step? {value : Json} (hself : P value)
    (h : ∀ step inner, value.step? step = some inner → inner.Throughout P) :
    value.Throughout P := by
  intro place found hfound
  cases place with
  | nil =>
    cases hfound
    exact hself
  | cons step rest =>
    rw [at?_cons] at hfound
    obtain ⟨inner, hinner, hrest⟩ := Option.bind_eq_some_iff.mp hfound
    exact h step inner hinner rest found hrest

theorem throughout_of_leaf {value : Json} (hself : P value) (h : ∀ step, value.step? step = none) :
    value.Throughout P := by
  refine throughout_of_step? hself fun step inner hinner => ?_
  rw [h step] at hinner
  cases hinner

theorem throughout_object {fields : List (String × Json)} (hself : P (.object fields))
    (h : ∀ p ∈ fields, p.2.Throughout P) : (Json.object fields).Throughout P := by
  refine throughout_of_step? hself fun step inner hinner => ?_
  exact h _ (NameMap.mem_of_findLast?_eq_some hinner)

theorem throughout_array {values : List Json} (hself : P (.array values))
    (h : ∀ value ∈ values, value.Throughout P) : (Json.array values).Throughout P := by
  refine throughout_of_step? hself fun step inner hinner => ?_
  obtain ⟨found, hfound, rfl⟩ := Option.map_eq_some_iff.mp hinner
  exact h _ (List.fst_mem_of_mem_zipIdx (List.mem_of_find?_eq_some hfound))

/-- What holds of all objects and throughout the only component of a document holds throughout the
document. -/
theorem throughout_component {schema : Json} (hobject : ∀ fields, P (.object fields))
    (h : schema.Throughout P) (name : String) :
    (Json.object [("components", .object [("schemas", .object [(name, schema)])])]).Throughout P := by
  have hsingle : ∀ {inner : Json}, inner.Throughout P → ∀ name,
      (Json.object [(name, inner)]).Throughout P := by
    intro inner hinner name
    apply throughout_object (hobject _)
    intro p hp
    obtain rfl := List.mem_singleton.mp hp
    exact hinner
  exact hsingle (hsingle (hsingle h name) "schemas") "components"

theorem IsStored.isFinite {value : Json} {limit : Double} (h : value.IsStored)
    (hread : Schema.number? value = some limit) : limit.isFinite := by
  cases value with
  | int n =>
    cases hread
    obtain ⟨hlow, hhigh⟩ := h
    apply Double.isFinite_ofInt
    omega
  | float x =>
    cases hread
    exact h
  | _ => cases hread

theorem ne_negativeZero {value : Json} {limit : Double} (h : value ≠ .float (.signedZero true))
    (hread : Schema.number? value = some limit) : limit ≠ .signedZero true := by
  cases value with
  | int n =>
    cases hread
    exact Double.ofInt_ne_negativeZero n
  | float x =>
    cases hread
    rintro rfl
    exact h rfl
  | _ => cases hread

end Json

namespace Schema

variable {value : Json} {schema : Schema} {name : String}

/-- A limit is read from a number under one of the keywords of its side. -/
theorem exists_of_bound {α : Type} [Limit α] {fields : Fields} {side : Side} {limit : Bound α}
    (h : bound fields side = .ok (some limit)) :
    ∃ keyword found, fields.get? keyword = some found ∧ Limit.read? found = some limit.value := by
  obtain ⟨⟨leftOut, exclusive⟩, hexclusive, hrest⟩ := bind_eq_ok_iff.mp h
  obtain ⟨plain, hplain, hchosen⟩ := bind_eq_ok_iff.mp hrest
  have hofPlain : ∀ {value}, plain = some value →
      ∃ keyword found, fields.get? keyword = some found ∧ Limit.read? found = some value := by
    rintro value rfl
    unfold limit? at hplain
    split at hplain
    · cases hplain
    · split at hplain
      · cases hplain
        exact ⟨side.keyword, _, ‹_›, ‹_›⟩
      · cases hplain
  have hofExclusive : ∀ {other}, exclusive = some other →
      ∃ keyword found, fields.get? keyword = some found ∧ Limit.read? found = some other.value := by
    rintro other rfl
    unfold exclusive? at hexclusive
    split at hexclusive
    · cases hexclusive
    · cases hexclusive
    · split at hexclusive
      · split at hexclusive
        · cases hexclusive
          exact ⟨side.exclusiveKeyword, _, ‹_›, ‹_›⟩
        · cases hexclusive
      · cases hexclusive
  cases hplainValue : plain with
  | none =>
    rw [hplainValue] at hchosen
    cases hchosen
    exact hofExclusive rfl
  | some value =>
    cases hexclusiveValue : exclusive with
    | none =>
      rw [hplainValue, hexclusiveValue] at hchosen
      cases hchosen
      exact hofPlain hplainValue
    | some other =>
      rw [hplainValue, hexclusiveValue] at hchosen
      cases hchosen
      split
      · exact hofExclusive hexclusiveValue
      · exact hofPlain hplainValue

theorem numberShape_of_typedKind {fields : Fields} {parts : Parts} {shape : NumberShape}
    (h : typedKind fields parts = .ok (.number shape)) : numberShape fields = .ok shape := by
  have hobject : objectKind fields parts ≠ .ok (.number shape) := by
    intro hkind
    obtain ⟨properties, required, additional, heq, -⟩ := objectKind_eq_ok hkind
    cases heq
  have harray : arrayKind fields parts ≠ .ok (.number shape) := by
    intro hkind
    obtain ⟨items, minItems, maxItems, heq, -⟩ := arrayKind_eq_ok hkind
    cases heq
  obtain ⟨declared, -, hdeclared⟩ := bind_eq_ok_iff.mp h
  split at hdeclared
  · cases hdeclared
  · obtain ⟨other, -, heq⟩ := bind_eq_ok_iff.mp hdeclared
    cases heq
  · obtain ⟨other, hother, heq⟩ := bind_eq_ok_iff.mp hdeclared
    cases heq
    exact hother
  · obtain ⟨other, -, heq⟩ := bind_eq_ok_iff.mp hdeclared
    cases heq
  · exact absurd hdeclared hobject
  · exact absurd hdeclared harray
  · cases hdeclared
  · split at hdeclared
    · exact absurd hdeclared hobject
    · split at hdeclared
      · exact absurd hdeclared harray
      · cases hdeclared

theorem exists_of_number {shape : NumberShape} {description : Option String}
    (hread : ofJson value = .ok ⟨.number shape, description⟩) :
    ∃ fields, value = .object fields ∧ numberShape fields = .ok shape := by
  obtain ⟨fields, rfl, htyped⟩ := typedKind_of_ofJson hread rfl
  exact ⟨fields, rfl, numberShape_of_typedKind htyped⟩

/-- All limits of a number schema have what the numbers inside the value that it was read from
have. -/
theorem limits_of_number {P : Json → Prop} {Q : Double → Prop}
    (hlimit : ∀ {found limit}, P found → number? found = some limit → Q limit)
    {shape : NumberShape} {description : Option String}
    (hread : ofJson value = .ok ⟨.number shape, description⟩) (hvalue : value.Throughout P) :
    shape.range.Limits Q := by
  obtain ⟨fields, rfl, hshape⟩ := exists_of_number hread
  obtain ⟨minimum, hminimum, hrest⟩ := bind_eq_ok_iff.mp hshape
  obtain ⟨maximum, hmaximum, heq⟩ := bind_eq_ok_iff.mp hrest
  cases heq
  have hside : ∀ {side} {bounded : Option (Bound Double)}, bound fields side = .ok bounded →
      ∀ limit ∈ bounded.map (·.value), Q limit := by
    intro side bounded hbounded limit hmem
    obtain ⟨found, rfl, rfl⟩ := Option.map_eq_some_iff.mp hmem
    obtain ⟨keyword, written, hwritten, hnumber⟩ := exists_of_bound hbounded
    have hplace : (Json.object fields).at? [keyword] = some written := Json.at?_singleton hwritten
    exact hlimit (hvalue _ _ hplace) hnumber
  exact ⟨hside hminimum, hside hmaximum⟩

/-- Only number schemas are made into fields of doubles. -/
theorem exists_of_step_double {settings : Settings} {registered : String} {range : Range Double}
    (h : schema.step settings name = some (.field registered (.double range))) :
    ∃ shape description, schema = ⟨.number shape, description⟩ ∧ range = shape.range := by
  obtain ⟨kind, description⟩ := schema
  cases kind with
  | number shape =>
    cases h
    exact ⟨shape, description, rfl, rfl⟩
  | integer shape =>
    obtain ⟨format, minimum, maximum⟩ := shape
    cases format <;> simp [step, IntegerShape.field] at h
  | object properties required additional => cases additional <;> simp [step] at h
  | array items minItems maxItems => cases items <;> simp [step] at h
  | _ => simp [step] at h

end Schema

namespace Document

/-- All limits in the catalog of a document have what the numbers inside the value that the document
was read from have. -/
theorem limits_of_build {P : Json → Prop} {Q : Double → Prop}
    (hlimit : ∀ {found limit}, P found → Schema.number? found = some limit → Q limit)
    {value : Json} {document : Document} {options : Options} {catalog : Catalog}
    (hvalue : value.Throughout P) (hread : ofJson value = .ok document)
    (hbuild : document.build options = .ok catalog) : catalog.Limits Q := by
  intro name range hfield
  obtain ⟨-, rfl⟩ := (document.build_eq_ok_iff options).mp hbuild
  obtain ⟨node, hnode, hstep⟩ := List.mem_filterMap.mp (Catalog.mem_of_field?_eq_some hfield)
  obtain ⟨inner, hinner, hschema⟩ := exists_of_mem_nodes hread hnode
  obtain ⟨shape, description, hkind, rfl⟩ := Schema.exists_of_step_double hstep
  rw [hkind] at hschema
  exact Schema.limits_of_number hlimit hschema (hvalue.inner hinner)

/-- All limits in the catalog of a document that was read from a JSON value are finite. -/
theorem hasFiniteLimits_of_build {value : Json} {document : Document} {options : Options}
    {catalog : Catalog} (hvalue : value.Throughout Json.IsStored)
    (hread : ofJson value = .ok document) (hbuild : document.build options = .ok catalog) :
    catalog.HasFiniteLimits :=
  limits_of_build Json.IsStored.isFinite hvalue hread hbuild

end Document

end SchemaCatalog

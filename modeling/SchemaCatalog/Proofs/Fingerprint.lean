import SchemaCatalog.Proofs.CompactText
import SchemaCatalog.Proofs.Reread

/-!
Fingerprints of equal catalogs. The text that a fingerprint is the digest of has the signs of zeros,
and equality of catalogs has not; so equal catalogs have one text exactly if their zeros have the
same signs, and documents without a negative zero build equal catalogs with one fingerprint.
-/
namespace SchemaCatalog

namespace Json

theorem canonical_ofDouble (x : Double) : (ofDouble x).canonical = ofDouble x.canonical := by
  have hfinite : x.canonical.isFinite = x.isFinite := by
    unfold Double.canonical
    split
    · rename_i hzero
      rw [Double.eq_signedZero hzero]
      rfl
    · rfl
  unfold ofDouble
  rw [hfinite]
  split <;> rfl

section Encodings

variable {α β : Type} {encode : α → Json} {write : β → Json} {f : α → β}

theorem canonical_ofOption (h : ∀ x, (encode x).canonical = write (f x)) (value : Option α) :
    (ofOption encode value).canonical = ofOption write (value.map f) := by
  cases value with
  | none => rfl
  | some x => exact h x

theorem canonical_ofMap (h : ∀ x, (encode x).canonical = write (f x)) (map : NameMap α) :
    (ofMap encode map).canonical = ofMap write (map.map f) := by
  simp only [ofMap, canonical, canonicalFields_eq_map, NameMap.map, List.map_map, Function.comp_def,
    h]

end Encodings

theorem canonicalFields_append (xs ys : List (String × Json)) :
    canonicalFields (xs ++ ys) = canonicalFields xs ++ canonicalFields ys := by
  simp only [canonicalFields_eq_map, List.map_append]

theorem canonicalFields_text (name : String) (text : Option String) :
    canonicalFields (fieldIfSome name .string text) = fieldIfSome name .string text := by
  cases text <;> rfl

end Json

open Json (canonicalFields canonicalFields_append canonicalFields_text)

theorem Range.canonical_ofInt64 (range : Range Int64) :
    (range.toJson .ofInt64).canonical = range.toJson .ofInt64 := by
  have hlimit : ∀ limit : Option Int64,
      (Json.ofOption .ofInt64 limit).canonical = Json.ofOption .ofInt64 limit := by
    intro limit
    cases limit <;> rfl
  simp only [toJson, Json.canonical, canonicalFields, hlimit]

theorem Range.canonical_ofDouble (range : Range Double) :
    (range.toJson .ofDouble).canonical = range.canonical.toJson .ofDouble := by
  have hlimit := Json.canonical_ofOption Json.canonical_ofDouble
  simp only [toJson, Json.canonical, canonicalFields, hlimit]
  rfl

theorem LengthRange.canonical_toJson (range : LengthRange) :
    range.toJson.canonical = range.toJson := by
  have hlimit : ∀ limit : Option Nat,
      (Json.ofOption .ofCount limit).canonical = Json.ofOption .ofCount limit := by
    intro limit
    cases limit <;> rfl
  simp only [toJson, Json.canonical, canonicalFields, hlimit]

theorem StringField.canonicalFields_entries (field : StringField) :
    canonicalFields field.entries = field.entries := by
  have hallowed : Json.canonicalValues (field.allowed.map .string) = field.allowed.map .string := by
    rw [Json.canonicalValues_eq_map, List.map_map]
    rfl
  unfold entries
  simp only [canonicalFields_append, canonicalFields_text, canonicalFields,
    field.length.canonical_toJson]
  split
  · rfl
  · simp only [canonicalFields, Json.canonical, hallowed]

theorem Field.canonical_toJson (field : Field) :
    field.toJson.canonical = field.canonical.toJson := by
  unfold toJson encode
  cases field with
  | string field =>
    simp only [Json.canonical, canonicalFields, entries, field.canonicalFields_entries]
    rfl
  | double range =>
    simp only [Json.canonical, canonicalFields, entries, range.canonical_ofDouble]
    rfl
  | integer range | long range =>
    simp only [Json.canonical, canonicalFields, entries, range.canonical_ofInt64]
    rfl
  | list element length | map key value length =>
    simp only [Json.canonical, canonicalFields, entries, length.canonical_toJson]
    rfl
  | boolean => rfl

theorem Structure.canonical_toJson (record : Structure) :
    record.toJson.canonical = record.toJson := by
  have hmember : ∀ member : Member, member.toJson.canonical = member.toJson := by
    intro member
    simp only [Member.toJson, Json.canonical, canonicalFields_append, canonicalFields_text]
    rfl
  simp only [toJson, Json.canonical, canonicalFields, Json.canonical_ofMap (f := id) hmember,
    NameMap.map_id]

namespace Catalog

variable {catalog other : Catalog}

theorem canonical_toJson (catalog : Catalog) :
    catalog.toJson.canonical = catalog.canonical.toJson := by
  have hfields : (Json.ofMap (Field.encode .ofDouble) catalog.fields).canonical =
      Json.ofMap (Field.encode .ofDouble) catalog.canonical.fields :=
    Json.canonical_ofMap Field.canonical_toJson _
  have hstructures := Json.canonical_ofMap (f := id) Structure.canonical_toJson catalog.structures
  rw [NameMap.map_id] at hstructures
  simp only [toJson, encode, Json.canonical, canonicalFields, hfields, hstructures]
  rfl

/-- A zero is finite, so its sign is not lost. -/
theorem zeroSigns_finitePart (catalog : Catalog) :
    catalog.finitePart.zeroSigns = catalog.zeroSigns := by
  have hlimit : ∀ limit : Option Double,
      (finiteLimit limit).bind Double.zeroSign? = limit.bind Double.zeroSign? := by
    intro limit
    cases limit with
    | none => rfl
    | some x =>
      by_cases hzero : x.magnitude = 0
      · have hfinite : x.isFinite := by
          rw [Double.eq_signedZero hzero]
          rfl
        rw [finiteLimit, Option.filter_some, if_pos hfinite]
      · cases hfinite : x.isFinite <;>
          simp [finiteLimit, Option.filter_some, Double.zeroSign?, hzero, hfinite]
  have hfield : ∀ field : Field, (field.mapLimits finiteLimit).zeroSigns = field.zeroSigns := by
    intro field
    cases field with
    | double range =>
      simp only [Field.mapLimits, Field.zeroSigns, Range.zeroSigns, Range.mapLimits, hlimit]
    | _ => rfl
  simp only [zeroSigns, finitePart, mapLimits, NameMap.map_map, hfield]

/-- Equal catalogs have one text exactly if their zeros have the same signs. -/
theorem compact_eq_iff_zeroSigns (h : catalog.same other) :
    catalog.toJson.compact = other.toJson.compact ↔ catalog.zeroSigns = other.zeroSigns := by
  constructor
  · intro htext
    obtain ⟨-, hcanonical⟩ := same_iff.mp h
    have hvalues : catalog.toJson.canonical = other.toJson.canonical := by
      rw [canonical_toJson, canonical_toJson, hcanonical]
    have hafter : catalog.toJson.compact ++ "" = other.toJson.compact ++ "" := by rw [htext]
    obtain ⟨hvalue, -⟩ := Json.compact_append_inj hvalues hafter
    have hread := congrArg ofJson? hvalue
    rw [ofJson?_toJson, ofJson?_toJson, Option.some_inj] at hread
    rw [← zeroSigns_finitePart, hread, zeroSigns_finitePart]
  · intro hsigns
    rw [(zeroSigns_eq_iff_of_same h).mp hsigns]

theorem canonical_eq (h : catalog.Limits (· ≠ .signedZero true)) : catalog.canonical = catalog := by
  refine mapLimits_eq (fun limit hlimit => ?_) h
  cases limit with
  | none => rfl
  | some x =>
    have hx : x.canonical = x := by
      by_cases hzero : x.magnitude = 0
      · have hpositive : x.negative = false := by
          cases hsign : x.negative with
          | false => rfl
          | true => exact absurd (hsign ▸ Double.eq_signedZero hzero) (hlimit x rfl)
        rw [Double.canonical, if_pos hzero, Double.eq_signedZero hzero, hpositive]
        rfl
      · rw [Double.canonical, if_neg hzero]
    rw [Option.map_some, hx]

/-- Equal catalogs are written in the same text exactly if their zeros have the same signs, and then
they have one fingerprint, and checks of two inputs that are loaded with them print one fingerprint.
Zeros have the same signs if no number in the values that the documents are read from is a negative
zero. -/
theorem fingerprint_of_same (h : catalog.same other) :
    (catalog.toJson.compact = other.toJson.compact ↔ catalog.zeroSigns = other.zeroSigns) ∧
    (catalog.zeroSigns = other.zeroSigns → catalog.fingerprint = other.fingerprint) ∧
    (∀ (value otherValue : Json) (document otherDocument : Document) (options otherOptions : Options),
      value.Throughout (· ≠ .float (.signedZero true)) →
      otherValue.Throughout (· ≠ .float (.signedZero true)) →
      Document.ofJson value = .ok document → Document.ofJson otherValue = .ok otherDocument →
      document.build options = .ok catalog → otherDocument.build otherOptions = .ok other →
        catalog.zeroSigns = other.zeroSigns) ∧
    ∀ (tree otherTree : FileTree) (input otherInput : String) (config otherConfig : Option String)
      (document otherDocument : Document),
      Command.Loads tree input config ⟨document, catalog⟩ →
      Command.Loads otherTree otherInput otherConfig ⟨otherDocument, other⟩ →
      catalog.problems document = [] → other.problems otherDocument = [] →
      catalog.zeroSigns = other.zeroSigns →
        (Command.ending (.check input config) tree).output = Command.summary ⟨document, catalog⟩ ∧
        (Command.ending (.check otherInput otherConfig) otherTree).output =
          Command.summary ⟨otherDocument, catalog⟩ := by
  have hequal := zeroSigns_eq_iff_of_same h
  refine ⟨compact_eq_iff_zeroSigns h, ?_, ?_, ?_⟩
  · intro hsigns
    rw [hequal.mp hsigns]
  · intro value otherValue document otherDocument options otherOptions hvalue hotherValue hread
      hotherRead hbuild hotherBuild
    have hlimits : catalog.Limits (· ≠ .signedZero true) :=
      Document.limits_of_build Json.ne_negativeZero hvalue hread hbuild
    have hotherLimits : other.Limits (· ≠ .signedZero true) :=
      Document.limits_of_build Json.ne_negativeZero hotherValue hotherRead hotherBuild
    obtain ⟨-, hcanonical⟩ := same_iff.mp h
    rw [canonical_eq hlimits, canonical_eq hotherLimits] at hcanonical
    rw [hcanonical]
  · intro tree otherTree input otherInput config otherConfig document otherDocument hload hotherLoad
      hproblems hotherProblems hsigns
    obtain rfl := hequal.mp hsigns
    exact ⟨(hload.check hproblems).2, (hotherLoad.check hotherProblems).2⟩

set_option maxRecDepth 20000 in
/-- The whole number zero and the positive zero are one limit: two documents with the one and the
other build equal catalogs, with one fingerprint that checks of both print. The two zeros are equal
limits, too, but have two signs and two texts. -/
theorem fingerprint_of_same_zero :
    let built (negative : Bool) : Catalog :=
      empty.addField "N" (.double ⟨some (.signedZero negative), none, false, false⟩)
    let value (zero : Json) : Json := .object [("components", .object [("schemas", .object
      [("N", .object [("type", .string "number"), ("minimum", zero)])])])]
    let whole := "\x7b\"components\":\x7b\"schemas\":\x7b\"N\":" ++
      "\x7b\"type\":\"number\",\"minimum\":0\x7d\x7d\x7d\x7d"
    let fraction := "\x7b\"components\":\x7b\"schemas\":\x7b\"N\":" ++
      "\x7b\"type\":\"number\",\"minimum\":0.0\x7d\x7d\x7d\x7d"
    ((built false).same (built true) ∧
      (built false).toJson.compact ≠ (built true).toJson.compact) ∧
    ∃ document otherDocument, Document.ofJson (value (.int 0)) = .ok document ∧
      Document.ofJson (value (.float .zero)) = .ok otherDocument ∧
      (∃ catalog other, document.build .default = .ok catalog ∧
        otherDocument.build .default = .ok other ∧ catalog.same other ∧
          catalog.fingerprint = other.fingerprint) ∧
      (Command.ending (.check "a.json" none) (Command.single whole)).output =
        Command.summary ⟨document, built false⟩ ∧
      (Command.ending (.check "a.json" none) (Command.single fraction)).output =
        Command.summary ⟨otherDocument, built false⟩ := by
  intro built value whole fraction
  have hsame : (built false).same (built true) := by rfl
  have hself : (built false).same (built false) := by rfl
  obtain ⟨htext, -, -, -⟩ := fingerprint_of_same hsame
  obtain ⟨-, hdigest, hdocuments, hchecks⟩ := fingerprint_of_same hself
  have hsigns : (built false).zeroSigns ≠ (built true).zeroSigns := by decide
  have hvalue : ∀ zero : Json, zero ≠ .float (.signedZero true) → (∀ step, zero.step? step = none) →
      (value zero).Throughout (· ≠ .float (.signedZero true)) := by
    intro zero hzero hleaf
    have hschema : (Json.object [("type", .string "number"), ("minimum", zero)]).Throughout
        (· ≠ .float (.signedZero true)) := by
      refine Json.throughout_object (P := (· ≠ .float (.signedZero true))) nofun ?_
      simp only [List.forall_mem_cons]
      exact ⟨Json.throughout_of_leaf nofun fun _ => rfl, Json.throughout_of_leaf hzero hleaf,
        by simp⟩
    exact Json.throughout_component (fun _ => by simp) hschema "N"
  have hwhole : Json.read? ("\x7b\"components\":\x7b\"schemas\":\x7b\"N\":" ++
      "\x7b\"type\":\"number\",\"minimum\":0\x7d\x7d\x7d\x7d") = some (value (.int 0)) := by rfl
  have hfraction : Json.read? ("\x7b\"components\":\x7b\"schemas\":\x7b\"N\":" ++
      "\x7b\"type\":\"number\",\"minimum\":0.0\x7d\x7d\x7d\x7d") = some (value (.float .zero)) := by
    rfl
  have hagree : (built false).zeroSigns = (built false).zeroSigns :=
    hdocuments (value (.int 0)) (value (.float .zero)) _ _ .default .default
      (hvalue _ nofun fun _ => rfl) (hvalue _ (by simp [Double.zero, Double.signedZero])
        fun _ => rfl) rfl rfl rfl rfl
  have hload := Command.loads_single hwhole rfl rfl
  have hotherLoad := Command.loads_single hfraction rfl rfl
  exact ⟨⟨hsame, fun h => hsigns (htext.mp h)⟩, _, _, rfl, rfl,
    ⟨built false, built false, rfl, rfl, hself, hdigest hagree⟩,
    hchecks (Command.single whole) (Command.single fraction) "a.json" "a.json" none none _ _
      hload hotherLoad rfl rfl hagree⟩

/-- Two documents that differ only in the sign of a zero build equal catalogs with two texts and two
fingerprints. -/
theorem zero_limit_changes_fingerprint :
    let value (negative : Bool) : Json := .object [("components", .object [("schemas", .object
      [("N", .object [("type", .string "number"),
        ("minimum", .float (.signedZero negative))])])])]
    ∃ document otherDocument catalog other,
      Document.ofJson (value false) = .ok document ∧
      Document.ofJson (value true) = .ok otherDocument ∧
      document.build .default = .ok catalog ∧ otherDocument.build .default = .ok other ∧
      catalog.same other ∧ catalog.toJson.compact ≠ other.toJson.compact ∧
      catalog.fingerprint ≠ other.fingerprint := by
  let built (negative : Bool) : Catalog :=
    empty.addField "N" (.double ⟨some (.signedZero negative), none, false, false⟩)
  refine ⟨_, _, built false, built true, rfl, rfl, rfl, rfl, ?_⟩
  decide +kernel

end Catalog

end SchemaCatalog

import SchemaCatalog.Catalog.Same
import SchemaCatalog.Proofs.Decoding
import Mathlib.Data.List.Forall2

/-!
Equal catalogs. Equality of doubles is equality of numbers, and there are two zeros; so catalogs
that are equal as values are the same catalog but for the signs of limits that are zero.
-/
namespace SchemaCatalog

/-- Lists have the same images if their elements do, one by one. -/
theorem map_eq_map_iff_forall₂ {α β : Type} {f : α → β} {xs ys : List α} :
    xs.map f = ys.map f ↔ List.Forall₂ (fun x y => f x = f y) xs ys := by
  rw [← List.forall₂_eq_eq_eq, List.forall₂_map_left_iff, List.forall₂_map_right_iff]

namespace Double

variable {x y : Double}

/-- The same number, which is the positive zero if it is a zero. -/
def canonical (x : Double) : Double := if x.magnitude = 0 then zero else x

def zeroSign? (x : Double) : Option Bool := if x.magnitude = 0 then some x.negative else none

theorem eq_signedZero (h : x.magnitude = 0) : x = signedZero x.negative := by
  obtain ⟨negative, magnitude, hlt⟩ := x
  obtain rfl : magnitude = 0 := h
  rfl

theorem canonical_eq_iff :
    x.canonical = y.canonical ↔ x = y ∨ x.magnitude = 0 ∧ y.magnitude = 0 := by
  have hzero : zero.magnitude = 0 := rfl
  unfold canonical
  constructor
  · intro h
    by_cases hx : x.magnitude = 0 <;> by_cases hy : y.magnitude = 0
    · exact .inr ⟨hx, hy⟩
    · rw [if_pos hx, if_neg hy] at h
      rw [← h] at hy
      exact absurd hzero hy
    · rw [if_neg hx, if_pos hy] at h
      rw [h] at hx
      exact absurd hzero hx
    · rw [if_neg hx, if_neg hy] at h
      exact .inl h
  · rintro (rfl | ⟨hx, hy⟩)
    · rfl
    · rw [if_pos hx, if_pos hy]

/-- Numbers are equal if they are the same number up to the sign of a zero. -/
theorem same_iff : x.same y ↔ x.isNaN = false ∧ x.canonical = y.canonical := by
  have hsame : x.same y ↔ (x.isNaN = false ∧ y.isNaN = false) ∧ x.key = y.key := by
    simp [same]
  have hkey : x.key = y.key ↔ x = y ∨ x.magnitude = 0 ∧ y.magnitude = 0 := by
    obtain ⟨xnegative, xmagnitude, hx⟩ := x
    obtain ⟨ynegative, ymagnitude, hy⟩ := y
    cases xnegative <;> cases ynegative <;> simp [key] <;> omega
  have hnan : x = y ∨ x.magnitude = 0 ∧ y.magnitude = 0 → x.isNaN = y.isNaN := by
    rintro (rfl | ⟨hx, hy⟩)
    · rfl
    · rw [isNaN, isNaN, hx, hy]
  rw [hsame, hkey, canonical_eq_iff]
  constructor
  · rintro ⟨⟨hx, -⟩, h⟩
    exact ⟨hx, h⟩
  · rintro ⟨hx, h⟩
    exact ⟨⟨hx, hnan h ▸ hx⟩, h⟩

/-- A number is known from itself without the sign of a zero, and from that sign. -/
theorem eq_of_canonical_of_zeroSign (h : x.canonical = y.canonical)
    (hsign : x.zeroSign? = y.zeroSign?) : x = y := by
  rcases canonical_eq_iff.mp h with heq | ⟨hx, hy⟩
  · exact heq
  · rw [zeroSign?, zeroSign?, if_pos hx, if_pos hy, Option.some_inj] at hsign
    rw [eq_signedZero hx, eq_signedZero hy, hsign]

end Double

namespace Range

def canonical (range : Range Double) : Range Double := range.mapLimits (·.map Double.canonical)

/-- The signs of the limits that are zero, of the minimum first. -/
def zeroSigns (range : Range Double) : Option Bool × Option Bool :=
  (range.minimum.bind Double.zeroSign?, range.maximum.bind Double.zeroSign?)

theorem optionSame_iff {x y : Option Double} :
    optionSame Double.same x y ↔
      (∀ limit ∈ x, limit.isNaN = false) ∧ x.map Double.canonical = y.map Double.canonical := by
  cases x <;> cases y <;> simp [optionSame, Double.same_iff]

theorem same_iff {x y : Range Double} :
    x.same y ↔ x.Limits (·.isNaN = false) ∧ x.canonical = y.canonical := by
  have hparts : x.same y ↔ ((optionSame Double.same x.minimum y.minimum ∧
      optionSame Double.same x.maximum y.maximum) ∧ x.exclusiveMinimum = y.exclusiveMinimum) ∧
        x.exclusiveMaximum = y.exclusiveMaximum := by
    simp [same]
  rw [hparts, optionSame_iff, optionSame_iff, canonical, canonical, mapLimits, mapLimits, mk.injEq,
    Limits]
  tauto

theorem limit_eq {x y : Option Double} (h : x.map Double.canonical = y.map Double.canonical)
    (hsign : x.bind Double.zeroSign? = y.bind Double.zeroSign?) : x = y := by
  cases x with
  | none => cases y with
    | none => rfl
    | some y => cases h
  | some x => cases y with
    | none => cases h
    | some y =>
      have heq : x.canonical = y.canonical := Option.some_inj.mp h
      rw [Double.eq_of_canonical_of_zeroSign heq hsign]

theorem eq_of_canonical_of_zeroSigns {x y : Range Double} (h : x.canonical = y.canonical)
    (hsigns : x.zeroSigns = y.zeroSigns) : x = y := by
  obtain ⟨hminimum, hmaximum⟩ := Prod.mk.inj hsigns
  obtain ⟨hlow, hhigh, hlowFlag, hhighFlag⟩ := Range.mk.inj h
  calc x = ⟨x.minimum, x.maximum, x.exclusiveMinimum, x.exclusiveMaximum⟩ := rfl
    _ = ⟨y.minimum, y.maximum, y.exclusiveMinimum, y.exclusiveMaximum⟩ := by
      rw [limit_eq hlow hminimum, limit_eq hhigh hmaximum, hlowFlag, hhighFlag]
    _ = y := rfl

end Range

namespace Field

def canonical (field : Field) : Field := field.mapLimits (·.map Double.canonical)

def zeroSigns : Field → Option Bool × Option Bool
  | .double range => range.zeroSigns
  | _ => (none, none)

/-- That a property holds of the limits of a field, if they are doubles. -/
def Limits (P : Double → Prop) (field : Field) : Prop :=
  ∀ range, field = .double range → range.Limits P

theorem same_iff {x y : Field} :
    x.same y ↔ x.Limits (·.isNaN = false) ∧ x.canonical = y.canonical := by
  cases x with
  | double x => cases y with
    | double y => simp [same, Limits, canonical, mapLimits, Range.same_iff, Range.canonical]
    | _ => simp [same, canonical, mapLimits]
  | _ => cases y <;> simp [same, Limits, canonical, mapLimits]

theorem eq_of_canonical_of_zeroSigns {x y : Field} (h : x.canonical = y.canonical)
    (hsigns : x.zeroSigns = y.zeroSigns) : x = y := by
  cases x with
  | double x => cases y with
    | double y =>
      have hrange : x.canonical = y.canonical := Field.double.inj h
      rw [Range.eq_of_canonical_of_zeroSigns hrange hsigns]
    | _ => cases h
  | _ => cases y with
    | double y => cases h
    | _ => exact h

end Field

namespace NameMap

variable {α β : Type} {m n : NameMap α}

theorem map_eq_map_iff {f : α → β} :
    m.map f = n.map f ↔
      List.Forall₂ (fun p q => p.1 = q.1 ∧ f p.2 = f q.2) m.entries n.entries := by
  rw [map, map, mk.injEq, map_eq_map_iff_forall₂]
  simp only [Prod.mk.injEq]

/-- A map passes the tests of another if their entries go together, one by one. -/
theorem matches?_map_iff {test : α → α → Bool} :
    (m.map test).matches? n ↔
      List.Forall₂ (fun p q => p.1 = q.1 ∧ test p.2 q.2) m.entries n.entries := by
  obtain ⟨xs, hxs⟩ := m
  obtain ⟨ys, hys⟩ := n
  simp only [matches?, names, map, Bool.and_eq_true, beq_iff_eq]
  clear hxs hys
  induction xs generalizing ys with
  | nil => cases ys <;> simp
  | cons x xs ih => cases ys with
    | nil => simp
    | cons y ys =>
      have hrest := ih ys
      simp only [List.map_cons, List.zip_cons_cons, List.all_cons, List.cons.injEq,
        Bool.and_eq_true, List.forall₂_cons, ← hrest]
      tauto

/-- Maps are equal if two functions that tell any two values apart agree on them. -/
theorem eq_of_map_eq {γ : Type} {f : α → β} {g : α → γ}
    (h : ∀ {x y}, f x = f y → g x = g y → x = y) (hf : m.map f = n.map f)
    (hg : m.map g = n.map g) : m = n := by
  apply eq_of_find?_eq
  intro name
  have hfound := congrArg (·.find? name) hf
  have hother := congrArg (·.find? name) hg
  simp only [find?_map] at hfound hother
  cases hm : m.find? name with
  | none =>
    rw [hm, Option.map_none, eq_comm, Option.map_eq_none_iff] at hfound
    exact hfound.symm
  | some x =>
    rw [hm, Option.map_some, eq_comm, Option.map_eq_some_iff] at hfound
    obtain ⟨y, hn, hy⟩ := hfound
    rw [hm, hn] at hother
    rw [hn, h hy.symm (Option.some_inj.mp hother)]

end NameMap

namespace Catalog

variable {catalog other : Catalog}

/-- The same catalog, with the positive zero for every limit that is a zero. -/
def canonical (catalog : Catalog) : Catalog := catalog.mapLimits (·.map Double.canonical)

def zeroSigns (catalog : Catalog) : NameMap (Option Bool × Option Bool) :=
  catalog.fields.map Field.zeroSigns

/-- Catalogs are equal as values if their limits are numbers and they are the same catalog up to
the signs of zeros. -/
theorem same_iff :
    catalog.same other ↔
      catalog.Limits (·.isNaN = false) ∧ catalog.canonical = other.canonical := by
  have hparts : catalog.same other ↔
      (catalog.fields.map Field.same).matches? other.fields ∧
        catalog.structures = other.structures := by
    simp [same]
  have hlimits : catalog.Limits (·.isNaN = false) ↔
      ∀ p ∈ catalog.fields.entries, p.2.Limits (·.isNaN = false) := by
    constructor
    · rintro h ⟨name, field⟩ hmem range rfl
      exact h name range (NameMap.mem_entries_iff.mp hmem)
    · intro h name range hfield
      exact h (name, .double range) (NameMap.mem_entries_iff.mpr hfield) range rfl
  rw [hparts, hlimits, NameMap.matches?_map_iff, canonical, canonical, mapLimits, mapLimits,
    mk.injEq, NameMap.map_eq_map_iff, ← and_assoc, ← List.forall₂_and_left]
  have hfield : ∀ p q : String × Field, (p.1 = q.1 ∧ p.2.same q.2) ↔
      p.2.Limits (·.isNaN = false) ∧ p.1 = q.1 ∧ p.2.canonical = q.2.canonical := by
    intro p q
    rw [Field.same_iff, and_left_comm]
  simp only [hfield]
  rfl

theorem eq_of_canonical_of_zeroSigns (h : catalog.canonical = other.canonical)
    (hsigns : catalog.zeroSigns = other.zeroSigns) : catalog = other := by
  obtain ⟨fields, structures⟩ := catalog
  obtain ⟨otherFields, otherStructures⟩ := other
  obtain ⟨hfields, rfl⟩ := Catalog.mk.inj h
  exact congrArg (mk · structures)
    (NameMap.eq_of_map_eq Field.eq_of_canonical_of_zeroSigns hfields hsigns)

/-- Equal catalogs are one catalog exactly if their zeros have the same signs. -/
theorem zeroSigns_eq_iff_of_same (h : catalog.same other) :
    catalog.zeroSigns = other.zeroSigns ↔ catalog = other := by
  obtain ⟨-, hcanonical⟩ := same_iff.mp h
  constructor
  · exact eq_of_canonical_of_zeroSigns hcanonical
  · rintro rfl
    rfl

end Catalog

end SchemaCatalog

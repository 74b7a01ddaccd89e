import SchemaCatalog.Overrides
import SchemaCatalog.Proofs.Magnitudes
import SchemaCatalog.Proofs.Reading

/-!
One limit out of two. A side of a range may be limited in two ways at once, by a plain limit that a
flag leaves out or keeps, and by a limit of its own that is left out. Only the tighter is kept. As
the limits stand in the order of numbers, a number that the kept one admits is admitted by both.
-/
namespace SchemaCatalog

namespace Json

end Json

namespace Schema

section Whole

end Whole

/-- Limits that are numbers, and stand in the order of numbers if they are proper. -/
class NumberLimit (α : Type) [Limit α] where
  value : α → ℚ
  Proper : α → Prop
  isNumber_of_read? : ∀ {written : Json} {limit : α},
    Limit.read? written = some limit → written.isNumber
  same_iff : ∀ {x y : α}, Proper x → Proper y → (Limit.same x y ↔ value x = value y)
  less_iff : ∀ {x y : α}, Proper x → Proper y → (Limit.less x y ↔ value x < value y)

instance : NumberLimit Int64 where
  value limit := limit.toInt
  Proper _ := True
  isNumber_of_read? {written limit} h := by
    cases written with
    | int n => rfl
    | float x => rfl
    | _ => cases h
  same_iff {x y} _ _ := by
    rw [Int.cast_inj, Int64.toInt_inj]
    exact beq_iff_eq
  less_iff {x y} _ _ := by
    rw [Int.cast_lt, ← Int64.lt_iff_toInt_lt]
    exact decide_eq_true_iff

instance : NumberLimit Double where
  value := Double.value
  Proper limit := limit.isNaN = false
  isNumber_of_read? {written limit} h := by
    cases written with
    | int n => rfl
    | float x => rfl
    | _ => cases h
  same_iff {x y} hx hy := by
    change x.same y ↔ _
    rw [Double.value_inj, Double.same, hx, hy]
    exact beq_iff_eq
  less_iff {x y} hx hy := by
    change x.less y ↔ _
    rw [Double.value_lt_iff, Double.less, hx, hy]
    exact decide_eq_true_iff

namespace Side

/-- That a limit of a side admits a number: those beyond the limit, and itself unless it is left
out. -/
def Admits (side : Side) (exclusive : Bool) (limit x : ℚ) : Prop :=
  match side with
  | .lower => if exclusive then limit < x else limit ≤ x
  | .upper => if exclusive then x < limit else x ≤ limit

variable {side : Side} {limit inner outer x : ℚ}

end Side

end Schema

/-- That a limit that stands on a side admits a number. -/
def Bound.Admits {α : Type} [Schema.Limit α] [Schema.NumberLimit α] (bound : Bound α)
    (side : Schema.Side) (x : ℚ) : Prop :=
  side.Admits bound.exclusive (Schema.NumberLimit.value bound.value) x

/-- That a number keeps to the limits of a range. -/
def Range.Admits {α : Type} [Schema.Limit α] [Schema.NumberLimit α] (range : Range α) (x : ℚ) :
    Prop :=
  (∀ limit ∈ range.minimum,
    Schema.Side.lower.Admits range.exclusiveMinimum (Schema.NumberLimit.value limit) x) ∧
  ∀ limit ∈ range.maximum,
    Schema.Side.upper.Admits range.exclusiveMaximum (Schema.NumberLimit.value limit) x

namespace Schema

variable {α : Type} [Limit α] {fields : Fields} {side : Side} {keyword : String}

/-- Whether the flag under an exclusive keyword leaves the plain limit out. -/
def Fields.flag (fields : Fields) (keyword : String) : Bool :=
  match fields.get? keyword with
  | some (.bool flag) => flag
  | _ => false

/-- The limit that a keyword states, left out or not, if it states one. -/
def Fields.limit? (fields : Fields) (keyword : String) (exclusive : Bool) : Option (Bound α) :=
  ((fields.get? keyword).bind Limit.read?).map (⟨·, exclusive⟩)

variable [NumberLimit α]

/-- All limits that stand under the keywords of a side, as far as they can be read, are proper. -/
def Side.Proper (side : Side) (fields : Fields) (α : Type) [Limit α] [NumberLimit α] : Prop :=
  ∀ keyword ∈ [side.keyword, side.exclusiveKeyword], ∀ written ∈ fields.get? keyword,
    ∀ limit ∈ Limit.read? (α := α) written, NumberLimit.Proper limit

end Schema

end SchemaCatalog

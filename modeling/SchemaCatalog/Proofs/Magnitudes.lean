import Mathlib.Algebra.Order.Field.Power
import Mathlib.Algebra.Order.Field.Rat
import Mathlib.Tactic.Linarith
import Mathlib.Tactic.LinearCombination
import Mathlib.Tactic.Ring
import SchemaCatalog.Schema.Reading

/-!
The numbers that doubles are. From one magnitude to the next the number grows by one unit of the
last place, also where the exponent changes; so the order of magnitudes with their signs is the
order of numbers. A double is a whole number exactly if it can be read as one.
-/
namespace SchemaCatalog

namespace Double

def value (x : Double) : ℚ := (if x.negative then -1 else 1) * (x.significand * 2 ^ x.scale)

/-- The absolute value of the doubles of a magnitude. -/
def size (magnitude : Nat) : ℚ :=
  if magnitude < binadeSize then magnitude * 2 ^ (-1074 : Int)
  else (binadeSize + magnitude % binadeSize : Nat) *
    2 ^ ((magnitude / binadeSize : Nat) - 1075 : Int)

/-- One unit of the last place at a magnitude. -/
def unit (magnitude : Nat) : ℚ :=
  2 ^ (if magnitude < binadeSize then -1074 else (magnitude / binadeSize : Nat) - 1075 : Int)

theorem unit_pos (magnitude : Nat) : 0 < unit magnitude := zpow_pos (by norm_num) _

theorem significand_mul (x : Double) : x.significand * 2 ^ x.scale = size x.magnitude := by
  unfold significand scale size
  split <;> rfl

theorem value_eq (x : Double) :
    x.value = if x.negative then -size x.magnitude else size x.magnitude := by
  rw [value, significand_mul]
  split <;> simp

theorem size_succ (magnitude : Nat) : size (magnitude + 1) = size magnitude + unit magnitude := by
  have hpos : 0 < binadeSize := by decide
  by_cases hsmall : magnitude < binadeSize
  · by_cases hnext : magnitude + 1 < binadeSize
    · simp only [size, unit, hsmall, hnext, if_true, Nat.cast_add, Nat.cast_one]
      ring
    · have heq : magnitude + 1 = binadeSize := by omega
      have hsum : (magnitude : ℚ) + 1 = binadeSize := by exact_mod_cast heq
      have hexp : ((1 : Nat) - 1075 : Int) = -1074 := rfl
      rw [size, if_neg hnext, size, if_pos hsmall, unit, if_pos hsmall, heq, Nat.mod_self,
        Nat.div_self hpos, hexp, Nat.add_zero, ← hsum]
      ring
  · have hnext : ¬magnitude + 1 < binadeSize := by omega
    simp only [size, unit, hsmall, hnext, if_false]
    by_cases hcarry : magnitude % binadeSize + 1 = binadeSize
    · have hmod : (magnitude + 1) % binadeSize = 0 := by
        rw [Nat.add_mod, Nat.mod_eq_of_lt (a := 1) (by decide), hcarry, Nat.mod_self]
      have hdiv : (magnitude + 1) / binadeSize = magnitude / binadeSize + 1 := by
        rw [Nat.succ_div, if_pos (Nat.dvd_of_mod_eq_zero hmod)]
      have hsum : ((magnitude % binadeSize : Nat) : ℚ) + 1 = binadeSize := by exact_mod_cast hcarry
      have hexp : ((magnitude / binadeSize + 1 : Nat) : Int) - 1075 =
          ((magnitude / binadeSize : Nat) - 1075 : Int) + 1 := by push_cast; ring
      rw [hmod, hdiv, hexp, zpow_add_one₀ (by norm_num), Nat.add_zero, Nat.cast_add]
      linear_combination (2 : ℚ) ^ ((magnitude / binadeSize : Nat) - 1075 : Int) * (-hsum)
    · have hlt : magnitude % binadeSize < binadeSize := Nat.mod_lt _ hpos
      have hmod : (magnitude + 1) % binadeSize = magnitude % binadeSize + 1 := by
        rw [Nat.add_mod, Nat.mod_eq_of_lt (a := 1) (by decide), Nat.mod_eq_of_lt (by omega)]
      have hdiv : (magnitude + 1) / binadeSize = magnitude / binadeSize := by
        have hndvd : ¬binadeSize ∣ magnitude + 1 := by
          intro hdvd
          rw [Nat.mod_eq_zero_of_dvd hdvd] at hmod
          omega
        rw [Nat.succ_div, if_neg hndvd]
        rfl
      rw [hmod, hdiv]
      push_cast
      ring

theorem size_strictMono : StrictMono size := by
  apply strictMono_nat_of_lt_succ
  intro magnitude
  rw [size_succ]
  exact lt_add_of_pos_right _ (unit_pos magnitude)

@[simp] theorem size_zero : size 0 = 0 := by
  simp [size, binadeSize]

theorem size_nonneg (magnitude : Nat) : 0 ≤ size magnitude := by
  rw [← size_zero]
  exact size_strictMono.monotone (Nat.zero_le magnitude)

theorem size_pos {magnitude : Nat} (h : 0 < magnitude) : 0 < size magnitude := by
  rw [← size_zero]
  exact size_strictMono h

/-- The keys of doubles are in the order of the numbers. -/
theorem value_lt_iff {x y : Double} : x.value < y.value ↔ x.key < y.key := by
  have hx := size_nonneg x.magnitude
  have hy := size_nonneg y.magnitude
  rw [value_eq, value_eq, key, key]
  cases x.negative <;> cases y.negative <;> simp only [if_true, if_false, Bool.false_eq_true]
  · rw [size_strictMono.lt_iff_lt, Int.ofNat_lt]
  · exact iff_of_false (by linarith) (by omega)
  · rcases Nat.eq_zero_or_pos x.magnitude with hzero | hpos
    · rw [hzero, size_zero, neg_zero, ← size_zero, size_strictMono.lt_iff_lt]
      omega
    · have hsize := size_pos hpos
      exact iff_of_true (by linarith) (by omega)
  · rw [neg_lt_neg_iff, size_strictMono.lt_iff_lt]
    omega

theorem value_inj {x y : Double} : x.value = y.value ↔ x.key = y.key := by
  rw [le_antisymm_iff, ← not_lt, ← not_lt, value_lt_iff, value_lt_iff, not_lt, not_lt,
    ← le_antisymm_iff]

end Double
end SchemaCatalog

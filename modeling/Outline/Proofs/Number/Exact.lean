import Mathlib.Algebra.Order.Field.Power
import Mathlib.Data.Nat.Cast.Order.Field
import Mathlib.Data.Rat.Cast.Order
import Mathlib.Tactic.FieldSimp
import Mathlib.Tactic.Ring
import Outline.Number.Double

namespace Outline.Double

def signOf (negative : Bool) : ℚ := if negative then -1 else 1

-- What a finite number stands for, in 53 bits and an exponent of the range.
def Is : Double → ℚ → Prop
  | finite negative mantissa exponent, v =>
    mantissa < 2 ^ 53 ∧ leastExponent ≤ exponent ∧ exponent ≤ greatestExponent ∧
      v = signOf negative * (mantissa * 2 ^ exponent)
  | _, _ => False

theorem zero_is (negative : Bool) : (zero negative).Is 0 :=
  ⟨by decide, by decide, by decide, by simp⟩

theorem roundDiv_mul {den : Nat} (h : 0 < den) (m : Nat) : roundDiv (m * den) den = m := by
  have positive : den ≠ 0 := by omega
  simp [roundDiv, Nat.mul_div_cancel m h, positive.symm]

theorem cast_pow_toNat {e : Int} (h : 0 ≤ e) : ((Nat.pow 2 e.toNat : Nat) : ℚ) = 2 ^ e := by
  rw [Nat.pow_eq, Nat.cast_pow, ← zpow_natCast, Int.toNat_of_nonneg h, Nat.cast_ofNat]

variable {num den : Nat}

theorem scaled_pos (h : 0 < den) (e : Int) : 0 < (scaled num den e).2 := by
  unfold scaled
  split <;> simp [h]

theorem scaled_eq (h : 0 < den) (e : Int) :
    ((scaled num den e).1 : ℚ) = num / den / 2 ^ e * (scaled num den e).2 := by
  have denom : (den : ℚ) ≠ 0 := by exact_mod_cast h.ne'
  have unit : (2 : ℚ) ^ e ≠ 0 := by positivity
  unfold scaled
  split
  case isTrue he =>
    rw [Nat.cast_mul, cast_pow_toNat he]
    field_simp
  case isFalse he =>
    rw [Nat.cast_mul, cast_pow_toNat (by omega), zpow_neg]
    field_simp

theorem roundDiv_scaled {m : Nat} {e : Int} (hd : 0 < den) (h : (num / den : ℚ) = m * 2 ^ e) :
    roundDiv (scaled num den e).1 (scaled num den e).2 = m := by
  have units : ((scaled num den e).1 : ℚ) = num / den / 2 ^ e * (scaled num den e).2 := scaled_eq hd e
  rw [h, mul_div_cancel_right₀ _ (by positivity)] at units
  rw [show (scaled num den e).1 = m * (scaled num den e).2 by exact_mod_cast units]
  exact roundDiv_mul (scaled_pos hd e) m

theorem scaled_div_lt_iff (h : 0 < den) (e : Int) :
    (scaled num den e).1 / (scaled num den e).2 < Nat.pow 2 53 ↔ (num / den : ℚ) < 2 ^ (53 + e) := by
  have positive : (0 : ℚ) < (scaled num den e).2 := by exact_mod_cast scaled_pos h e
  have unit : (0 : ℚ) < 2 ^ e := by positivity
  rw [Nat.div_lt_iff_lt_mul (scaled_pos h e), ← Nat.cast_lt (α := ℚ), scaled_eq h, Nat.pow_eq,
    Nat.cast_mul, mul_lt_mul_iff_left₀ positive, div_lt_iff₀ unit, zpow_add₀ (by decide)]
  norm_cast

theorem lt_ratio (hn : num ≠ 0) (hd : den ≠ 0) :
    (2 : ℚ) ^ ((num.log2 : Int) - den.log2 - 1) < num / den := by
  have denom : (0 : ℚ) < den := by exact_mod_cast Nat.pos_of_ne_zero hd
  have below : (2 : ℚ) ^ num.log2 ≤ num := by exact_mod_cast Nat.log2_self_le hn
  have above : (den : ℚ) < 2 ^ (den.log2 + 1) := by exact_mod_cast Nat.lt_log2_self
  rw [lt_div_iff₀ denom]
  calc (2 : ℚ) ^ ((num.log2 : Int) - den.log2 - 1) * den
      < 2 ^ ((num.log2 : Int) - den.log2 - 1) * 2 ^ (den.log2 + 1) :=
        mul_lt_mul_of_pos_left above (by positivity)
    _ = 2 ^ num.log2 := by
        rw [← zpow_natCast, ← zpow_natCast, ← zpow_add₀ (by decide)]
        congr 1
        omega
    _ ≤ num := below

theorem ratio_lt (hd : den ≠ 0) : (num / den : ℚ) < 2 ^ ((num.log2 : Int) - den.log2 + 1) := by
  have denom : (0 : ℚ) < den := by exact_mod_cast Nat.pos_of_ne_zero hd
  have above : (num : ℚ) < 2 ^ (num.log2 + 1) := by exact_mod_cast Nat.lt_log2_self
  have below : (2 : ℚ) ^ den.log2 ≤ den := by exact_mod_cast Nat.log2_self_le hd
  rw [div_lt_iff₀ denom]
  calc (num : ℚ)
      < 2 ^ (num.log2 + 1) := above
    _ = 2 ^ ((num.log2 : Int) - den.log2 + 1) * 2 ^ den.log2 := by
        rw [← zpow_natCast, ← zpow_natCast, ← zpow_add₀ (by decide)]
        congr 1
        omega
    _ ≤ 2 ^ ((num.log2 : Int) - den.log2 + 1) * den := by gcongr

-- The last place of a ratio, as far as the sizes of its parts tell: it may be one more.
def firstPlace (num den : Nat) : Int := max leastExponent ((num.log2 : Int) - den.log2 - 53)

-- The exponent of the last place that a ratio is rounded to.
def lastPlace (num den : Nat) : Int :=
  if (scaled num den (firstPlace num den)).1 / (scaled num den (firstPlace num den)).2 < Nat.pow 2 53
  then firstPlace num den
  else firstPlace num den + 1

theorem ofRatio_eq (h : num ≠ 0) (negative : Bool) :
    ofRatio negative num den =
      let place := lastPlace num den
      let mantissa := roundDiv (scaled num den place).1 (scaled num den place).2
      if mantissa == 0 then zero negative else
      let (mantissa, exponent) :=
        if mantissa == Nat.pow 2 53 then (Nat.pow 2 52, place + 1) else (mantissa, place)
      if greatestExponent < exponent then infinite negative else finite negative mantissa exponent := by
  rw [ofRatio, if_neg (by simpa using h)]
  rfl

theorem leastExponent_le_lastPlace : leastExponent ≤ lastPlace num den := by
  unfold lastPlace firstPlace
  split <;> omega

theorem ratio_lt_lastPlace (h : 0 < den) : (num / den : ℚ) < 2 ^ (53 + lastPlace num den) := by
  unfold lastPlace
  split
  case isTrue fits => exact (scaled_div_lt_iff h _).mp fits
  case isFalse =>
    refine lt_of_lt_of_le (ratio_lt h.ne') (zpow_le_zpow_right₀ (by decide) ?_)
    unfold firstPlace
    omega

theorem lastPlace_le_ratio (hn : num ≠ 0) (hd : 0 < den) :
    lastPlace num den = leastExponent ∨ (2 : ℚ) ^ (52 + lastPlace num den) ≤ num / den := by
  unfold lastPlace
  split
  case isTrue =>
    cases max_choice leastExponent ((num.log2 : Int) - den.log2 - 53)
    case inl least => exact .inl least
    case inr above =>
      refine .inr (le_trans (zpow_le_zpow_right₀ (by decide) ?_) (lt_ratio hn hd.ne').le)
      rw [firstPlace, above]
      omega
  case isFalse wide =>
    rw [scaled_div_lt_iff hd, not_lt] at wide
    exact .inr (le_trans (zpow_le_zpow_right₀ (by decide) (by omega)) wide)

theorem lastPlace_le_greatestExponent (hn : num ≠ 0) (hd : 0 < den)
    (range : (num / den : ℚ) < 2 ^ (1024 : ℤ)) : lastPlace num den ≤ greatestExponent := by
  cases lastPlace_le_ratio hn hd
  case inl least => rw [least]; decide
  case inr below =>
    have := (zpow_lt_zpow_iff_right₀ (by decide)).mp (below.trans_lt range)
    unfold greatestExponent
    omega

-- What 53 bits can hold needs no place beyond the last one.
theorem lastPlace_le {m : Nat} {e : Int} (hn : num ≠ 0) (hd : 0 < den) (hm : m < 2 ^ 53)
    (he : leastExponent ≤ e) (h : (num / den : ℚ) = m * 2 ^ e) : lastPlace num den ≤ e := by
  cases lastPlace_le_ratio hn hd
  case inl least => omega
  case inr below =>
    have mantissa : (m : ℚ) < 2 ^ (53 : ℤ) := by exact_mod_cast hm
    have above : (num / den : ℚ) < 2 ^ (53 + e) := by
      rw [h, zpow_add₀ (by decide)]
      gcongr
    have := (zpow_lt_zpow_iff_right₀ (by decide)).mp (below.trans_lt above)
    omega

theorem lt_of_eq_lastPlace {m : Nat} (hd : 0 < den) (h : (num / den : ℚ) = m * 2 ^ lastPlace num den) :
    m < 2 ^ 53 := by
  have above : (num / den : ℚ) < 2 ^ (53 + lastPlace num den) := ratio_lt_lastPlace hd
  rw [h, zpow_add₀ (by decide)] at above
  exact_mod_cast lt_of_mul_lt_mul_right above (by positivity)

-- A ratio that 53 bits can hold is not rounded.
theorem ofRatio_is {m : Nat} {e : Int} (hd : 0 < den) (hm : m < 2 ^ 53) (he : leastExponent ≤ e)
    (h : (num / den : ℚ) = m * 2 ^ e) (range : (num / den : ℚ) < 2 ^ (1024 : ℤ)) (negative : Bool) :
    (ofRatio negative num den).Is (signOf negative * (num / den)) := by
  by_cases hn : num = 0
  case pos => simpa [hn, ofRatio] using zero_is negative
  case neg =>
    have place := lastPlace_le hn hd hm he h
    have low := lastPlace_le_greatestExponent hn hd range
    let mantissa := m * Nat.pow 2 (e - lastPlace num den).toNat
    have value : (num / den : ℚ) = mantissa * 2 ^ lastPlace num den := by
      rw [h, Nat.cast_mul, cast_pow_toNat (by omega), mul_assoc, ← zpow_add₀ (by decide)]
      congr 2
      omega
    have small := lt_of_eq_lastPlace hd value
    have full : mantissa ≠ Nat.pow 2 53 := small.ne
    have nonzero : mantissa ≠ 0 := by
      intro none
      rw [none, Nat.cast_zero, zero_mul, div_eq_zero_iff] at value
      simp [hn, hd.ne'] at value
    have result : ofRatio negative num den = finite negative mantissa (lastPlace num den) := by
      simp only [ofRatio_eq hn, roundDiv_scaled hd value, beq_iff_eq, nonzero, full, if_false, low.not_gt]
    rw [result]
    exact ⟨small, leastExponent_le_lastPlace, low, by rw [value]⟩

theorem signOf_xor (negative negative' : Bool) :
    signOf (negative != negative') = signOf negative * signOf negative' := by
  cases negative <;> cases negative' <;> simp [signOf]

theorem abs_signOf_mul (negative : Bool) (v : ℚ) : |signOf negative * v| = |v| := by
  cases negative <;> simp [signOf]

-- What 53 bits can hold is not rounded, whatever it is made of.
theorem ofScaled_is {k m : Nat} {d e : Int} (hm : m < 2 ^ 53) (he : leastExponent ≤ e)
    (h : (k * 2 ^ d : ℚ) = m * 2 ^ e) (range : (k * 2 ^ d : ℚ) < 2 ^ (1024 : ℤ)) (negative : Bool) :
    (ofScaled negative k d).Is (signOf negative * (k * 2 ^ d)) := by
  have positive : 0 < (scaled k 1 (-d)).2 := scaled_pos Nat.one_pos (-d)
  have value : ((scaled k 1 (-d)).1 / (scaled k 1 (-d)).2 : ℚ) = k * 2 ^ d := by
    have nonzero : ((scaled k 1 (-d)).2 : ℚ) ≠ 0 := by exact_mod_cast positive.ne'
    rw [scaled_eq Nat.one_pos, mul_div_cancel_right₀ _ nonzero, Nat.cast_one, div_one, zpow_neg,
      div_inv_eq_mul]
  rw [← value] at h range ⊢
  exact ofRatio_is positive hm he h range negative

theorem scale_nonneg (k : Nat) (d : Int) : (0 : ℚ) ≤ k * 2 ^ d :=
  mul_nonneg k.cast_nonneg (zpow_nonneg (by decide) d)

-- A product is exact if 53 bits can hold it.
theorem Is.mul {x y : Double} {v w : ℚ} {m : Nat} {e : Int} (hx : x.Is v) (hy : y.Is w)
    (hm : m < 2 ^ 53) (he : leastExponent ≤ e) (h : |v * w| = m * 2 ^ e) (range : |v * w| < 2 ^ (1024 : ℤ)) :
    (x.mul y).Is (v * w) := by
  cases x
  case infinite => contradiction
  case nan => contradiction
  case finite n k d =>
    cases y
    case infinite => contradiction
    case nan => contradiction
    case finite n' k' d' =>
      obtain ⟨-, -, -, rfl⟩ := hx
      obtain ⟨-, -, -, rfl⟩ := hy
      have product : signOf n * (k * 2 ^ d) * (signOf n' * (k' * 2 ^ d')) =
          signOf (n != n') * ((k * k' : Nat) * 2 ^ (d + d') : ℚ) := by
        rw [signOf_xor, zpow_add₀ (by decide), Nat.cast_mul]
        ring
      rw [product, abs_signOf_mul, abs_of_nonneg (scale_nonneg ..)] at h range
      rw [product]
      exact ofScaled_is hm he h range (n != n')

theorem ratio_two_pow (n : Nat) : ((Nat.pow 2 n : Nat) / (1 : Nat) : ℚ) = (1 : Nat) * 2 ^ (n : ℤ) := by
  rw [Nat.cast_one, div_one, one_mul, Nat.pow_eq, Nat.cast_pow, Nat.cast_ofNat, zpow_natCast]

theorem leastExponent_le_natCast (n : Nat) : leastExponent ≤ n :=
  le_trans (by decide) n.cast_nonneg

-- A power of two is a number itself up to the greatest.
theorem ofNat?_two_pow {n : Nat} (h : n < 1024) : ∃ x, ofNat? (Nat.pow 2 n) = some x ∧ x.Is (2 ^ n) := by
  have range : ((Nat.pow 2 n : Nat) / (1 : Nat) : ℚ) < 2 ^ (1024 : ℤ) := by
    rw [ratio_two_pow, Nat.cast_one, one_mul]
    exact zpow_lt_zpow_right₀ (by decide) (by exact_mod_cast h)
  have exact := ofRatio_is Nat.one_pos (by decide) (leastExponent_le_natCast n) (ratio_two_pow n) range false
  rw [ratio_two_pow, Nat.cast_one, one_mul, signOf, if_neg (by decide), one_mul, zpow_natCast] at exact
  unfold ofNat?
  split
  case h_1 infinite =>
    rw [infinite] at exact
    contradiction
  case h_2          => exact ⟨_, rfl, exact⟩

-- Beyond that it is out of reach.
theorem ofNat?_two_pow_eq_none {n : Nat} (h : 1024 ≤ n) : ofNat? (Nat.pow 2 n) = none := by
  have nonzero : Nat.pow 2 n ≠ 0 := (Nat.two_pow_pos n).ne'
  have low : lastPlace (Nat.pow 2 n) 1 ≤ n :=
    lastPlace_le nonzero Nat.one_pos (by decide) (leastExponent_le_natCast n) (ratio_two_pow n)
  have high : greatestExponent < lastPlace (Nat.pow 2 n) 1 := by
    have below : ((Nat.pow 2 n : Nat) / (1 : Nat) : ℚ) < 2 ^ (53 + lastPlace (Nat.pow 2 n) 1) :=
      ratio_lt_lastPlace Nat.one_pos
    rw [ratio_two_pow, Nat.cast_one, one_mul] at below
    have := (zpow_lt_zpow_iff_right₀ (by decide)).mp below
    unfold greatestExponent
    omega
  let mantissa := Nat.pow 2 (n - lastPlace (Nat.pow 2 n) 1).toNat
  have value : ((Nat.pow 2 n : Nat) / (1 : Nat) : ℚ) = mantissa * 2 ^ lastPlace (Nat.pow 2 n) 1 := by
    rw [ratio_two_pow, Nat.cast_one, one_mul, cast_pow_toNat (by omega), ← zpow_add₀ (by decide)]
    congr 1
    omega
  have positive : mantissa ≠ 0 := (Nat.two_pow_pos _).ne'
  have beyond : ofRatio false (Nat.pow 2 n) 1 = infinite false := by
    simp only [ofRatio_eq nonzero, roundDiv_scaled Nat.one_pos value, beq_iff_eq, positive, if_false]
    refine if_pos ?_
    split
    case isTrue  => exact high.trans (lt_add_one _)
    case isFalse => exact high
  simp only [ofNat?, beyond]

-- Doubling is exact up to the greatest number.
theorem Is.times? {b : Double} {v : ℚ} {n : Nat} (h : b.Is v) (hn : n < 1024)
    (range : |v * 2 ^ n| < 2 ^ 1024) : ∃ d, b.times? (Nat.pow 2 n) = some d ∧ d.Is (v * 2 ^ n) := by
  have ⟨x, reached, power⟩ := ofNat?_two_pow hn
  refine ⟨b.mul x, by rw [Double.times?, reached, Option.map_some], ?_⟩
  cases b
  case infinite => contradiction
  case nan => contradiction
  case finite negative m e =>
    have ⟨hm, low, _, value⟩ := h
    refine h.mul power hm (e := e + n) (by omega) ?_ (by rwa [zpow_ofNat])
    have nonneg : (0 : ℚ) ≤ m * 2 ^ e * 2 ^ n := mul_nonneg (scale_nonneg m e) (pow_nonneg (by decide) n)
    rw [value, mul_assoc, abs_signOf_mul, abs_of_nonneg nonneg, zpow_add₀ (by decide), zpow_natCast,
      mul_assoc]

end Outline.Double

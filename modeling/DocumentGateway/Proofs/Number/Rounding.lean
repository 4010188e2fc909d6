import DocumentGateway.Number.Binary64
import Mathlib.Algebra.Order.Field.Power
import Mathlib.Data.Rat.Cast.Order
import Mathlib.Tactic.FieldSimp
import Mathlib.Tactic.Linarith
import Mathlib.Tactic.Positivity
import Mathlib.Tactic.Ring

/-!
# Rounding to binary64

Every number that is rounded gets a magnitude in its one form, and a number that lies between the
middles of a magnitude and its neighbours is rounded to that magnitude. The mantissa has 53 bits
where the exponent allows it, which fixes the exponent; a number just below a power of two has the
exponent below, and is carried up.
-/

namespace DocumentGateway.Number.Binary64

/-- A magnitude in its one form, and none past the largest. -/
structure Canonical (x : Binary64) : Prop where
  small : x.mantissa < 2 ^ 53
  full : x.exponent = -1074 ∨ 2 ^ 52 ≤ x.mantissa
  least : -1074 ≤ x.exponent
  most : x.exponent ≤ 971

theorem canonical_zero : zero.Canonical := ⟨by decide, .inl rfl, by decide, by decide⟩

/-- The magnitude as a rational number. -/
def value (x : Binary64) : ℚ := x.mantissa * 2 ^ x.exponent

/-- A power of an integer is the quotient of two natural ones, one of which is one. -/
theorem zpow_eq_div (b : ℚ) (hb : b ≠ 0) (e : ℤ) : b ^ e = b ^ e.toNat / b ^ (-e).toNat := by
  rw [eq_div_iff (pow_ne_zero _ hb), ← zpow_natCast, ← zpow_natCast, ← zpow_add₀ hb]
  congr 1
  omega

theorem value_eq_div (x : Binary64) : x.value = x.numerator / x.denominator := by
  simp only [value, zpow_eq_div 2 two_ne_zero x.exponent, numerator, denominator, Nat.pow_eq]
  push_cast
  ring

theorem denominator_pos (x : Binary64) : 0 < x.denominator := Nat.two_pow_pos _

section Scaling

variable (num : Nat) {den : Nat}

/-- The whole part and the remainder of a fraction over a power of two make it up. -/
theorem scaled_spec (hden : 0 < den) (e : ℤ) :
    (scaled num den e).2.1 < (scaled num den e).2.2 ∧
      (num / den : ℚ) * (scaled num den e).2.2 =
        ((scaled num den e).1 * (scaled num den e).2.2 + (scaled num den e).2.1 : ℕ) * 2 ^ e := by
  have hdivisor : 0 < den * 2 ^ e.toNat := by positivity
  refine ⟨Nat.mod_lt _ hdivisor, ?_⟩
  simp only [scaled, Nat.pow_eq]
  rw [Nat.div_add_mod' (num * 2 ^ (-e).toNat), zpow_eq_div 2 two_ne_zero]
  push_cast
  field_simp

/-- To compare a fraction with a multiple of a power of two, its parts are compared. -/
theorem lt_scaled_iff (hden : 0 < den) (e : ℤ) (a : ℚ) :
    (a * 2 ^ e < num / den ↔ a * (scaled num den e).2.2 <
      ((scaled num den e).1 * (scaled num den e).2.2 + (scaled num den e).2.1 : ℕ)) ∧
      ((num / den : ℚ) < a * 2 ^ e ↔
        (((scaled num den e).1 * (scaled num den e).2.2 + (scaled num den e).2.1 : ℕ) : ℚ) <
          a * (scaled num den e).2.2) := by
  obtain ⟨hrest, hsum⟩ := scaled_spec num hden e
  have hdivisor : (0 : ℚ) < (scaled num den e).2.2 := by
    exact_mod_cast (Nat.zero_le _).trans_lt hrest
  have hpower : (0 : ℚ) < 2 ^ e := by positivity
  constructor
  · rw [← mul_lt_mul_iff_left₀ hdivisor, hsum, mul_right_comm, mul_lt_mul_iff_left₀ hpower]
  · rw [← mul_lt_mul_iff_left₀ hdivisor, hsum, mul_right_comm a, mul_lt_mul_iff_left₀ hpower]

/-- The whole part of a fraction over a power of two is below a number if the fraction is. -/
theorem scaled_lt_iff (hden : 0 < den) (e : ℤ) (n : Nat) :
    (scaled num den e).1 < n ↔ (num / den : ℚ) < n * 2 ^ e := by
  have hrest := (scaled_spec num hden e).1
  rw [(lt_scaled_iff num hden e n).2]
  norm_cast
  constructor
  · intro h
    nlinarith
  · intro h
    by_contra hle
    nlinarith

theorem two_pow_mul_zpow (n : Nat) (e : ℤ) : (2 : ℚ) ^ n * 2 ^ e = 2 ^ (n + e) := by
  rw [zpow_add₀ two_ne_zero, zpow_natCast]

variable {num}

/-- The bits of numerator and denominator tell the magnitude of a fraction up to a factor of two to
either side. -/
theorem log2_bounds (hnum : 0 < num) (hden : 0 < den) :
    (2 : ℚ) ^ ((num.log2 : ℤ) - den.log2 - 1) ≤ num / den ∧
      (num / den : ℚ) < 2 ^ ((num.log2 : ℤ) - den.log2 + 1) := by
  have hden' : (0 : ℚ) < den := by exact_mod_cast hden
  have hnumLow : (2 : ℚ) ^ num.log2 ≤ num := by exact_mod_cast Nat.log2_self_le hnum.ne'
  have hnumHigh : (num : ℚ) < 2 ^ (num.log2 + 1) := by exact_mod_cast Nat.lt_log2_self
  have hdenLow : (2 : ℚ) ^ den.log2 ≤ den := by exact_mod_cast Nat.log2_self_le hden.ne'
  have hdenHigh : (den : ℚ) < 2 ^ (den.log2 + 1) := by exact_mod_cast Nat.lt_log2_self
  constructor
  · rw [le_div_iff₀ hden']
    calc (2 : ℚ) ^ ((num.log2 : ℤ) - den.log2 - 1) * den
        ≤ 2 ^ ((num.log2 : ℤ) - den.log2 - 1) * 2 ^ (den.log2 + 1) := by gcongr
      _ = 2 ^ num.log2 := by
        rw [mul_comm, two_pow_mul_zpow, ← zpow_natCast]
        congr 1
        push_cast
        ring
      _ ≤ num := hnumLow
  · rw [div_lt_iff₀ hden']
    calc (num : ℚ) < 2 ^ (num.log2 + 1) := hnumHigh
      _ = 2 ^ ((num.log2 : ℤ) - den.log2 + 1) * 2 ^ den.log2 := by
        rw [mul_comm, two_pow_mul_zpow, ← zpow_natCast]
        congr 1
        push_cast
        ring
      _ ≤ 2 ^ ((num.log2 : ℤ) - den.log2 + 1) * den := by gcongr

/-- A number lies where an exponent leaves it 53 bits, or fewer if it is the least exponent. -/
structure FitsAt (q : ℚ) (e : ℤ) : Prop where
  least : -1074 ≤ e
  below : q < 2 ^ 53 * 2 ^ e
  above : e = -1074 ∨ 2 ^ 52 * 2 ^ e ≤ q

/-- There is only one such exponent. -/
theorem FitsAt.unique {q : ℚ} {e e' : ℤ} (h : FitsAt q e) (h' : FitsAt q e') : e = e' := by
  have hnot : ∀ {e e' : ℤ}, FitsAt q e → FitsAt q e' → ¬e < e' := by
    intro e e' h h' hlt
    have habove : 2 ^ 52 * 2 ^ e' ≤ q := h'.above.resolve_left (by have := h.least; omega)
    have hle : (2 : ℚ) ^ 53 * 2 ^ e ≤ 2 ^ 52 * 2 ^ e' := by
      rw [two_pow_mul_zpow, two_pow_mul_zpow]
      exact zpow_le_zpow_right₀ one_le_two (by push_cast; omega)
    exact (h.below.trans_le (hle.trans habove)).false
  exact le_antisymm (not_lt.mp (hnot h' h)) (not_lt.mp (hnot h h'))

theorem fitsAt_exponentFor (hnum : 0 < num) (hden : 0 < den) :
    FitsAt (num / den) (exponentFor num den) := by
  obtain ⟨hlow, hhigh⟩ := log2_bounds hnum hden
  have hcount := scaled_lt_iff num hden
    (max ((num.log2 : ℤ) - (den.log2 : ℤ) - 53) (-1074)) (2 ^ 53)
  unfold exponentFor
  dsimp only
  generalize hguess : max ((num.log2 : ℤ) - (den.log2 : ℤ) - 53) (-1074) = guess at hcount ⊢
  push_cast at hcount
  split
  · rename_i hlt
    refine ⟨by omega, hcount.mp hlt, ?_⟩
    by_cases hleast : guess = -1074
    · exact .inl hleast
    · refine .inr (le_trans (le_of_eq ?_) hlow)
      rw [two_pow_mul_zpow]
      congr 1
      push_cast
      omega
  · rename_i hge
    have hfull : (2 : ℚ) ^ 53 * 2 ^ guess ≤ num / den := not_lt.mp fun h => hge (hcount.mpr h)
    refine ⟨by omega, hhigh.trans_le ?_, .inr (le_trans (le_of_eq ?_) hfull)⟩
    · rw [two_pow_mul_zpow]
      exact zpow_le_zpow_right₀ one_le_two (by push_cast; omega)
    · rw [two_pow_mul_zpow, two_pow_mul_zpow]
      congr 1
      push_cast
      ring

end Scaling

/-- How far below a magnitude its interval begins, in units of the last bit: below a power of two
the lower neighbour is half as far. -/
def gapBelow (x : Binary64) : ℚ := if x.mantissa = 2 ^ 52 ∧ -1074 < x.exponent then 1 / 4 else 1 / 2

/-- A number lies no farther from a magnitude than the middles to its neighbours, which belong to
even mantissas. -/
structure RoundsTo (q : ℚ) (x : Binary64) : Prop where
  low : (x.mantissa - x.gapBelow) * 2 ^ x.exponent ≤ q
  high : q ≤ (x.mantissa + 1 / 2) * 2 ^ x.exponent
  inside : x.mantissa % 2 = 1 →
    (x.mantissa - x.gapBelow) * 2 ^ x.exponent < q ∧ q < (x.mantissa + 1 / 2) * 2 ^ x.exponent

theorem gapBelow_bounds (x : Binary64) : 1 / 4 ≤ x.gapBelow ∧ x.gapBelow ≤ 1 / 2 := by
  unfold gapBelow
  split <;> norm_num

theorem RoundsTo.pos {q : ℚ} {x : Binary64} (h : RoundsTo q x) (hne : x.mantissa ≠ 0) : 0 < q := by
  have hmantissa : (1 : ℚ) ≤ x.mantissa := by exact_mod_cast Nat.one_le_iff_ne_zero.mpr hne
  have hpower : (0 : ℚ) < 2 ^ x.exponent := by positivity
  have hlow : 0 < (x.mantissa - x.gapBelow) * 2 ^ x.exponent :=
    mul_pos (by linarith [x.gapBelow_bounds.2]) hpower
  exact hlow.trans_le h.low

/-- What is rounded to a magnitude is neither as small nor as large as these powers of ten. -/
theorem RoundsTo.bounds {q : ℚ} {x : Binary64} (h : RoundsTo q x) (hx : x.Canonical)
    (hne : x.mantissa ≠ 0) : (10 : ℚ) ^ (-1075 : ℤ) ≤ q ∧ q < 10 ^ (1024 : ℤ) := by
  have hmantissa : (1 : ℚ) ≤ x.mantissa := by exact_mod_cast Nat.one_le_iff_ne_zero.mpr hne
  have hsmall : (x.mantissa : ℚ) + 1 ≤ 2 ^ 53 := by exact_mod_cast hx.small
  have hgap := x.gapBelow_bounds.2
  constructor
  · calc (10 : ℚ) ^ (-1075 : ℤ)
        ≤ 2 ^ (-1075 : ℤ) := by
          rw [zpow_neg, zpow_neg]
          exact inv_anti₀ (by positivity)
            (zpow_le_zpow_left₀ (by norm_num) two_pos.le (by norm_num))
      _ = 1 / 2 * 2 ^ (-1074 : ℤ) := by
          rw [show (-1074 : ℤ) = -1075 + 1 by norm_num, zpow_add_one₀ two_ne_zero]
          ring
      _ ≤ (x.mantissa - x.gapBelow) * 2 ^ x.exponent := by
          exact mul_le_mul (by linarith) (zpow_le_zpow_right₀ one_le_two hx.least)
            (by positivity) (by linarith)
      _ ≤ q := h.low
  · calc q ≤ (x.mantissa + 1 / 2) * 2 ^ x.exponent := h.high
      _ < 2 ^ 53 * 2 ^ x.exponent := by
          gcongr
          linarith
      _ ≤ 2 ^ 53 * 2 ^ (971 : ℤ) := by
          gcongr
          · exact one_le_two
          · exact hx.most
      _ = 2 ^ (1024 : ℤ) := two_pow_mul_zpow 53 971
      _ ≤ 10 ^ (1024 : ℤ) := by
          exact zpow_le_zpow_left₀ (by norm_num) two_pos.le (by norm_num)

/-- The nearest whole number, a half going to the even one, is the one that is no farther away than
a half, and no farther away than less than that if it is odd. -/
theorem nearest_eq {whole rest divisor m : Nat} (hrest : rest < divisor)
    (hlow : 2 * (m * divisor) ≤ 2 * (whole * divisor + rest) + divisor)
    (hhigh : 2 * (whole * divisor + rest) ≤ 2 * (m * divisor) + divisor)
    (hinside : m % 2 = 1 → 2 * (m * divisor) ≠ 2 * (whole * divisor + rest) + divisor ∧
      2 * (whole * divisor + rest) ≠ 2 * (m * divisor) + divisor) :
    nearest whole rest divisor = m := by
  have hle : whole ≤ m := by
    by_contra hlt
    have hmul : (m + 1) * divisor ≤ whole * divisor := Nat.mul_le_mul_right _ (by omega)
    rw [Nat.succ_mul] at hmul
    omega
  have hge : m ≤ whole + 1 := by
    by_contra hlt
    have hmul : (whole + 2) * divisor ≤ m * divisor := Nat.mul_le_mul_right _ (by omega)
    rw [Nat.add_mul] at hmul
    omega
  rcases Nat.eq_or_lt_of_le hle with rfl | hlt
  · rw [nearest, if_neg]
    simp only [Bool.or_eq_true, decide_eq_true_eq, Bool.and_eq_true, beq_iff_eq]
    omega
  · obtain rfl : m = whole + 1 := by omega
    rw [Nat.succ_mul whole divisor] at hlow hhigh hinside
    rw [nearest, if_pos]
    simp only [Bool.or_eq_true, decide_eq_true_eq, Bool.and_eq_true, beq_iff_eq]
    omega

theorem nearest_bounds (whole rest divisor : Nat) :
    whole ≤ nearest whole rest divisor ∧ nearest whole rest divisor ≤ whole + 1 := by
  unfold nearest
  split <;> omega

theorem carried_of_lt {mantissa : Nat} {e : ℤ} (h : mantissa < 2 ^ 53) :
    carried mantissa e = ⟨mantissa, e⟩ := if_neg (Nat.ne_of_lt h)

theorem carried_full (e : ℤ) : carried (2 ^ 53) e = ⟨2 ^ 52, e + 1⟩ := if_pos (Nat.pow_eq).symm

section Rounding

variable {num den : Nat} {x : Binary64}

/-- Where the exponent fits, the mantissa of a number is the one that it rounds to. -/
theorem nearest_scaled (hden : 0 < den) {e : ℤ} {m : Nat}
    (hlow : (m - 1 / 2) * 2 ^ e ≤ (num / den : ℚ)) (hhigh : (num / den : ℚ) ≤ (m + 1 / 2) * 2 ^ e)
    (hinside : m % 2 = 1 →
      (m - 1 / 2) * 2 ^ e < (num / den : ℚ) ∧ (num / den : ℚ) < (m + 1 / 2) * 2 ^ e) :
    nearest (scaled num den e).1 (scaled num den e).2.1 (scaled num den e).2.2 = m := by
  have hrest := (scaled_spec num hden e).1
  obtain ⟨hbelow, hbelow'⟩ := lt_scaled_iff num hden e (m - 1 / 2)
  obtain ⟨habove', habove⟩ := lt_scaled_iff num hden e (m + 1 / 2)
  rw [← not_lt, hbelow', not_lt] at hlow
  rw [← not_lt, habove', not_lt] at hhigh
  rw [hbelow, habove] at hinside
  clear hbelow hbelow' habove habove'
  generalize scaled num den e = parts at hrest hlow hhigh hinside ⊢
  obtain ⟨whole, rest, divisor⟩ := parts
  dsimp only at hrest hlow hhigh hinside ⊢
  generalize hsum : whole * divisor + rest = sum at hlow hhigh hinside
  refine nearest_eq hrest ?_ ?_ fun hodd => ⟨?_, ?_⟩
  · rw [hsum]
    exact_mod_cast (by linarith : 2 * ((m : ℚ) * divisor) ≤ 2 * sum + divisor)
  · rw [hsum]
    exact_mod_cast (by linarith : 2 * (sum : ℚ) ≤ 2 * (m * divisor) + divisor)
  · rw [hsum]
    have hlt := (hinside hodd).1
    refine ne_of_lt ?_
    exact_mod_cast (by linarith : 2 * ((m : ℚ) * divisor) < 2 * sum + divisor)
  · rw [hsum]
    have hlt := (hinside hodd).2
    refine ne_of_lt ?_
    exact_mod_cast (by linarith : 2 * (sum : ℚ) < 2 * (m * divisor) + divisor)

/-- A number that lies in the interval of a magnitude is rounded to it. -/
theorem ofFraction?_of_roundsTo (hden : 0 < den) (hx : x.Canonical) (hne : x.mantissa ≠ 0)
    (h : RoundsTo (num / den) x) : ofFraction? num den = some x := by
  have hden' : (0 : ℚ) < den := by exact_mod_cast hden
  have hpos : (0 : ℚ) < num / den := h.pos hne
  have hnum : num ≠ 0 := by
    rintro rfl
    simp at hpos
  have hfits := fitsAt_exponentFor (Nat.pos_of_ne_zero hnum) hden
  have hsmall : (x.mantissa : ℚ) ≤ 2 ^ 53 - 1 := by
    have := hx.small
    exact_mod_cast (by omega : (x.mantissa : ℤ) ≤ 2 ^ 53 - 1)
  have hpower : (0 : ℚ) < 2 ^ x.exponent := by positivity
  rw [ofFraction?, if_neg hnum]
  dsimp only
  by_cases hfull : x.exponent = -1074 ∨ 2 ^ 52 * 2 ^ x.exponent ≤ (num / den : ℚ)
  · -- The exponent of the number is that of the magnitude.
    have hbelow : (num / den : ℚ) < 2 ^ 53 * 2 ^ x.exponent := by
      refine h.high.trans_lt ?_
      gcongr
      linarith
    have he : exponentFor num den = x.exponent := hfits.unique ⟨hx.least, hbelow, hfull⟩
    have hgap : ((x.mantissa : ℚ) - 1 / 2) * 2 ^ x.exponent ≤
        (x.mantissa - x.gapBelow) * 2 ^ x.exponent := by
      gcongr
      exact x.gapBelow_bounds.2
    have hrounded := nearest_scaled hden (e := x.exponent) (hgap.trans h.low) h.high
      fun hodd => ⟨hgap.trans_lt (h.inside hodd).1, (h.inside hodd).2⟩
    have hcarried : carried x.mantissa x.exponent = x := carried_of_lt hx.small
    rw [he, hrounded, hcarried, if_neg (not_lt.mpr hx.most)]
  · -- It lies below a power of two, and its own exponent is one less.
    obtain ⟨hleast, hlt⟩ : -1074 < x.exponent ∧ (num / den : ℚ) < 2 ^ 52 * 2 ^ x.exponent := by
      refine ⟨lt_of_le_of_ne hx.least fun heq => hfull (.inl heq.symm), ?_⟩
      exact not_le.mp fun hle => hfull (.inr hle)
    have hpowerOfTwo : x.mantissa = 2 ^ 52 := by
      by_contra hother
      have hmore : 2 ^ 52 + 1 ≤ x.mantissa := by
        have := hx.full.resolve_left hleast.ne'
        omega
      have hmore' : (2 ^ 52 + 1 : ℚ) ≤ x.mantissa := by exact_mod_cast hmore
      have hlow : (2 : ℚ) ^ 52 * 2 ^ x.exponent ≤ (x.mantissa - x.gapBelow) * 2 ^ x.exponent := by
        gcongr
        linarith [x.gapBelow_bounds.2]
      exact absurd (hlow.trans h.low) (not_le.mpr hlt)
    have hgap : x.gapBelow = 1 / 4 := if_pos ⟨hpowerOfTwo, hleast⟩
    have hhalf : (2 : ℚ) ^ x.exponent = 2 * 2 ^ (x.exponent - 1) := by
      rw [← zpow_one_add₀ two_ne_zero]
      congr 1
      ring
    have hlow : ((2 ^ 53 : ℕ) - 1 / 2 : ℚ) * 2 ^ (x.exponent - 1) ≤ num / den := by
      refine le_trans (le_of_eq ?_) h.low
      rw [hgap, hpowerOfTwo, hhalf]
      push_cast
      ring
    have hhigh : (num / den : ℚ) < 2 ^ 53 * 2 ^ (x.exponent - 1) := by
      refine hlt.trans_eq ?_
      rw [hhalf]
      ring
    have he : exponentFor num den = x.exponent - 1 := by
      refine hfits.unique ⟨by omega, hhigh, .inr (le_trans ?_ hlow)⟩
      gcongr
      norm_num
    have hrounded := nearest_scaled hden (e := x.exponent - 1) (m := 2 ^ 53) hlow
      (hhigh.le.trans (by gcongr; norm_num)) (by norm_num)
    have hcarried : carried (2 ^ 53) (x.exponent - 1) = x := by
      obtain ⟨mantissa, exponent⟩ := x
      obtain rfl : mantissa = 2 ^ 52 := hpowerOfTwo
      rw [carried_full, sub_add_cancel]
    rw [he, hrounded, hcarried, if_neg (not_lt.mpr hx.most)]

/-- A number that is rounded is zero, or its mantissa is rounded up or down at an exponent that
fits. -/
theorem exists_of_ofFraction? (hden : 0 < den) (h : ofFraction? num den = some x) :
    num = 0 ∧ x = zero ∨ ∃ whole mantissa e, FitsAt (num / den) e ∧
      (∀ n : Nat, whole < n ↔ (num / den : ℚ) < n * 2 ^ e) ∧
      whole ≤ mantissa ∧ mantissa ≤ whole + 1 ∧ x = carried mantissa e ∧ x.exponent ≤ 971 := by
  unfold ofFraction? at h
  split at h
  · rename_i hnum
    cases h
    exact .inl ⟨hnum, rfl⟩
  · rename_i hnum
    dsimp only at h
    split at h
    · cases h
    · rename_i hmost
      cases h
      obtain ⟨hlow, hhigh⟩ := nearest_bounds (scaled num den (exponentFor num den)).1
        (scaled num den (exponentFor num den)).2.1 (scaled num den (exponentFor num den)).2.2
      exact .inr ⟨_, _, _, fitsAt_exponentFor (Nat.pos_of_ne_zero hnum) hden,
        scaled_lt_iff num hden _, hlow, hhigh, rfl, not_lt.mp hmost⟩

/-- What is rounded is a magnitude in its one form. -/
theorem canonical_of_ofFraction? (hden : 0 < den) (h : ofFraction? num den = some x) :
    x.Canonical := by
  rcases exists_of_ofFraction? hden h with
    ⟨-, rfl⟩ | ⟨whole, mantissa, e, hfits, hwhole, hlow, hhigh, hx, hmost⟩
  · exact canonical_zero
  · have hsmall : whole < 2 ^ 53 := (hwhole _).mpr (by exact_mod_cast hfits.below)
    have hfull : e = -1074 ∨ 2 ^ 52 ≤ whole := by
      refine hfits.above.imp_right fun hle => not_lt.mp fun hlt => ?_
      exact absurd ((hwhole _).mp hlt) (not_lt.mpr (by exact_mod_cast hle))
    rcases Nat.lt_or_ge mantissa (2 ^ 53) with hlt | hge
    · rw [carried_of_lt hlt] at hx
      subst hx
      exact ⟨hlt, hfull.imp_right hlow.trans', hfits.least, hmost⟩
    · obtain rfl : mantissa = 2 ^ 53 := by omega
      rw [carried_full] at hx
      subst hx
      exact ⟨by norm_num, .inr le_rfl, by have := hfits.least; dsimp only; omega, hmost⟩

/-- What is at least one is not rounded to zero. -/
theorem mantissa_ne_zero_of_ofFraction? (hden : 0 < den) (hle : den ≤ num)
    (h : ofFraction? num den = some x) : x.mantissa ≠ 0 := by
  have hone : (1 : ℚ) ≤ num / den := by
    rw [one_le_div (by exact_mod_cast hden)]
    exact_mod_cast hle
  rcases exists_of_ofFraction? hden h with
    ⟨rfl, -⟩ | ⟨whole, mantissa, e, hfits, hwhole, hlow, -, rfl, -⟩
  · omega
  · have hpos : 0 < mantissa := by
      refine Nat.pos_of_ne_zero fun hzero => ?_
      have hbelow := (hwhole 1).mp (by omega)
      -- A fraction below the last bit is at the least exponent, so it is below one.
      have hleast : e = -1074 := by
        refine hfits.above.resolve_right fun habove => ?_
        have hpower : (0 : ℚ) < 2 ^ e := by positivity
        push_cast at hbelow
        linarith
      have hpower : (2 : ℚ) ^ e ≤ 1 := zpow_le_one_of_nonpos₀ one_le_two (by omega)
      push_cast at hbelow
      linarith
    unfold carried
    split
    · exact Nat.pow_eq.symm ▸ by norm_num
    · exact hpos.ne'

end Rounding

/-! ## Scaling by a power of ten -/

theorem canonical_mul? {x y z : Binary64} (h : x.mul? y = some z) : z.Canonical :=
  canonical_of_ofFraction? (Nat.mul_pos x.denominator_pos y.denominator_pos) h

theorem canonical_div? {x y z : Binary64} (hne : y.mantissa ≠ 0) (h : x.div? y = some z) :
    z.Canonical := by
  have hnumerator : 0 < y.numerator := Nat.mul_pos (Nat.pos_of_ne_zero hne) (Nat.two_pow_pos _)
  exact canonical_of_ofFraction? (Nat.mul_pos x.denominator_pos hnumerator) h

theorem mantissa_tenTo?_ne_zero {n : Nat} {x : Binary64} (h : tenTo? n = some x) :
    x.mantissa ≠ 0 :=
  mantissa_ne_zero_of_ofFraction? one_pos (Nat.pow_eq ▸ Nat.one_le_pow _ _ (by decide)) h

theorem canonical_scaleByTen? {x y : Binary64} {power : ℤ} (h : x.scaleByTen? power = some y) :
    y.Canonical := by
  unfold scaleByTen? at h
  split at h
  · split at h
    · obtain ⟨ten, -, hy⟩ := Option.bind_eq_some_iff.mp h
      exact canonical_mul? hy
    · split at h
      · cases h
        exact canonical_zero
      · cases h
  split at h
  · obtain ⟨ten, hten, hy⟩ := Option.bind_eq_some_iff.mp h
    exact canonical_div? (mantissa_tenTo?_ne_zero hten) hy
  · obtain ⟨big, -, h⟩ := Option.bind_eq_some_iff.mp h
    obtain ⟨z, -, h⟩ := Option.bind_eq_some_iff.mp h
    split at h
    · obtain ⟨ten, hten, hy⟩ := Option.bind_eq_some_iff.mp h
      exact canonical_div? (mantissa_tenTo?_ne_zero hten) hy
    · cases h
      exact canonical_zero

end DocumentGateway.Number.Binary64

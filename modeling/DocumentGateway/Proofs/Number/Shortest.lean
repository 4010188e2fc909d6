import DocumentGateway.Number.Shortest
import DocumentGateway.Proofs.Number.Rounding

/-!
# The shortest digits are rounded back

The digits that are found for a magnitude lie in the interval of the numbers that are rounded to it.
A place is given up only if neither neighbour on its grid lies there, and at the seventeenth digit
the grid is so fine that the nearer neighbour does: its points are less than an interval apart.
-/

namespace DocumentGateway.Number

/-- The decimal as a rational number. -/
def Decimal.value (d : Decimal) : ℚ := d.digits * 10 ^ d.exponent

namespace Shortest

open Binary64 (zpow_eq_div RoundsTo)

variable {x : Binary64}

theorem reaches_iff (x : Binary64) (power : ℤ) :
    reaches x power = true ↔ (10 : ℚ) ^ power ≤ x.value := by
  have hden : (0 : ℚ) < x.denominator := by exact_mod_cast x.denominator_pos
  rw [x.value_eq_div, zpow_eq_div 10 (by norm_num), div_le_div_iff₀ (by positivity) hden, reaches,
    decide_eq_true_eq]
  simp only [Nat.pow_eq]
  rw [mul_comm x.denominator]
  exact_mod_cast Iff.rfl

/-! ## Reading back -/

/-- A decimal is compared with a multiple of a quarter of the last bit through whole numbers. -/
theorem quarters_le_iff (x : Binary64) (d : Decimal) (a : Nat) :
    (a * 2 ^ x.exponent.toNat * 10 ^ (-d.exponent).toNat ≤
        4 * (d.digits * 10 ^ d.exponent.toNat) * 2 ^ (-x.exponent).toNat ↔
      (a / 4 : ℚ) * 2 ^ x.exponent ≤ d.value) ∧
    (4 * (d.digits * 10 ^ d.exponent.toNat) * 2 ^ (-x.exponent).toNat ≤
        a * 2 ^ x.exponent.toNat * 10 ^ (-d.exponent).toNat ↔
      d.value ≤ (a / 4 : ℚ) * 2 ^ x.exponent) := by
  have hleft : (a / 4 : ℚ) * 2 ^ x.exponent =
      (a * 2 ^ x.exponent.toNat) / (4 * 2 ^ (-x.exponent).toNat) := by
    rw [zpow_eq_div 2 two_ne_zero]
    ring
  have hright : d.value = d.digits * 10 ^ d.exponent.toNat / 10 ^ (-d.exponent).toNat := by
    rw [Decimal.value, zpow_eq_div 10 (by norm_num)]
    ring
  rw [hleft, hright, div_le_div_iff₀ (by positivity) (by positivity),
    div_le_div_iff₀ (by positivity) (by positivity)]
  constructor
  · rw [show (d.digits * 10 ^ d.exponent.toNat * (4 * 2 ^ (-x.exponent).toNat) : ℚ) =
      4 * (d.digits * 10 ^ d.exponent.toNat) * 2 ^ (-x.exponent).toNat by ring]
    exact_mod_cast Iff.rfl
  · rw [show (d.digits * 10 ^ d.exponent.toNat * (4 * 2 ^ (-x.exponent).toNat) : ℚ) =
      4 * (d.digits * 10 ^ d.exponent.toNat) * 2 ^ (-x.exponent).toNat by ring]
    exact_mod_cast Iff.rfl

/-- The digits are tested against the interval of the magnitude. -/
theorem readsBack_iff (hne : x.mantissa ≠ 0) (d : Decimal) :
    readsBack x d = true ↔ RoundsTo d.value x := by
  obtain ⟨below, hbelow, hgap, hinterval⟩ : ∃ below : Nat, below ≤ 4 * x.mantissa ∧
      x.gapBelow = below / 4 ∧ interval x = ((4 * x.mantissa - below) * 2 ^ x.exponent.toNat,
        (4 * x.mantissa + 2) * 2 ^ x.exponent.toNat) := by
    refine ⟨if x.mantissa = 2 ^ 52 ∧ -1074 < x.exponent then 1 else 2, ?_, ?_, ?_⟩
    · split <;> omega
    · unfold Binary64.gapBelow
      split <;> norm_num
    · simp only [interval, Nat.pow_eq, Bool.and_eq_true, decide_eq_true_eq]
  obtain ⟨hlow, hlow'⟩ := quarters_le_iff x d (4 * x.mantissa - below)
  obtain ⟨hhigh', hhigh⟩ := quarters_le_iff x d (4 * x.mantissa + 2)
  have hlowest : (((4 * x.mantissa - below : ℕ) : ℚ) / 4) = x.mantissa - x.gapBelow := by
    rw [hgap, Nat.cast_sub hbelow]
    push_cast
    ring
  have hhighest : (((4 * x.mantissa + 2 : ℕ) : ℚ) / 4) = x.mantissa + 1 / 2 := by
    push_cast
    ring
  rw [hlowest] at hlow hlow'
  rw [hhighest] at hhigh hhigh'
  simp only [readsBack, hinterval, Binary64.denominator, Nat.pow_eq]
  split
  · rename_i heven
    rw [Bool.and_eq_true, decide_eq_true_eq, decide_eq_true_eq, hlow, hhigh]
    refine ⟨fun h => ⟨h.1, h.2, fun hodd => ?_⟩, fun h => ⟨h.low, h.high⟩⟩
    omega
  · rename_i hodd
    rw [Bool.and_eq_true, decide_eq_true_eq, decide_eq_true_eq, ← not_le, ← not_le, hlow', hhigh',
      not_le, not_le]
    exact ⟨fun h => ⟨h.1.le, h.2.le, fun _ => h⟩, fun h => h.inside (by omega)⟩

/-- What is nearer than the lower middle is rounded to the magnitude. -/
theorem roundsTo_of_near {q : ℚ} (h : |q - x.value| < x.gapBelow * 2 ^ x.exponent) :
    RoundsTo q x := by
  have hpower : (0 : ℚ) < 2 ^ x.exponent := by positivity
  obtain ⟨hlow, hhigh⟩ := abs_lt.mp h
  have hgap : x.gapBelow * 2 ^ x.exponent ≤ 1 / 2 * 2 ^ x.exponent := by
    gcongr
    exact x.gapBelow_bounds.2
  have hlow' : (x.mantissa - x.gapBelow) * 2 ^ x.exponent < q := by
    rw [sub_mul]
    unfold Binary64.value at hlow
    linarith
  have hhigh' : q < (x.mantissa + 1 / 2) * 2 ^ x.exponent := by
    rw [add_mul]
    unfold Binary64.value at hhigh
    linarith
  exact ⟨hlow'.le, hhigh'.le, fun _ => ⟨hlow', hhigh'⟩⟩

/-! ## The search for digits -/

/-- Only digits that read back are found. -/
theorem readsBack_of_onGrid? {place : ℤ} {d : Decimal} (h : onGrid? x place = some d) :
    readsBack x d = true := by
  unfold onGrid? at h
  dsimp only at h
  split at h
  · rename_i hfloor hceil
    cases h
    split <;> assumption
  · rename_i hfloor _
    cases h
    exact hfloor
  · rename_i _ hceil
    cases h
    exact hceil
  · cases h

/-- On a grid whose points are so near to each other, one reads back. -/
theorem isSome_onGrid? (hne : x.mantissa ≠ 0) {place : ℤ}
    (hfine : (10 : ℚ) ^ place < 2 * x.gapBelow * 2 ^ x.exponent) :
    (onGrid? x place).isSome = true := by
  have hstep : (0 : ℚ) < 10 ^ place := by positivity
  have hdenominator : 0 < x.denominator * 10 ^ place.toNat := Nat.mul_pos x.denominator_pos
    (by positivity)
  have hnum : x.value = (x.numerator * 10 ^ (-place).toNat : ℕ) /
      (x.denominator * 10 ^ place.toNat : ℕ) * 10 ^ place := by
    have hden : (x.denominator : ℚ) ≠ 0 := by exact_mod_cast x.denominator_pos.ne'
    rw [x.value_eq_div, zpow_eq_div 10 (by norm_num)]
    push_cast
    field_simp
  generalize hnumDef : x.numerator * 10 ^ (-place).toNat = num at hnum
  generalize hdenDef : x.denominator * 10 ^ place.toNat = den at hnum hdenominator
  have hden : (0 : ℚ) < den := by exact_mod_cast hdenominator
  have hfloor : ((num / den : ℕ) : ℚ) ≤ num / den := by
    rw [le_div_iff₀ hden]
    exact_mod_cast Nat.div_mul_le_self num den
  have hceil : (num / den : ℚ) < (num / den : ℕ) + 1 := by
    rw [div_lt_iff₀ hden]
    exact_mod_cast Nat.lt_mul_of_div_lt (Nat.lt_succ_self _) hdenominator
  have hnear : readsBack x ⟨num / den, place⟩ = true ∨
      readsBack x ⟨num / den + 1, place⟩ = true := by
    rw [readsBack_iff hne, readsBack_iff hne]
    by_cases hhalf : (num / den : ℚ) - (num / den : ℕ) ≤ 1 / 2
    · refine .inl (roundsTo_of_near ?_)
      rw [hnum, Decimal.value, ← sub_mul, abs_mul, abs_of_pos hstep, abs_sub_comm,
        abs_of_nonneg (by linarith)]
      nlinarith
    · refine .inr (roundsTo_of_near ?_)
      rw [hnum, Decimal.value, ← sub_mul, abs_mul, abs_of_pos hstep,
        abs_of_nonneg (by push_cast; linarith)]
      push_cast
      nlinarith
  simp only [onGrid?, Nat.pow_eq, hnumDef, hdenDef]
  rcases hnear with h | h
  · cases readsBack x ⟨num / den + 1, place⟩ <;> simp [h]
  · cases readsBack x ⟨num / den, place⟩ <;> simp [h]

/-- The search ends with digits that read back, if some place before its end has them. -/
theorem readsBack_search {budget : Nat} {place : ℤ} {k : Nat} (hk : k < budget)
    (h : (onGrid? x (place - k)).isSome = true) : readsBack x (search x budget place) = true := by
  induction budget generalizing place k with
  | zero => omega
  | succ budget ih =>
    rw [search]
    cases hgrid : onGrid? x place with
    | some d => exact readsBack_of_onGrid? hgrid
    | none =>
      cases k with
      | zero => simp [hgrid] at h
      | succ k =>
        refine ih (k := k) (by omega) ?_
        rwa [show place - 1 - k = place - (k + 1 : ℕ) by push_cast; ring]

theorem value_stripZeros (budget : Nat) (d : Decimal) : (stripZeros budget d).value = d.value := by
  induction budget generalizing d with
  | zero => rfl
  | succ budget ih =>
    rw [stripZeros]
    split
    · rename_i hzero
      simp only [Bool.and_eq_true, decide_eq_true_eq] at hzero
      have hdigits : ((d.digits / 10 : ℕ) : ℚ) * 10 = d.digits := by
        exact_mod_cast Nat.div_mul_cancel (Nat.dvd_of_mod_eq_zero hzero.2)
      rw [ih, Decimal.value, Decimal.value, zpow_add_one₀ (by norm_num), ← hdigits]
      ring
    · rfl

/-! ## The leading digit -/

theorem two_pow_le : ∀ n < 1100, 2 ^ n ≤ 10 ^ ((n * 30103 + 99999) / 100000) := by decide +kernel

theorem ten_pow_le : ∀ n < 1100, 10 ^ (n * 30103 / 100000) ≤ 10 * 2 ^ n := by decide +kernel

/-- The power of ten that is estimated from a power of two is at most that power. -/
theorem ten_zpow_le {b : ℤ} (hlow : -1100 < b) (hhigh : b < 1100) :
    (10 : ℚ) ^ (b * 30103 / 100000 - 1) ≤ 2 ^ b := by
  obtain ⟨n, rfl | rfl⟩ := b.eq_nat_or_neg
  · have hn : (10 : ℚ) ^ (n * 30103 / 100000) ≤ 10 * 2 ^ n := by
      exact_mod_cast ten_pow_le n (by omega)
    rw [zpow_sub_one₀ (by norm_num), zpow_natCast]
    have hpower : (n : ℤ) * 30103 / 100000 = (n * 30103 / 100000 : ℕ) := by push_cast; rfl
    rw [hpower, zpow_natCast]
    linarith
  · have hn : (2 : ℚ) ^ n ≤ 10 ^ ((n * 30103 + 99999) / 100000) := by
      exact_mod_cast two_pow_le n (by omega)
    have hpower : -(n : ℤ) * 30103 / 100000 - 1 ≤ -((n * 30103 + 99999) / 100000 : ℕ) := by omega
    calc (10 : ℚ) ^ (-(n : ℤ) * 30103 / 100000 - 1)
        ≤ 10 ^ (-((n * 30103 + 99999) / 100000 : ℕ) : ℤ) :=
          zpow_le_zpow_right₀ (by norm_num) hpower
      _ = (10 ^ ((n * 30103 + 99999) / 100000))⁻¹ := by rw [zpow_neg, zpow_natCast]
      _ ≤ (2 ^ n)⁻¹ := by gcongr
      _ = 2 ^ (-(n : ℤ)) := by rw [zpow_neg, zpow_natCast]

/-- The leading digit is not placed too high. -/
theorem leadingPower_le (hx : x.Canonical) (hne : x.mantissa ≠ 0) :
    (10 : ℚ) ^ leadingPower x ≤ x.value := by
  have hnum : 0 < x.numerator := Nat.mul_pos (Nat.pos_of_ne_zero hne) (Nat.two_pow_pos _)
  have hbits := (Binary64.log2_bounds hnum x.denominator_pos).1
  have hdenominator : x.denominator.log2 = (-x.exponent).toNat := Nat.log2_two_pow
  have hnumerator : x.numerator.log2 < 53 + x.exponent.toNat := by
    rw [Nat.log2_lt hnum.ne', pow_add]
    exact Nat.mul_lt_mul_of_pos_right hx.small (Nat.two_pow_pos _)
  unfold leadingPower
  dsimp only
  split
  · rename_i h
    exact (reaches_iff x _).mp h
  split
  · rename_i h
    exact (reaches_iff x _).mp h
  · rw [x.value_eq_div]
    refine (ten_zpow_le ?_ ?_).trans hbits
    · have := hx.least
      omega
    · have := hx.most
      omega

/-- The seventeenth digit is finer than the magnitude. -/
theorem fine_of_leading (hx : x.Canonical) {power : ℤ} (h : (10 : ℚ) ^ power ≤ x.value) :
    (10 : ℚ) ^ (power - 16) < 2 * x.gapBelow * 2 ^ x.exponent := by
  have hpower : (0 : ℚ) < 2 ^ x.exponent := by positivity
  have hvalue : (10 : ℚ) ^ (power - 16) ≤ x.mantissa / 10 ^ 16 * 2 ^ x.exponent := by
    rw [zpow_sub₀ (by norm_num), div_mul_eq_mul_div]
    have hten : (10 : ℚ) ^ (16 : ℤ) = 10 ^ 16 := by norm_num
    rw [hten]
    gcongr
    exact h
  refine hvalue.trans_lt ?_
  gcongr
  unfold Binary64.gapBelow
  split
  · rename_i hboundary
    rw [hboundary.1]
    norm_num
  · have hsmall : (x.mantissa : ℚ) < 2 ^ 53 := by exact_mod_cast hx.small
    rw [div_lt_iff₀ (by positivity)]
    exact hsmall.trans (by norm_num)

end Shortest

/-- The digits that are found are rounded back to the magnitude. -/
theorem Binary64.roundsTo_shortest {x : Binary64} (hx : x.Canonical) (hne : x.mantissa ≠ 0) :
    RoundsTo x.shortest.value x := by
  have hzero : x.isZero = false := by simpa [isZero] using hne
  have hgrid : (Shortest.onGrid? x (Shortest.leadingPower x - (16 : ℕ))).isSome = true :=
    Shortest.isSome_onGrid? hne (Shortest.fine_of_leading hx (Shortest.leadingPower_le hx hne))
  have hreads := Shortest.readsBack_search (by decide : 16 < 17) hgrid
  rw [shortest, hzero, if_neg Bool.false_ne_true, Shortest.value_stripZeros]
  exact (Shortest.readsBack_iff hne _).mp hreads

end DocumentGateway.Number

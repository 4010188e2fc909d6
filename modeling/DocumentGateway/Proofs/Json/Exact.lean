import DocumentGateway.Proofs.Json.Numeral
import DocumentGateway.Proofs.Json.ReadBack
import DocumentGateway.Proofs.Number.Shortest

/-!
# Numbers are read back exactly

A literal stands for a rational number, and the exact reading rounds it once. So read, every number
is read back from what is written of it: an integer by its digits, and a binary64 number because its
shortest digits are rounded back to it, in whichever of the four layouts they are written. The
reader of the gateway rounds the digits and then each scaling by a power of ten, so it reads back
integers but may end at a neighbour of another number.
-/

namespace DocumentGateway.Json

open DocumentGateway.Number (Binary64 Decimal exponentLimit)

namespace Literal

/-- All the digits of a literal as one number. -/
def digits (l : Literal) : Nat := Nat.ofDigitChars 10 (l.whole ++ l.fraction.getD []) 0

/-- The power of ten that scales the digits. -/
def power (l : Literal) : Int := l.exponent.getD 0 - (l.fraction.getD []).length

/-- The rational number that a literal stands for, without its sign. -/
def value (l : Literal) : ℚ := l.digits * 10 ^ l.power

/-- The binary64 number nearest to a literal. -/
def real? (l : Literal) : Option Number :=
  (Binary64.ofFraction? (l.digits * 10 ^ l.power.toNat) (10 ^ (-l.power).toNat)).map
    (.real l.negative)

/-- The number that a literal stands for: an integer if it is written as one and fits 64 bits, else
the nearest binary64 number, if it is not too large. -/
def exactly? (l : Literal) : Option Number :=
  if l.fraction.isSome || l.exponent.isSome then l.real?
  else if !l.negative then if l.digits < 2 ^ 64 then some (.whole l.digits) else l.real?
  else if 0 < l.digits && l.digits ≤ 2 ^ 63 then some (.whole (-l.digits)) else l.real?

end Literal

/-- The number that a word stands for. -/
def Number.exactly? (word : List Char) : Option Number :=
  (Literal.ofWord? word).bind Literal.exactly?

/-- The value that the text in some bytes stands for, as it is read by whoever rounds each number
once. -/
def readExactly? (bytes : Bytes) : Option Value :=
  (Text.Utf8.decode? bytes).bind (readBy Number.exactly?)

/-- The numbers that words stand for: integers of 64 bits and magnitudes in their one form. -/
def Number.Legal : Number → Prop
  | .whole value => -2 ^ 63 ≤ value ∧ value < 2 ^ 64
  | .real _ magnitude => magnitude.Canonical

/-! ## Digits -/

theorem digits_toDigits (n : Nat) : Digits (Nat.toDigits 10 n) :=
  ⟨Nat.toDigits_ne_nil, fun _ => Nat.isDigit_of_mem_toDigits (by decide) (by decide)⟩

theorem digits_zero : Digits ['0'] := ⟨by decide, List.forall_mem_singleton.mpr (by decide)⟩

/-- The digits of a number do not begin with zero, unless it is zero. -/
theorem head?_toDigits {n : Nat} (h : n ≠ 0) : (Nat.toDigits 10 n).head? ≠ some '0' := by
  induction n using Nat.strongRecOn with
  | _ n ih =>
    rw [Nat.toDigits_eq_if (by decide)]
    split
    · rename_i hdigit
      have hnot : ∀ m < 10, m ≠ 0 → [Nat.digitChar m].head? ≠ some '0' := by decide
      exact hnot n hdigit h
    · rename_i hlong
      rw [List.head?_append_of_ne_nil _ Nat.toDigits_ne_nil]
      exact ih (n / 10) (by omega) (by omega)

/-- The number of its digits tells a number up to a power of ten. -/
theorem toDigits_bounds {n : Nat} (h : n ≠ 0) :
    10 ^ ((Nat.toDigits 10 n).length - 1) ≤ n ∧ n < 10 ^ (Nat.toDigits 10 n).length := by
  have hpos : 0 < (Nat.toDigits 10 n).length := Nat.length_toDigits_pos
  refine ⟨?_, (Nat.length_toDigits_le_iff (by decide) hpos).mp le_rfl⟩
  rcases Nat.eq_or_lt_of_le hpos with hone | hmore
  · rw [← hone]
    exact Nat.pos_of_ne_zero h
  · by_contra hlt
    have hle := (Nat.length_toDigits_le_iff (by decide) (by omega)).mpr (not_le.mp hlt)
    omega

theorem isDigit_of_mem_zeros {k : Nat} {c : Char} (h : c ∈ List.replicate k '0') :
    c.isDigit = true := by
  rw [List.eq_of_mem_replicate h]
  decide

/-! ## Layouts -/

/-- Digits with more zeros behind them are scaled by a smaller power of ten. -/
theorem Literal.value_eq {l : Literal} {d : Decimal} (k : Nat)
    (hdigits : l.digits = d.digits * 10 ^ k) (hpower : l.power = d.exponent - k) :
    l.value = d.value := by
  rw [value, hdigits, hpower, Decimal.value, zpow_sub₀ (by norm_num), zpow_natCast]
  push_cast
  field_simp

/-- After its sign, a numeral with a point or an exponent is written as some characters, and has the
value of a decimal. -/
def Spells (negative : Bool) (d : Decimal) (s : List Char) : Prop :=
  ∃ n : Numeral, n.WellFormed ∧ n.write = Numeral.writeSign negative ++ s ∧
    n.negative = negative ∧ (n.fraction.isSome || n.exponent.isSome) = true ∧
    n.literal.value = d.value

variable (negative : Bool) {d : Decimal}

/-- Digits around a point spell what they are worth. -/
theorem spells_positional {whole fraction : List Char} (hwhole : Digits whole)
    (hleading : whole.length = 1 ∨ whole.head? ≠ some '0') (hfraction : Digits fraction)
    (hvalue : Literal.value ⟨negative, whole, some fraction, none⟩ = d.value) :
    Spells negative d (whole ++ '.' :: fraction) := by
  refine ⟨⟨negative, whole, some fraction, none⟩, ⟨hwhole, hleading, fun digits hdigits => ?_,
    nofun⟩, ?_, rfl, rfl, hvalue⟩
  · obtain rfl := Option.some.inj hdigits
    exact hfraction
  · simp [Numeral.write, Numeral.writeFraction, Numeral.writeExponent]

theorem spells_zero (h : d.digits = 0) : Spells negative d ['0', '.', '0'] := by
  refine spells_positional negative digits_zero (.inl rfl) digits_zero ?_
  have hdigits : Literal.digits ⟨negative, ['0'], some ['0'], none⟩ = 0 := by cbv
  rw [Literal.value, Decimal.value, h, hdigits, Nat.cast_zero, zero_mul, zero_mul]

/-- A decimal that is a whole number is written with all its zeros. -/
theorem spells_whole (hne : d.digits ≠ 0) (h : 0 ≤ d.exponent) :
    Spells negative d (Nat.toDigits 10 d.digits ++ List.replicate d.exponent.toNat '0' ++
      ['.', '0']) := by
  have hdigits := digits_toDigits d.digits
  have hwhole : Digits (Nat.toDigits 10 d.digits ++ List.replicate d.exponent.toNat '0') :=
    ⟨by simp, fun c hc => (List.mem_append.mp hc).elim (hdigits.digit c) isDigit_of_mem_zeros⟩
  refine spells_positional negative hwhole (.inr ?_) digits_zero
    (Literal.value_eq (d.exponent.toNat + 1) ?_ ?_)
  · rw [List.head?_append_of_ne_nil _ hdigits.nonempty]
    exact head?_toDigits hne
  · simp only [Literal.digits, Option.getD_some]
    rw [Nat.ofDigitChars_append, Nat.ofDigitChars_append, Nat.ofDigitChars_ten_toDigits,
      Nat.ofDigitChars_replicate_zero, pow_succ]
    simp [Nat.ofDigitChars_cons]
    ring
  · simp [Literal.power]
    omega

/-- A decimal whose point stands among its digits is split there. -/
theorem spells_split (hne : d.digits ≠ 0) {point : Nat} (hpoint : 0 < point)
    (hlength : ((Nat.toDigits 10 d.digits).length : Int) + d.exponent = point)
    (hexponent : d.exponent < 0) :
    Spells negative d ((Nat.toDigits 10 d.digits).take point ++
      '.' :: (Nat.toDigits 10 d.digits).drop point) := by
  have hdigits := digits_toDigits d.digits
  have hleading := head?_toDigits hne
  have hvalue := Nat.ofDigitChars_ten_toDigits (n := d.digits)
  generalize Nat.toDigits 10 d.digits = s at *
  refine spells_positional negative ⟨?_, fun c hc => hdigits.digit c (List.mem_of_mem_take hc)⟩
    (.inr ?_) ⟨?_, fun c hc => hdigits.digit c (List.mem_of_mem_drop hc)⟩
    (Literal.value_eq 0 ?_ ?_)
  · simp [hdigits.nonempty, hpoint.ne']
  · rwa [List.head?_take, if_neg hpoint.ne']
  · simp only [ne_eq, List.drop_eq_nil_iff]
    omega
  · simp only [Literal.digits, Option.getD_some, List.take_append_drop]
    rw [hvalue, pow_zero, Nat.mul_one]
  · simp [Literal.power]
    omega

/-- A small decimal is written with zeros behind the point. -/
theorem spells_small {zeros : Nat}
    (hlength : ((Nat.toDigits 10 d.digits).length : Int) + d.exponent = -zeros) :
    Spells negative d ('0' :: '.' :: (List.replicate zeros '0' ++ Nat.toDigits 10 d.digits)) := by
  have hdigits := digits_toDigits d.digits
  have hfraction : Digits (List.replicate zeros '0' ++ Nat.toDigits 10 d.digits) :=
    ⟨by simp, fun c hc => (List.mem_append.mp hc).elim isDigit_of_mem_zeros (hdigits.digit c)⟩
  refine spells_positional negative digits_zero (.inl rfl) hfraction (Literal.value_eq 0 ?_ ?_)
  · simp only [Literal.digits, Option.getD_some]
    rw [Nat.ofDigitChars_append, Nat.ofDigitChars_append, Nat.ofDigitChars_replicate_zero]
    simp [Nat.ofDigitChars_cons]
  · simp [Literal.power]
    omega

/-- Any other decimal is written with one digit before the point and an exponent. -/
theorem spells_scientific (hne : d.digits ≠ 0) {c : Char} {rest : List Char}
    {fraction : Option (List Char)} (hsplit : Nat.toDigits 10 d.digits = c :: rest)
    (hfraction : fraction = if rest = [] then none else some rest) {power : Int}
    (hpower : (rest.length : Int) + d.exponent = power) (hlimit : power.natAbs ≤ exponentLimit) :
    Spells negative d (c :: (Numeral.writeFraction fraction ++
      'e' :: (if power < 0 then '-' else '+') :: Nat.toDigits 10 power.natAbs)) := by
  have hdigits := digits_toDigits d.digits
  have hleading := head?_toDigits hne
  rw [hsplit] at hdigits hleading
  obtain ⟨hc, hrest⟩ := List.forall_mem_cons.mp hdigits.digit
  have hgetD : fraction.getD [] = rest := by
    rw [hfraction]
    split
    · rename_i hnil
      rw [hnil]
      rfl
    · rfl
  have hvalue :
      Numeral.exponentValue (decide (power < 0), Nat.toDigits 10 power.natAbs) = power := by
    simp only [Numeral.exponentValue, Nat.ofDigitChars_ten_toDigits, decide_eq_true_eq]
    split <;> omega
  refine ⟨⟨negative, [c], fraction, some (decide (power < 0), Nat.toDigits 10 power.natAbs)⟩,
    ⟨⟨List.cons_ne_nil c [], by simpa using hc⟩, .inr hleading, ?_, ?_⟩, ?_, rfl, ?_,
    Literal.value_eq 0 ?_ ?_⟩
  · intro digits hmem
    rw [hfraction] at hmem
    split at hmem
    · cases hmem
    · rename_i hnonempty
      obtain rfl := Option.some.inj hmem
      exact ⟨hnonempty, hrest⟩
  · intro e he
    obtain rfl := Option.some.inj he
    exact ⟨digits_toDigits _, by rwa [Nat.ofDigitChars_ten_toDigits]⟩
  · simp [Numeral.write, Numeral.writeExponent]
  · exact Bool.or_true _
  · simp only [Literal.digits, Numeral.literal, hgetD, List.singleton_append]
    rw [← hsplit, Nat.ofDigitChars_ten_toDigits, pow_zero, Nat.mul_one]
  · simp only [Literal.power, Numeral.literal, Option.map_some, Option.getD_some, hvalue, hgetD]
    omega

/-- Every decimal is written as a numeral with its value. -/
theorem spells_writeDecimal
    (hlimit : ((Nat.toDigits 10 d.digits).length + d.exponent - 1).natAbs ≤ exponentLimit) :
    Spells negative d (writeDecimal d) := by
  unfold writeDecimal
  dsimp only
  generalize hpoint : ((Nat.toDigits 10 d.digits).length : Int) + d.exponent = point at hlimit ⊢
  split
  · rename_i hzero
    exact spells_zero negative hzero
  rename_i hne
  split
  · rename_i hinside
    simp only [Bool.and_eq_true, decide_eq_true_eq] at hinside
    split
    · rename_i hwhole
      exact spells_whole negative hne hwhole
    · rename_i hwhole
      exact spells_split negative hne (by omega) (by omega) (by omega)
  split
  · rename_i hsmall
    simp only [Bool.and_eq_true, decide_eq_true_eq] at hsmall
    exact spells_small negative (by omega)
  · obtain ⟨c, rest, hsplit⟩ := List.exists_cons_of_ne_nil (digits_toDigits d.digits).nonempty
    rw [hsplit, List.length_cons] at hpoint
    have hpower : (rest.length : Int) + d.exponent = point - 1 := by
      push_cast at hpoint
      omega
    rw [hsplit]
    cases rest with
    | nil => exact spells_scientific negative hne hsplit rfl hpower hlimit
    | cons c' rest => exact spells_scientific negative hne hsplit rfl hpower hlimit

/-! ## Reading back -/

variable {negative}

/-- The digits of a decimal that is rounded to a magnitude begin at no power past the limit. -/
theorem natAbs_power_le {x : Binary64} (hx : x.Canonical) (hne : x.mantissa ≠ 0)
    (h : Binary64.RoundsTo d.value x) :
    ((Nat.toDigits 10 d.digits).length + d.exponent - 1).natAbs ≤ exponentLimit := by
  have hdigits : d.digits ≠ 0 := by
    intro hzero
    refine (h.pos hne).ne' ?_
    rw [Decimal.value, hzero, Nat.cast_zero, zero_mul]
  obtain ⟨hlow, hhigh⟩ := h.bounds hx hne
  obtain ⟨hleast, hmost⟩ := toDigits_bounds hdigits
  have hpos : 0 < (Nat.toDigits 10 d.digits).length := Nat.length_toDigits_pos
  generalize (Nat.toDigits 10 d.digits).length = length at *
  have hbelow : d.value < 10 ^ (length + d.exponent) := by
    rw [Decimal.value, zpow_add₀ (by norm_num), zpow_natCast]
    gcongr
    exact_mod_cast hmost
  have habove : (10 : ℚ) ^ (length + d.exponent - 1) ≤ d.value := by
    rw [show (length : ℤ) + d.exponent - 1 = (length - 1 : ℕ) + d.exponent by omega, Decimal.value,
      zpow_add₀ (by norm_num), zpow_natCast]
    gcongr
    exact_mod_cast hleast
  have hlower := (zpow_lt_zpow_iff_right₀ (by norm_num)).mp (hlow.trans_lt hbelow)
  have hupper := (zpow_lt_zpow_iff_right₀ (by norm_num)).mp (habove.trans_lt hhigh)
  have hlimit : 2000 ≤ exponentLimit := by decide
  omega

theorem Digits.isWordChar {s : List Char} (h : Digits s) :
    ∀ c ∈ s, Reader.isWordChar c = true := by
  intro c hc
  simp [Reader.isWordChar, Char.isAlphanum, h.digit c hc]

theorem Numeral.isWordChar_write {m : Numeral} (h : m.WellFormed) :
    ∀ c ∈ m.write, Reader.isWordChar c = true := by
  refine List.forall_mem_append.mpr ⟨?_, List.forall_mem_append.mpr ⟨h.whole.isWordChar,
    List.forall_mem_append.mpr ⟨?_, ?_⟩⟩⟩
  · cases m.negative with
    | false => exact List.forall_mem_nil _
    | true => exact List.forall_mem_singleton.mpr rfl
  · cases hfraction : m.fraction with
    | none => exact List.forall_mem_nil _
    | some digits =>
      exact List.forall_mem_cons.mpr ⟨rfl, (h.fraction digits hfraction).isWordChar⟩
  · cases hexponent : m.exponent with
    | none => exact List.forall_mem_nil _
    | some e =>
      have hsign : Reader.isWordChar (if e.1 then '-' else '+') = true := by
        split <;> rfl
      exact List.forall_mem_cons.mpr ⟨rfl, List.forall_mem_cons.mpr
        ⟨hsign, (h.exponent e hexponent).1.isWordChar⟩⟩

theorem Numeral.exists_write_eq_cons {m : Numeral} (h : m.WellFormed) :
    ∃ c rest, m.write = c :: rest ∧ (c = '-' ∨ c.isDigit = true) := by
  obtain ⟨c, rest, hwhole⟩ := List.exists_cons_of_ne_nil h.whole.nonempty
  have hc : c.isDigit = true := h.whole.digit c (hwhole ▸ List.mem_cons_self)
  unfold write writeSign
  split
  · exact ⟨_, _, rfl, .inl rfl⟩
  · rw [hwhole]
    exact ⟨_, _, rfl, .inr hc⟩

/-- A number is read back if it is written as a numeral that stands for it. -/
theorem respelled_of_numeral {number? : Literal → Option Number} {n : Number} {m : Numeral}
    (h : m.WellFormed) (hwrite : n.write = m.write) (hreads : number? m.literal = some n) :
    n.Respelled fun word => (Literal.ofWord? word).bind number? := by
  refine ⟨hwrite ▸ Numeral.isWordChar_write h, hwrite ▸ Numeral.exists_write_eq_cons h, ?_⟩
  rw [hwrite, Literal.ofWord?_write h, Option.bind_some, hreads]

/-- The literal of an integer. -/
def Literal.ofInt : Int → Literal
  | .ofNat n => ⟨false, Nat.toDigits 10 n, none, none⟩
  | .negSucc n => ⟨true, Nat.toDigits 10 (n + 1), none, none⟩

/-- Digits alone are a numeral, if there is no leading zero. -/
theorem wellFormed_of_digits {s : List Char} (h : Digits s)
    (hleading : s.length = 1 ∨ s.head? ≠ some '0') (negative : Bool) :
    Numeral.WellFormed ⟨negative, s, none, none⟩ := ⟨h, hleading, nofun, nofun⟩

theorem respelled_of_ofInt {number? : Literal → Option Number} {value : Int}
    (h : number? (.ofInt value) = some (.whole value)) :
    (Number.whole value).Respelled fun word => (Literal.ofWord? word).bind number? := by
  cases value with
  | ofNat n =>
    have hleading : (Nat.toDigits 10 n).length = 1 ∨ (Nat.toDigits 10 n).head? ≠ some '0' := by
      rcases Nat.eq_zero_or_pos n with rfl | hpos
      · exact .inl rfl
      · exact .inr (head?_toDigits hpos.ne')
    refine respelled_of_numeral (wellFormed_of_digits (digits_toDigits n) hleading false) ?_ h
    simp [Number.write, Numeral.write, Numeral.writeSign, Numeral.writeFraction,
      Numeral.writeExponent]
  | negSucc n =>
    have hleading := head?_toDigits n.succ_ne_zero
    refine respelled_of_numeral (wellFormed_of_digits (digits_toDigits _) (.inr hleading) true) ?_ h
    simp [Number.write, Numeral.write, Numeral.writeSign, Numeral.writeFraction,
      Numeral.writeExponent]

theorem Literal.digits_ofInt (value : Int) : (ofInt value).digits = value.natAbs := by
  cases value <;> simp [ofInt, digits, Nat.ofDigitChars_ten_toDigits]

theorem Literal.exactly?_ofInt {value : Int} (h : (Number.whole value).Legal) :
    exactly? (ofInt value) = some (.whole value) := by
  have hdigits := digits_ofInt value
  obtain ⟨hlow, hhigh⟩ := h
  cases value with
  | ofNat n =>
    have hfits : n < 2 ^ 64 := Int.ofNat_lt.mp hhigh
    change (ofInt (.ofNat n)).digits = n at hdigits
    simp only [exactly?, hdigits]
    simp only [ofInt, Option.isSome_none, Bool.or_self, Bool.false_eq_true, if_false,
      Bool.not_false, if_true, hfits]
    rfl
  | negSucc n =>
    have hfits : (decide (0 < n + 1) && decide (n + 1 ≤ 2 ^ 63)) = true := by
      rw [Bool.and_eq_true, decide_eq_true_eq, decide_eq_true_eq]
      omega
    change (ofInt (.negSucc n)).digits = n + 1 at hdigits
    simp only [exactly?, hdigits]
    simp only [ofInt, Option.isSome_none, Bool.or_self, Bool.false_eq_true, if_false,
      Bool.not_true, if_true, hfits]
    rfl

/-- Digits are all taken if their number fits. -/
theorem Literal.foldl_push {s : List Char} {value : Nat}
    (hfits : Nat.ofDigitChars 10 s value < 2 ^ 64) :
    s.foldl Significand.push ⟨value, 0⟩ = ⟨Nat.ofDigitChars 10 s value, 0⟩ := by
  induction s generalizing value with
  | nil => rfl
  | cons c rest ih =>
    rw [Nat.ofDigitChars_cons] at hfits ⊢
    generalize hnext : 10 * value + (c.toNat - '0'.toNat) = next at hfits ⊢
    have hle : next ≤ Nat.ofDigitChars 10 rest next := by
      rw [Nat.ofDigitChars_eq_ofDigitChars_zero]
      exact (Nat.le_mul_of_pos_left _ (by positivity)).trans (Nat.le_add_right _ _)
    have hpush : Significand.push ⟨value, 0⟩ c = ⟨next, 0⟩ := by
      have htaken : next < Nat.pow 2 64 := hle.trans_lt hfits
      have hdigit : 10 * value + (c.toNat - 0x30) = next := hnext
      simp only [Significand.push, hdigit, htaken, decide_true, Bool.and_self, if_true]
    rw [List.foldl_cons, hpush, ih hfits]

theorem Literal.scaled_ofInt {value : Int} (h : value.natAbs < 2 ^ 64) :
    (ofInt value).scaled = (value.natAbs, 0) := by
  have hdigits := digits_ofInt value
  have hwhole : (ofInt value).whole.foldl Significand.push ⟨0, 0⟩ = ⟨value.natAbs, 0⟩ := by
    have hnone : (ofInt value).fraction = none := by cases value <;> rfl
    rw [digits, hnone, Option.getD_none, List.append_nil] at hdigits
    rw [foldl_push (hdigits ▸ h), hdigits]
  cases value <;> simp only [scaled, hwhole] <;> rfl

/-- The gateway does not round an integer either. -/
theorem Literal.number?_ofInt {value : Int} (h : (Number.whole value).Legal) :
    number? (ofInt value) = some (.whole value) := by
  obtain ⟨hlow, hhigh⟩ := h
  rw [number?, scaled_ofInt (by omega)]
  cases value with
  | ofNat n => rfl
  | negSucc n =>
    have hfits : (decide (0 < n + 1) && decide (n + 1 ≤ Nat.pow 2 63)) = true := by
      rw [Bool.and_eq_true, decide_eq_true_eq, decide_eq_true_eq, Nat.pow_eq]
      omega
    change (if (decide (0 < n + 1) && decide (n + 1 ≤ Nat.pow 2 63)) = true then _ else _) = _
    rw [if_pos hfits]
    rfl

/-- A literal is rounded as one fraction. -/
theorem Literal.value_eq_div (l : Literal) :
    l.value = (l.digits * 10 ^ l.power.toNat : ℕ) / (10 ^ (-l.power).toNat : ℕ) := by
  rw [value, Binary64.zpow_eq_div 10 (by norm_num)]
  push_cast
  ring

theorem respelled_of_rounded {m : Numeral} {x : Binary64} (h : m.WellFormed)
    (hwrite : (Number.real negative x).write = m.write) (hsign : m.negative = negative)
    (hreal : (m.fraction.isSome || m.exponent.isSome) = true)
    (hround : Binary64.ofFraction? (m.literal.digits * 10 ^ m.literal.power.toNat)
      (10 ^ (-m.literal.power).toNat) = some x) :
    (Number.real negative x).Respelled Number.exactly? := by
  refine respelled_of_numeral h hwrite ?_
  have hparts : (m.literal.fraction.isSome || m.literal.exponent.isSome) = true := by
    simpa [Numeral.literal] using hreal
  have hsign' : m.literal.negative = negative := hsign
  rw [Literal.exactly?, if_pos hparts, Literal.real?, hround, hsign']
  rfl

theorem respelled_real {x : Binary64} (hx : x.Canonical) :
    (Number.real negative x).Respelled Number.exactly? := by
  by_cases hne : x.mantissa = 0
  · have hzero : x = .zero := by
      have hexponent := hx.full.resolve_right (by omega)
      cases x
      simp_all [Binary64.zero]
    have hshortest : x.shortest = ⟨0, 0⟩ := by
      rw [hzero]
      rfl
    obtain ⟨m, hm, hwrite, hsign, hreal, hvalue⟩ :=
      spells_zero negative (d := x.shortest) (by rw [hshortest])
    have hdigits : m.literal.digits = 0 := by
      have hpower : (10 : ℚ) ^ m.literal.power ≠ 0 := by positivity
      simpa [Literal.value, Decimal.value, hshortest, hpower] using hvalue
    refine respelled_of_rounded hm ?_ hsign hreal ?_
    · rw [hwrite, Number.write, hshortest]
      rfl
    · rw [hdigits, Nat.zero_mul, hzero]
      rfl
  · have hrounds := Binary64.roundsTo_shortest hx hne
    obtain ⟨m, hm, hwrite, hsign, hreal, hvalue⟩ :=
      spells_writeDecimal negative (natAbs_power_le hx hne hrounds)
    refine respelled_of_rounded hm hwrite.symm hsign hreal
      (Binary64.ofFraction?_of_roundsTo (by positivity) hx hne ?_)
    rwa [← Literal.value_eq_div, hvalue]

/-- Every legal number is read back from what is written of it. -/
theorem Number.Legal.respelled {n : Number} (h : n.Legal) : n.Respelled Number.exactly? := by
  cases n with
  | whole value => exact respelled_of_ofInt (Literal.exactly?_ofInt h)
  | real negative x => exact respelled_real h

/-! ## What the gateway reads -/

/-- The integers among the legal numbers. -/
def Number.Integral (n : Number) : Prop := n.Legal ∧ ∃ value, n = .whole value

/-- The gateway reads back itself what holds no numbers but integers. -/
theorem read?_write_of_integral {v : Value} (h : v.Legible Number.Integral Reader.maxDepth) :
    read? v.write = some v := by
  refine readBy_write (fun n hn => ?_) h
  obtain ⟨hlegal, value, rfl⟩ := hn
  exact respelled_of_ofInt (Literal.number?_ofInt hlegal)

/-- Elsewhere it rounds twice where the exact reading rounds once, and may end at a neighbour. -/
example : Number.ofWord? "3.3e30".toList ≠ Number.exactly? "3.3e30".toList := by decide +kernel

theorem Literal.value_push_lt {s : Literal.Significand} (h : s.value < 2 ^ 64) (c : Char) :
    (s.push c).value < 2 ^ 64 := by
  unfold Literal.Significand.push
  dsimp only
  split
  · rename_i hfits
    simp only [Bool.and_eq_true, decide_eq_true_eq] at hfits
    exact hfits.2
  · exact h

theorem Literal.value_foldl_push_lt (chars : List Char) {s : Literal.Significand}
    (h : s.value < 2 ^ 64) : (chars.foldl Literal.Significand.push s).value < 2 ^ 64 := by
  induction chars generalizing s with
  | nil => exact h
  | cons c rest ih => exact ih (value_push_lt h c)

theorem Literal.scaled_lt (l : Literal) : l.scaled.1 < 2 ^ 64 :=
  value_foldl_push_lt _ (value_foldl_push_lt _ (by decide))

/-- A number that is read by the gateway is legal, however it is rounded. -/
theorem Number.legal_of_ofWord? {word : List Char} {n : Number} (h : Number.ofWord? word = some n) :
    n.Legal := by
  obtain ⟨l, -, hl⟩ := Option.bind_eq_some_iff.mp h
  have hfits := l.scaled_lt
  have hreal : ∀ n : Number, ((Binary64.ofNat? l.scaled.1).bind fun x =>
      (x.scaleByTen? l.scaled.2).map (Number.real l.negative)) = some n → n.Legal := by
    intro n hn
    obtain ⟨x, hx, hn⟩ := Option.bind_eq_some_iff.mp hn
    obtain ⟨y, hy, rfl⟩ := Option.map_eq_some_iff.mp hn
    exact Binary64.canonical_scaleByTen? hy
  unfold Literal.number? at hl
  dsimp only at hl
  split at hl
  · split at hl
    · exact hreal n hl
    split at hl
    · cases hl
      exact ⟨by omega, by exact_mod_cast hfits⟩
    split at hl
    · rename_i hsmall
      simp only [Bool.and_eq_true, decide_eq_true_eq, Nat.pow_eq] at hsmall
      cases hl
      exact ⟨by omega, by omega⟩
    · exact hreal n hl
  · exact hreal n hl

/-- A document that a text can stand for. -/
abbrev Legible (d : Document) : Prop := (Value.object d).Legible Number.Legal Reader.maxDepth

/-- What has been read by the gateway is legible. -/
theorem legible_of_read {bytes : Bytes} {v : Value}
    (h : (Text.Utf8.decode? bytes).bind read? = some v) :
    v.Legible Number.Legal Reader.maxDepth := by
  obtain ⟨chars, -, hread⟩ := Option.bind_eq_some_iff.mp h
  exact legible_of_readBy (fun _ _ => Number.legal_of_ofWord?) hread

/-- What is legible is read back from its text. -/
theorem readExactly?_render {v : Value} (h : v.Legible Number.Legal Reader.maxDepth) :
    readExactly? (Text.Utf8.encode v.render) = some v :=
  readBy_bytes_render (fun _ => Number.Legal.respelled) h

end DocumentGateway.Json

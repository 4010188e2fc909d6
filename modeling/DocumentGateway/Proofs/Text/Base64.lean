import DocumentGateway.Text.Base64

/-!
# What is written in base64 is read back, and nothing else is read

Every character of the alphabet stands for its own value and the padding for none, so that a group
of four characters gives back the bytes that it was written for, and the padding tells how many of
the last group there are. The bits that a padded group does not use have to be zero, so that what is
read is the one written form of the bytes that it gives.
-/

namespace DocumentGateway.Text.Base64

/-- Every value below sixty-four has a character that stands for it. -/
theorem value?_digit : ∀ n < 64, value? (digit n) = some n := by
  decide

theorem value?_padding : value? '=' = none := by
  decide

/-- A byte is made of its six upper bits and the two below. -/
theorem upper_bits (a : UInt8) {x : Nat} (h : x < 16) :
    (a.toNat / 4 * 4 + (a.toNat % 4 * 16 + x) / 16).toUInt8 = a := by
  have hbits : a.toNat / 4 * 4 + (a.toNat % 4 * 16 + x) / 16 = a.toNat := by omega
  rw [hbits]
  exact UInt8.ofNat_toNat

/-- A byte is made of its four upper bits and the four below. -/
theorem middle_bits (a : Nat) (b : UInt8) {y : Nat} (h : y < 4) :
    ((a % 4 * 16 + b.toNat / 16) % 16 * 16 + (b.toNat % 16 * 4 + y) / 4).toUInt8 = b := by
  have hb := b.toNat_lt
  have hbits : (a % 4 * 16 + b.toNat / 16) % 16 * 16 + (b.toNat % 16 * 4 + y) / 4 = b.toNat := by
    omega
  rw [hbits]
  exact UInt8.ofNat_toNat

/-- A byte is made of its two upper bits and the six below. -/
theorem lower_bits (b : Nat) (c : UInt8) :
    ((b % 16 * 4 + c.toNat / 64) % 4 * 64 + c.toNat % 64).toUInt8 = c := by
  have hc := c.toNat_lt
  have hbits : (b % 16 * 4 + c.toNat / 64) % 4 * 64 + c.toNat % 64 = c.toNat := by omega
  rw [hbits]
  exact UInt8.ofNat_toNat

/-- The written form of some bytes is read as these bytes. -/
theorem decode?_encode (bytes : Bytes) : decode? (encode bytes) = some bytes := by
  induction bytes using encode.induct with
  | case1 => rfl
  | case2 a =>
    have ha := a.toNat_lt
    have hw := value?_digit (a.toNat / 4) (by omega)
    have hx := value?_digit (a.toNat % 4 * 16) (by omega)
    have hunused : a.toNat % 4 * 16 % 16 = 0 := by omega
    simp only [encode, decode?, hw, hx, value?_padding, hunused]
    exact congrArg (fun byte => some [byte]) (upper_bits a (by decide : 0 < 16))
  | case3 a b =>
    have ha := a.toNat_lt
    have hb := b.toNat_lt
    have hw := value?_digit (a.toNat / 4) (by omega)
    have hx := value?_digit (a.toNat % 4 * 16 + b.toNat / 16) (by omega)
    have hy := value?_digit (b.toNat % 16 * 4) (by omega)
    have hunused : b.toNat % 16 * 4 % 4 = 0 := by omega
    simp only [encode, decode?, hw, hx, hy, value?_padding, hunused]
    have hfirst := upper_bits a (show b.toNat / 16 < 16 by omega)
    have hsecond := middle_bits a.toNat b (by decide : 0 < 4)
    rw [Nat.add_zero] at hsecond
    change some [_, _] = some [a, b]
    rw [hfirst, hsecond]
  | case4 a b c rest ih =>
    have ha := a.toNat_lt
    have hb := b.toNat_lt
    have hc := c.toNat_lt
    have hw := value?_digit (a.toNat / 4) (by omega)
    have hx := value?_digit (a.toNat % 4 * 16 + b.toNat / 16) (by omega)
    have hy := value?_digit (b.toNat % 16 * 4 + c.toNat / 64) (by omega)
    have hz := value?_digit (c.toNat % 64) (by omega)
    simp only [encode, decode?, hw, hx, hy, hz, ih, Option.map_some]
    rw [upper_bits a (by omega), middle_bits a.toNat b (by omega), lower_bits b.toNat c]

/-- The written form consists of characters of the alphabet and of padding. -/
theorem mem_encode {bytes : Bytes} {c : Char} (h : c ∈ encode bytes) :
    c = '=' ∨ ∃ n < 64, c = digit n := by
  induction bytes using encode.induct with
  | case1 => cases h
  | case2 a =>
    have ha := a.toNat_lt
    simp only [encode, List.mem_cons, List.not_mem_nil, or_false] at h
    rcases h with h | h | h | h
    · exact .inr ⟨_, by omega, h⟩
    · exact .inr ⟨_, by omega, h⟩
    · exact .inl h
    · exact .inl h
  | case3 a b =>
    have ha := a.toNat_lt
    have hb := b.toNat_lt
    simp only [encode, List.mem_cons, List.not_mem_nil, or_false] at h
    rcases h with h | h | h | h
    · exact .inr ⟨_, by omega, h⟩
    · exact .inr ⟨_, by omega, h⟩
    · exact .inr ⟨_, by omega, h⟩
    · exact .inl h
  | case4 a b c rest ih =>
    have ha := a.toNat_lt
    have hb := b.toNat_lt
    have hc := c.toNat_lt
    simp only [encode, List.mem_cons] at h
    rcases h with h | h | h | h | h
    · exact .inr ⟨_, by omega, h⟩
    · exact .inr ⟨_, by omega, h⟩
    · exact .inr ⟨_, by omega, h⟩
    · exact .inr ⟨_, by omega, h⟩
    · exact ih h

/-- A character of the alphabet is the one that stands for its value. -/
theorem digit_of_value? {c : Char} {n : Nat} (h : value? c = some n) : n < 64 ∧ digit n = c := by
  have hcode : Char.ofNat c.toNat = c := Char.ofNat_toNat c
  unfold value? at h
  simp only [Bool.and_eq_true, decide_eq_true_eq, Char.le_def, UInt32.le_iff_toNat_le] at h
  split at h
  · rename_i hc
    obtain ⟨hlow, hhigh⟩ : 0x41 ≤ c.toNat ∧ c.toNat ≤ 0x5A := hc
    obtain rfl := Option.some.inj h
    refine ⟨by omega, ?_⟩
    rw [digit, if_pos (by omega), Nat.add_sub_cancel' hlow, hcode]
  · split at h
    · rename_i hc
      obtain ⟨hlow, hhigh⟩ : 0x61 ≤ c.toNat ∧ c.toNat ≤ 0x7A := hc
      obtain rfl := Option.some.inj h
      refine ⟨by omega, ?_⟩
      rw [digit, if_neg (by omega), if_pos (by omega), Nat.add_sub_cancel,
        Nat.add_sub_cancel' hlow, hcode]
    · split at h
      · rename_i hc
        obtain ⟨hlow, hhigh⟩ : 0x30 ≤ c.toNat ∧ c.toNat ≤ 0x39 := hc
        obtain rfl := Option.some.inj h
        refine ⟨by omega, ?_⟩
        rw [digit, if_neg (by omega), if_neg (by omega), if_pos (by omega), Nat.add_sub_cancel,
          Nat.add_sub_cancel' hlow, hcode]
      · split at h
        · rename_i hc
          obtain rfl := Option.some.inj h
          exact ⟨by decide, hc ▸ rfl⟩
        · split at h
          · rename_i hc
            obtain rfl := Option.some.inj h
            exact ⟨by decide, hc ▸ rfl⟩
          · cases h

section

variable {w x y z : Nat}

private theorem toNat_toUInt8 {n : Nat} (h : n < 256) : n.toUInt8.toNat = n :=
  UInt8.toNat_ofNat_of_lt' h

/-- A group of four digits is the written form of its three bytes. -/
theorem encode_full (hw : w < 64) (hx : x < 64) (hy : y < 64) (hz : z < 64) (rest : Bytes) :
    encode ((w * 4 + x / 16).toUInt8 :: (x % 16 * 16 + y / 4).toUInt8 :: (y % 4 * 64 + z).toUInt8
      :: rest) = digit w :: digit x :: digit y :: digit z :: encode rest := by
  rw [encode, toNat_toUInt8 (by omega), toNat_toUInt8 (by omega), toNat_toUInt8 (by omega)]
  congr <;> omega

/-- Three digits are the written form of two bytes if the last has no bits left. -/
theorem encode_two (hw : w < 64) (hx : x < 64) (hy : y < 64) (hunused : y % 4 = 0) :
    encode [(w * 4 + x / 16).toUInt8, (x % 16 * 16 + y / 4).toUInt8] =
      [digit w, digit x, digit y, '='] := by
  rw [encode, toNat_toUInt8 (by omega), toNat_toUInt8 (by omega)]
  congr <;> omega

/-- Two digits are the written form of one byte if the last has no bits left. -/
theorem encode_one (hw : w < 64) (hx : x < 64) (hunused : x % 16 = 0) :
    encode [(w * 4 + x / 16).toUInt8] = [digit w, digit x, '=', '='] := by
  rw [encode, toNat_toUInt8 (by omega)]
  congr <;> omega

end

/-- What is read is the written form of the bytes that are read. -/
theorem encode_of_decode? {s : List Char} {bytes : Bytes} (h : decode? s = some bytes) :
    encode bytes = s := by
  fun_induction decode? s generalizing bytes with
  | case1 =>
    cases h
    rfl
  | case2 w x y z rest nw nx ny nz hz hy hx hw ih =>
    obtain ⟨others, hothers, rfl⟩ := Option.map_eq_some_iff.mp h
    obtain ⟨hwlt, rfl⟩ := digit_of_value? hw
    obtain ⟨hxlt, rfl⟩ := digit_of_value? hx
    obtain ⟨hylt, rfl⟩ := digit_of_value? hy
    obtain ⟨hzlt, rfl⟩ := digit_of_value? hz
    rw [encode_full hwlt hxlt hylt hzlt, ih hothers]
  | case3 w x y z rest nw nx ny hz hy hx hw hpadded =>
    simp only [Bool.and_eq_true, decide_eq_true_eq, List.isEmpty_iff] at hpadded
    obtain ⟨⟨rfl, rfl⟩, hunused⟩ := hpadded
    obtain ⟨hwlt, rfl⟩ := digit_of_value? hw
    obtain ⟨hxlt, rfl⟩ := digit_of_value? hx
    obtain ⟨hylt, rfl⟩ := digit_of_value? hy
    obtain rfl := Option.some.inj h
    exact encode_two hwlt hxlt hylt hunused
  | case5 w x y z rest nw nx hz hy hx hw hpadded =>
    simp only [Bool.and_eq_true, decide_eq_true_eq, List.isEmpty_iff] at hpadded
    obtain ⟨⟨⟨rfl, rfl⟩, rfl⟩, hunused⟩ := hpadded
    obtain ⟨hwlt, rfl⟩ := digit_of_value? hw
    obtain ⟨hxlt, rfl⟩ := digit_of_value? hx
    obtain rfl := Option.some.inj h
    exact encode_one hwlt hxlt hunused
  | case4 | case6 | case7 | case8 => cases h

/-- Exactly the written forms are read. -/
theorem decode?_eq_some_iff {s : List Char} {bytes : Bytes} :
    decode? s = some bytes ↔ s = encode bytes := by
  constructor
  · intro h
    exact (encode_of_decode? h).symm
  · rintro rfl
    exact decode?_encode bytes

end DocumentGateway.Text.Base64

import DocumentGateway.Proofs.Text.Utf8
import DocumentGateway.Text.Percent

/-!
# What is escaped is read back

Bytes may be written in many ways: any of them may be escaped, with the digits in either case, and
an unreserved one may also stand for itself. Whichever way is chosen, the bytes are read back, and
what is written holds escapes and unreserved bytes alone.
-/

namespace DocumentGateway.Text.Percent

/-- Some bytes are written with escapes. -/
inductive Spells : Bytes → Bytes → Prop
  | nil : Spells [] []
  /-- An unreserved byte stands for itself. -/
  | kept {b : UInt8} {bytes escaped : Bytes} (hb : isUnreserved b = true)
      (h : Spells bytes escaped) : Spells (b :: bytes) (b :: escaped)
  /-- A byte is escaped. -/
  | escaped {b high low : UInt8} {bytes escaped : Bytes}
      (hhigh : hexValue? high = some (b.toNat / 16)) (hlow : hexValue? low = some (b.toNat % 16))
      (h : Spells bytes escaped) : Spells (b :: bytes) (0x25 :: high :: low :: escaped)

variable {b : UInt8} {bytes escaped : Bytes}

theorem hexValue?_hexDigitUpper : ∀ n < 16, hexValue? (hexDigitUpper n) = some n := by
  decide

/-- Some bytes with every reserved one escaped are written with escapes. -/
theorem spells_encode (bytes : Bytes) : Spells bytes (encode bytes) := by
  induction bytes with
  | nil => exact .nil
  | cons b rest ih =>
    have hb := b.toNat_lt
    have hhigh := hexValue?_hexDigitUpper (b.toNat / 16) (by omega)
    have hlow := hexValue?_hexDigitUpper (b.toNat % 16) (by omega)
    rw [encode, List.flatMap_cons, encodeByte]
    split
    · rename_i hkept
      exact .kept hkept ih
    · exact .escaped hhigh hlow ih

/-- A byte that is no percent sign stands for itself. -/
theorem decodeOnto_cons_of_ne (hb : b ≠ 0x25) (done rest : Bytes) :
    decodeOnto done (b :: rest) = decodeOnto (b :: done) rest := by
  match rest with
  | [] => rfl
  | [_] => rfl
  | _ :: _ :: _ => rw [decodeOnto, if_neg hb]

/-- An escape stands for the byte it spells. -/
theorem decodeOnto_escape {high low : UInt8} (hhigh : hexValue? high = some (b.toNat / 16))
    (hlow : hexValue? low = some (b.toNat % 16)) (done rest : Bytes) :
    decodeOnto done (0x25 :: high :: low :: rest) = decodeOnto (b :: done) rest := by
  have hbyte : (16 * (b.toNat / 16) + b.toNat % 16).toUInt8 = b := by
    rw [Nat.div_add_mod]
    exact UInt8.ofNat_toNat
  simp only [decodeOnto, if_true, hhigh, hlow, hbyte]

theorem ne_of_isUnreserved (h : isUnreserved b = true) : b ≠ 0x25 := by
  rintro rfl
  revert h
  decide

theorem decodeOnto_of_spells (h : Spells bytes escaped) (done : Bytes) :
    decodeOnto done escaped = done.reverse ++ bytes := by
  induction h generalizing done with
  | nil => rw [decodeOnto, List.append_nil]
  | kept hb _ ih => rw [decodeOnto_cons_of_ne (ne_of_isUnreserved hb), ih]; simp
  | escaped hhigh hlow _ ih => rw [decodeOnto_escape hhigh hlow, ih]; simp

/-- Bytes that are written with escapes are read back. -/
theorem decode_of_spells (h : Spells bytes escaped) : decode escaped = bytes :=
  decodeOnto_of_spells h []

/-- Nothing is read that is longer than what was written. -/
theorem length_decodeOnto_le (done bytes : Bytes) :
    (decodeOnto done bytes).length ≤ done.length + bytes.length := by
  fun_induction decodeOnto done bytes with
  | case1 => simp
  | case2 => simp
  | case3 => simp
  | case4 _ _ _ _ _ _ _ _ ih =>
    simp only [List.length_cons] at ih ⊢
    omega
  | case5 _ _ _ _ _ ih =>
    simp only [List.length_cons] at ih ⊢
    omega
  | case6 _ _ _ _ _ _ ih =>
    simp only [List.length_cons] at ih ⊢
    omega

theorem length_decode_le (bytes : Bytes) : (decode bytes).length ≤ bytes.length := by
  have h := length_decodeOnto_le [] bytes
  rwa [List.length_nil, Nat.zero_add] at h

theorem isUnreserved_of_hexValue? {n : Nat} (h : hexValue? b = some n) :
    isUnreserved b = true := by
  have hdigits : ∀ c : UInt8, (hexValue? c).isSome = true → isUnreserved c = true :=
    forall_byte (by decide +kernel)
  exact hdigits b (by rw [h]; rfl)

/-- Only percent signs and unreserved bytes are written. -/
theorem Spells.eq_or_isUnreserved (h : Spells bytes escaped) :
    ∀ c ∈ escaped, c = 0x25 ∨ isUnreserved c = true := by
  induction h with
  | nil => exact fun _ hc => nomatch hc
  | kept hb _ ih =>
    intro c hc
    rcases List.mem_cons.mp hc with rfl | hc
    · exact .inr hb
    · exact ih c hc
  | escaped hhigh hlow _ ih =>
    intro c hc
    rcases List.mem_cons.mp hc with rfl | hc
    · exact .inl rfl
    rcases List.mem_cons.mp hc with rfl | hc
    · exact .inr (isUnreserved_of_hexValue? hhigh)
    rcases List.mem_cons.mp hc with rfl | hc
    · exact .inr (isUnreserved_of_hexValue? hlow)
    · exact ih c hc

end DocumentGateway.Text.Percent

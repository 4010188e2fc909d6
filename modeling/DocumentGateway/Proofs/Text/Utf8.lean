import DocumentGateway.Text.Utf8
import Mathlib.Data.List.Induction

/-!
# What is written in UTF-8, and nothing else, is read back

The lead byte of a character carries its highest bits and says how many continuation bytes follow,
each with six more bits. The ranges of the first continuation byte admit every character: what they
exclude are shorter characters in longer forms, surrogates, and codes past the last plane. So the
bytes of a character are read as this character, and the bytes of a text as its characters. They
admit nothing else: bytes that are read without an ill-formed piece are those of the text read.
-/

namespace DocumentGateway.Text.Utf8

variable {n : Nat} {pieces : List (Option Char)}

theorem toNat_ofNat_of_lt (h : n < 256) : (UInt8.ofNat n).toNat = n := by
  rw [UInt8.toNat_ofNat']
  exact Nat.mod_eq_of_lt h

/-- What a lead byte begins, by its code. -/
theorem lead_ofNat (h : n < 256) :
    lead (UInt8.ofNat n) =
      if n < 0x80 then .whole (Char.ofNat n)
      else if n < 0xC2 then .broken
      else if n < 0xE0 then .begun ⟨1, n - 0xC0, 0x80, 0xBF⟩
      else if n = 0xE0 then .begun ⟨2, 0, 0xA0, 0xBF⟩
      else if n = 0xED then .begun ⟨2, 0xD, 0x80, 0x9F⟩
      else if n < 0xF0 then .begun ⟨2, n - 0xE0, 0x80, 0xBF⟩
      else if n = 0xF0 then .begun ⟨3, 0, 0x90, 0xBF⟩
      else if n < 0xF4 then .begun ⟨3, n - 0xF0, 0x80, 0xBF⟩
      else if n = 0xF4 then .begun ⟨3, 4, 0x80, 0x8F⟩
      else .broken := by
  simp only [lead, UInt8.lt_iff_toNat_lt, ← UInt8.toNat_inj, toNat_ofNat_of_lt h]
  rfl

/-- Two bytes are begun by the highest bits of the code. -/
theorem lead_of_two (h : 2 ≤ n) (h' : n < 32) :
    lead (UInt8.ofNat (n + 0xC0)) = .begun ⟨1, n, 0x80, 0xBF⟩ := by
  rw [lead_ofNat (by omega), if_neg (by omega), if_neg (by omega), if_pos (by omega),
    Nat.add_sub_cancel]

/-- Three bytes are begun by the highest bits of the code; where they say that the code may be short
or a surrogate, the next byte rules it out. -/
theorem lead_of_three (h : n < 16) :
    ∃ least most : UInt8, lead (UInt8.ofNat (n + 0xE0)) = .begun ⟨2, n, least, most⟩ ∧
      least.toNat = (if n = 0 then 0xA0 else 0x80) ∧
      most.toNat = (if n = 0xD then 0x9F else 0xBF) := by
  rw [lead_ofNat (by omega), if_neg (by omega), if_neg (by omega), if_neg (by omega)]
  by_cases hshort : n = 0
  · subst hshort
    exact ⟨0xA0, 0xBF, rfl, rfl, rfl⟩
  · rw [if_neg (by omega)]
    by_cases hsurrogate : n = 0xD
    · subst hsurrogate
      exact ⟨0x80, 0x9F, rfl, rfl, rfl⟩
    · rw [if_neg (by omega), if_pos (by omega), if_neg hshort, if_neg hsurrogate,
        Nat.add_sub_cancel]
      exact ⟨0x80, 0xBF, rfl, rfl, rfl⟩

/-- Four bytes are begun by the highest bits of the code; where they say that the code may be short
or past the last plane, the next byte rules it out. -/
theorem lead_of_four (h : n ≤ 4) :
    ∃ least most : UInt8, lead (UInt8.ofNat (n + 0xF0)) = .begun ⟨3, n, least, most⟩ ∧
      least.toNat = (if n = 0 then 0x90 else 0x80) ∧
      most.toNat = (if n = 4 then 0x8F else 0xBF) := by
  rw [lead_ofNat (by omega), if_neg (by omega), if_neg (by omega), if_neg (by omega),
    if_neg (by omega), if_neg (by omega), if_neg (by omega)]
  by_cases hshort : n = 0
  · subst hshort
    exact ⟨0x90, 0xBF, rfl, rfl, rfl⟩
  · rw [if_neg (by omega)]
    by_cases hlast : n = 4
    · subst hlast
      exact ⟨0x80, 0x8F, rfl, rfl, rfl⟩
    · rw [if_pos (by omega), if_neg hshort, if_neg hlast, Nat.add_sub_cancel]
      exact ⟨0x80, 0xBF, rfl, rfl, rfl⟩

/-- A byte in the range that is due is read as six more bits. -/
theorem step_of_due {g : Begun} (h : g.least.toNat ≤ n + 0x80) (h' : n + 0x80 ≤ g.most.toNat) :
    Scan.step ⟨some g, pieces⟩ (UInt8.ofNat (n + 0x80)) =
      if g.owed ≤ 1 then ⟨none, some (Char.ofNat (g.bits * 64 + n)) :: pieces⟩
      else ⟨some ⟨g.owed - 1, g.bits * 64 + n, 0x80, 0xBF⟩, pieces⟩ := by
  have hmost := g.most.toNat_lt
  have hn := toNat_ofNat_of_lt (show n + 0x80 < 256 by omega)
  have hrange : (g.least ≤ UInt8.ofNat (n + 0x80) && UInt8.ofNat (n + 0x80) ≤ g.most) = true := by
    simp only [Bool.and_eq_true, decide_eq_true_eq, UInt8.le_iff_toNat_le, hn]
    exact ⟨h, h'⟩
  simp only [Scan.step]
  rw [if_pos hrange, hn, Nat.add_sub_cancel]

/-- Six bits are in the range of a continuation byte. -/
theorem due_of_lt (h : n < 64) :
    (0x80 : UInt8).toNat ≤ n + 0x80 ∧ n + 0x80 ≤ (0xBF : UInt8).toNat :=
  ⟨Nat.le_add_left _ _, Nat.add_le_add_right (Nat.le_of_lt_succ h) 0x80⟩

/-- The last byte that is owed completes a character. -/
theorem step_last {bits : Nat} (h : n < 64) :
    Scan.step ⟨some ⟨1, bits, 0x80, 0xBF⟩, pieces⟩ (UInt8.ofNat (n + 0x80)) =
      ⟨none, some (Char.ofNat (bits * 64 + n)) :: pieces⟩ := by
  rw [step_of_due (due_of_lt h).1 (due_of_lt h).2, if_pos (Nat.le_refl 1)]

/-- A byte before the last one leaves one fewer owed. -/
theorem step_more {owed bits : Nat} {least most : UInt8} (h : least.toNat ≤ n + 0x80)
    (h' : n + 0x80 ≤ most.toNat) :
    Scan.step ⟨some ⟨owed + 2, bits, least, most⟩, pieces⟩ (UInt8.ofNat (n + 0x80)) =
      ⟨some ⟨owed + 1, bits * 64 + n, 0x80, 0xBF⟩, pieces⟩ := by
  rw [step_of_due h h', if_neg (by simp)]
  rfl

theorem step_lead {b : UInt8} {g : Begun} (h : lead b = .begun g) :
    Scan.step ⟨none, pieces⟩ b = ⟨some g, pieces⟩ := by
  simp only [Scan.step, Scan.begin, h]

/-- The bytes of a character are read as this character. -/
theorem foldl_step_encodeChar (c : Char) (pieces : List (Option Char)) :
    (String.utf8EncodeChar c).foldl Scan.step ⟨none, pieces⟩ = ⟨none, some c :: pieces⟩ := by
  have hcode : Char.ofNat c.val.toNat = c := Char.ofNat_toNat c
  have hvalid : c.val.toNat < 0xD800 ∨ 0xDFFF < c.val.toNat ∧ c.val.toNat < 0x110000 := c.valid
  rw [String.utf8EncodeChar]
  generalize c.val.toNat = code at hcode hvalid
  by_cases hone : code ≤ 127
  · rw [if_pos hone]
    have hlead : lead (UInt8.ofNat code) = .whole (Char.ofNat code) := by
      rw [lead_ofNat (by omega), if_pos (by omega)]
    simp only [List.foldl_cons, List.foldl_nil, Scan.step, Scan.begin, hlead, hcode]
  · rw [if_neg hone]
    by_cases htwo : code ≤ 2047
    · rw [if_pos htwo]
      have hlead := lead_of_two (n := code / 64 % 32) (by omega) (by omega)
      have hbits : code / 64 % 32 * 64 + code % 64 = code := by omega
      rw [List.foldl_cons, List.foldl_cons, List.foldl_nil, step_lead hlead,
        step_last (by omega), hbits, hcode]
    · rw [if_neg htwo]
      by_cases hthree : code ≤ 65535
      · rw [if_pos hthree]
        obtain ⟨least, most, hlead, hleast, hmost⟩ :=
          lead_of_three (n := code / 4096 % 16) (by omega)
        have hlow : least.toNat ≤ code / 64 % 64 + 0x80 := by
          rw [hleast]
          split <;> omega
        have hhigh : code / 64 % 64 + 0x80 ≤ most.toNat := by
          rw [hmost]
          split <;> omega
        have hbits : (code / 4096 % 16 * 64 + code / 64 % 64) * 64 + code % 64 = code := by omega
        rw [List.foldl_cons, List.foldl_cons, List.foldl_cons, List.foldl_nil, step_lead hlead,
          step_more hlow hhigh, step_last (by omega), hbits, hcode]
      · rw [if_neg hthree]
        obtain ⟨least, most, hlead, hleast, hmost⟩ :=
          lead_of_four (n := code / 262144 % 8) (by omega)
        have hlow : least.toNat ≤ code / 4096 % 64 + 0x80 := by
          rw [hleast]
          split <;> omega
        have hhigh : code / 4096 % 64 + 0x80 ≤ most.toNat := by
          rw [hmost]
          split <;> omega
        have hbits : ((code / 262144 % 8 * 64 + code / 4096 % 64) * 64 + code / 64 % 64) * 64 +
            code % 64 = code := by omega
        have hmiddle := due_of_lt (n := code / 64 % 64) (by omega)
        rw [List.foldl_cons, List.foldl_cons, List.foldl_cons, List.foldl_cons, List.foldl_nil,
          step_lead hlead, step_more hlow hhigh, step_more hmiddle.1 hmiddle.2,
          step_last (by omega), hbits, hcode]

/-- The bytes of some characters are read as these characters. -/
theorem foldl_step_encode (chars : List Char) (pieces : List (Option Char)) :
    (chars.flatMap String.utf8EncodeChar).foldl Scan.step ⟨none, pieces⟩ =
      ⟨none, (chars.map some).reverse ++ pieces⟩ := by
  induction chars generalizing pieces with
  | nil => rfl
  | cons c rest ih =>
    rw [List.flatMap_cons, List.foldl_append, foldl_step_encodeChar, ih]
    simp

/-- The bytes of a text are read as its characters. -/
theorem decode?_encode (s : String) : decode? (encode s) = some s.toList := by
  have hscan : scan (encode s) = s.toList.map some := by
    rw [scan, encode, foldl_step_encode]
    simp [Scan.finish]
  simp [decode?, hscan]

/-- At the start of a character, ASCII bytes are read one by one. -/
theorem foldl_step_of_ascii {bytes : Bytes} (h : ∀ b ∈ bytes, b < 0x80)
    (pieces : List (Option Char)) :
    bytes.foldl Scan.step ⟨none, pieces⟩ =
      ⟨none, ((ofCodes bytes).map some).reverse ++ pieces⟩ := by
  induction bytes generalizing pieces with
  | nil => rfl
  | cons b rest ih =>
    have hb : b < 0x80 := h b List.mem_cons_self
    have hstep : Scan.step ⟨none, pieces⟩ b = ⟨none, some (Char.ofNat b.toNat) :: pieces⟩ := by
      simp only [Scan.step, Scan.begin, lead, if_pos hb]
    rw [List.foldl_cons, hstep, ih fun c hc => h c (List.mem_cons_of_mem _ hc)]
    simp [ofCodes]

/-- ASCII bytes spell the characters with their codes. -/
theorem decode?_of_ascii {bytes : Bytes} (h : ∀ b ∈ bytes, b < 0x80) :
    decode? bytes = some (ofCodes bytes) := by
  have hscan : scan bytes = (ofCodes bytes).map some := by
    simp [scan, foldl_step_of_ascii h, Scan.finish]
  simp [decode?, hscan]

variable {least most : UInt8}

/-- The bytes of the character with some code. -/
theorem encodeChar_ofNat (h : n.isValidChar) :
    String.utf8EncodeChar (Char.ofNat n) =
      if n ≤ 127 then [UInt8.ofNat n]
      else if n ≤ 2047 then [UInt8.ofNat (n / 64 % 32 + 0xC0), UInt8.ofNat (n % 64 + 0x80)]
      else if n ≤ 65535 then [UInt8.ofNat (n / 4096 % 16 + 0xE0),
        UInt8.ofNat (n / 64 % 64 + 0x80), UInt8.ofNat (n % 64 + 0x80)]
      else [UInt8.ofNat (n / 262144 % 8 + 0xF0), UInt8.ofNat (n / 4096 % 64 + 0x80),
        UInt8.ofNat (n / 64 % 64 + 0x80), UInt8.ofNat (n % 64 + 0x80)] := by
  have hcode : (Char.ofNat n).val.toNat = n := by
    rw [Char.ofNat, dif_pos h]
    exact UInt32.toNat_ofNatLT ..
  rw [String.utf8EncodeChar, hcode]

theorem ofNat_eq {b : UInt8} (h : n = b.toNat) : UInt8.ofNat n = b := by
  rw [h, UInt8.ofNat_toNat]

theorem toNat_of_due {b : UInt8} (h : 0x80 ≤ b) (h' : b ≤ 0xBF) :
    0x80 ≤ b.toNat ∧ b.toNat ≤ 0xBF :=
  ⟨UInt8.le_iff_toNat_le.mp h, UInt8.le_iff_toNat_le.mp h'⟩

/-- What has been read of a character: whatever bytes are still due, the character that they
complete is the one with all these bytes. -/
def Completes (read : Bytes) (bits : Nat) (least most : UInt8) : Nat → Prop
  | 0 => ∀ b, least ≤ b → b ≤ most →
      String.utf8EncodeChar (Char.ofNat (bits * 64 + (b.toNat - 0x80))) = read ++ [b]
  | owed + 1 => ∀ b, least ≤ b → b ≤ most →
      Completes (read ++ [b]) (bits * 64 + (b.toNat - 0x80)) 0x80 0xBF owed

/-- One more byte completes a character of two bytes. -/
theorem completes_of_two (h : 2 ≤ n) (h' : n < 32) :
    Completes [UInt8.ofNat (n + 0xC0)] n 0x80 0xBF 0 := by
  intro b hb hb'
  obtain ⟨hlow, hhigh⟩ := toNat_of_due hb hb'
  generalize hcode : n * 64 + (b.toNat - 0x80) = code
  have hfirst : code / 64 % 32 = n := by omega
  have hsecond : UInt8.ofNat (code % 64 + 0x80) = b := ofNat_eq (by omega)
  rw [encodeChar_ofNat (.inl (by omega)), if_neg (by omega), if_pos (by omega), hfirst, hsecond]
  rfl

/-- Two more bytes complete a character of three bytes, as the first of them rules out short codes
and surrogates. -/
theorem completes_of_three (h : n < 16) (hleast : least.toNat = if n = 0 then 0xA0 else 0x80)
    (hmost : most.toNat = if n = 0xD then 0x9F else 0xBF) :
    Completes [UInt8.ofNat (n + 0xE0)] n least most 1 := by
  intro b hb hb' c hc hc'
  obtain ⟨hlow, hhigh⟩ := toNat_of_due hc hc'
  rw [UInt8.le_iff_toNat_le, hleast] at hb
  rw [UInt8.le_iff_toNat_le, hmost] at hb'
  have hdue : 0x80 ≤ b.toNat ∧ b.toNat ≤ 0xBF ∧ (n = 0 → 0xA0 ≤ b.toNat) ∧
      (n = 0xD → b.toNat ≤ 0x9F) := by
    split at hb <;> split at hb' <;> omega
  clear hb hb' hleast hmost
  generalize hcode : (n * 64 + (b.toNat - 0x80)) * 64 + (c.toNat - 0x80) = code
  have hvalid : code.isValidChar := by
    unfold Nat.isValidChar
    omega
  have hfirst : code / 4096 % 16 = n := by omega
  have hsecond : UInt8.ofNat (code / 64 % 64 + 0x80) = b := ofNat_eq (by omega)
  have hthird : UInt8.ofNat (code % 64 + 0x80) = c := ofNat_eq (by omega)
  rw [encodeChar_ofNat hvalid, if_neg (by omega), if_neg (by omega), if_pos (by omega), hfirst,
    hsecond, hthird]
  rfl

/-- Three more bytes complete a character of four bytes, as the first of them rules out short codes
and codes past the last plane. -/
theorem completes_of_four (h : n ≤ 4) (hleast : least.toNat = if n = 0 then 0x90 else 0x80)
    (hmost : most.toNat = if n = 4 then 0x8F else 0xBF) :
    Completes [UInt8.ofNat (n + 0xF0)] n least most 2 := by
  intro b hb hb' c hc hc' d hd hd'
  obtain ⟨hlow, hhigh⟩ := toNat_of_due hc hc'
  obtain ⟨hlow', hhigh'⟩ := toNat_of_due hd hd'
  rw [UInt8.le_iff_toNat_le, hleast] at hb
  rw [UInt8.le_iff_toNat_le, hmost] at hb'
  have hdue : 0x80 ≤ b.toNat ∧ b.toNat ≤ 0xBF ∧ (n = 0 → 0x90 ≤ b.toNat) ∧
      (n = 4 → b.toNat ≤ 0x8F) := by
    split at hb <;> split at hb' <;> omega
  clear hb hb' hleast hmost
  generalize hcode : ((n * 64 + (b.toNat - 0x80)) * 64 + (c.toNat - 0x80)) * 64 +
    (d.toNat - 0x80) = code
  have hvalid : code.isValidChar := by
    unfold Nat.isValidChar
    omega
  have hfirst : code / 262144 % 8 = n := by omega
  have hsecond : UInt8.ofNat (code / 4096 % 64 + 0x80) = b := ofNat_eq (by omega)
  have hthird : UInt8.ofNat (code / 64 % 64 + 0x80) = c := ofNat_eq (by omega)
  have hfourth : UInt8.ofNat (code % 64 + 0x80) = d := ofNat_eq (by omega)
  rw [encodeChar_ofNat hvalid, if_neg (by omega), if_neg (by omega), if_neg (by omega), hfirst,
    hsecond, hthird, hfourth]
  rfl

/-- A lead byte is a whole character, begins one of two, three or four bytes, or is broken. -/
inductive Leads : UInt8 → Lead → Prop
  | whole {c : Char} {b : UInt8} (h : String.utf8EncodeChar c = [b]) : Leads b (.whole c)
  | begun {b : UInt8} {bits : Nat} {least most : UInt8} {owed : Nat}
      (h : Completes [b] bits least most owed) : Leads b (.begun ⟨owed + 1, bits, least, most⟩)
  | broken (b : UInt8) : Leads b .broken

/-- A lead byte that is a whole character is its only byte, and what another one begins is completed
by the bytes that are due. -/
theorem leads_lead (b : UInt8) : Leads b (lead b) := by
  have hb : UInt8.ofNat b.toNat = b := UInt8.ofNat_toNat
  have hlt := b.toNat_lt
  generalize b.toNat = code at hb hlt
  subst hb
  have hcases : code < 0x80 ∨ (0x80 ≤ code ∧ code < 0xC2 ∨ 0xF4 < code) ∨
      (0xC2 ≤ code ∧ code < 0xE0) ∨ (0xE0 ≤ code ∧ code < 0xF0) ∨ (0xF0 ≤ code ∧ code ≤ 0xF4) := by
    omega
  rcases hcases with hone | hbroken | htwo | hthree | hfour
  · rw [lead_ofNat hlt, if_pos hone]
    refine .whole ?_
    rw [encodeChar_ofNat (.inl (by omega)), if_pos (by omega)]
  · have hlead : lead (UInt8.ofNat code) = .broken := by
      rw [lead_ofNat hlt]
      repeat' split
      all_goals first | rfl | omega
    rw [hlead]
    exact .broken _
  · obtain ⟨n, rfl⟩ := Nat.exists_eq_add_of_le' (show 0xC0 ≤ code by omega)
    rw [lead_of_two (by omega) (by omega)]
    exact .begun (completes_of_two (by omega) (by omega))
  · obtain ⟨n, rfl⟩ := Nat.exists_eq_add_of_le' hthree.1
    obtain ⟨least, most, hlead, hleast, hmost⟩ := lead_of_three (n := n) (by omega)
    rw [hlead]
    exact .begun (completes_of_three (by omega) hleast hmost)
  · obtain ⟨n, rfl⟩ := Nat.exists_eq_add_of_le' hfour.1
    obtain ⟨least, most, hlead, hleast, hmost⟩ := lead_of_four (n := n) (by omega)
    rw [hlead]
    exact .begun (completes_of_four (by omega) hleast hmost)

/-- Some bytes have been read without an ill-formed piece: they are those of the characters read and
of the character begun. -/
inductive Reads : Bytes → Scan → Prop
  | between (chars : List Char) :
      Reads (chars.flatMap String.utf8EncodeChar) ⟨none, (chars.map some).reverse⟩
  | within (chars : List Char) {read : Bytes} {bits : Nat} {least most : UInt8} {owed : Nat}
      (h : Completes read bits least most owed) :
      Reads (chars.flatMap String.utf8EncodeChar ++ read)
        ⟨some ⟨owed + 1, bits, least, most⟩, (chars.map some).reverse⟩

/-- A character has been read to its last byte. -/
theorem Reads.complete (chars : List Char) {read : Bytes} {c : Char}
    (h : String.utf8EncodeChar c = read) :
    Reads (chars.flatMap String.utf8EncodeChar ++ read)
      ⟨none, some c :: (chars.map some).reverse⟩ := by
  have hreads := Reads.between (chars ++ [c])
  simpa [h] using hreads

/-- Between two characters a byte is a lead byte, or ill-formed. -/
theorem Reads.begin (chars : List Char) (b : UInt8) :
    none ∈ (Scan.begin ⟨none, (chars.map some).reverse⟩ b).pieces ∨
      Reads (chars.flatMap String.utf8EncodeChar ++ [b])
        (Scan.begin ⟨none, (chars.map some).reverse⟩ b) := by
  have hlead := leads_lead b
  unfold Scan.begin
  generalize lead b = begins at hlead ⊢
  cases hlead with
  | whole h => exact .inr (.complete chars h)
  | begun h => exact .inr (.within chars h)
  | broken => exact .inl List.mem_cons_self

/-- An ill-formed piece stays while a lead byte is read. -/
theorem broken_begin {s : Scan} (h : none ∈ s.pieces) (b : UInt8) :
    none ∈ (s.begin b).pieces := by
  unfold Scan.begin
  split
  · exact List.mem_cons_of_mem _ h
  · exact h
  · exact List.mem_cons_of_mem _ h

/-- An ill-formed piece stays. -/
theorem broken_step {s : Scan} (h : none ∈ s.pieces) (b : UInt8) : none ∈ (s.step b).pieces := by
  unfold Scan.step
  split
  · exact broken_begin h b
  · split
    · split
      · exact List.mem_cons_of_mem _ h
      · exact h
    · exact broken_begin List.mem_cons_self b

/-- A byte goes on with what has been read, or is ill-formed. -/
theorem Reads.step {bytes : Bytes} {s : Scan} (h : Reads bytes s) (b : UInt8) :
    none ∈ (s.step b).pieces ∨ Reads (bytes ++ [b]) (s.step b) := by
  cases h with
  | between chars => exact Reads.begin chars b
  | @within chars read bits least most owed h =>
    rw [List.append_assoc]
    simp only [Scan.step]
    split
    · rename_i hdue
      obtain ⟨hleast, hmost⟩ := Bool.and_eq_true_iff.mp hdue
      have hnext := of_decide_eq_true hleast
      have hnext' := of_decide_eq_true hmost
      cases owed with
      | zero => exact .inr (.complete chars (h b hnext hnext'))
      | succ owed => exact .inr (.within chars (h b hnext hnext'))
    · exact .inl (broken_begin List.mem_cons_self b)

/-- Bytes are read without an ill-formed piece, or one has been read. -/
theorem reads_foldl (bytes : Bytes) :
    none ∈ (bytes.foldl Scan.step ⟨none, []⟩).pieces ∨
      Reads bytes (bytes.foldl Scan.step ⟨none, []⟩) := by
  induction bytes using List.reverseRecOn with
  | nil => exact .inr (.between [])
  | append_singleton bytes b ih =>
    rw [List.foldl_append]
    rcases ih with hbroken | hreads
    · exact .inl (broken_step hbroken b)
    · exact hreads.step b

/-- Text without ill-formed pieces is its pieces. -/
theorem scan_of_decode? {bytes : Bytes} {chars : List Char} (h : decode? bytes = some chars) :
    scan bytes = chars.map some := by
  rw [decode?] at h
  generalize scan bytes = found at h ⊢
  by_cases hwhole : found.all Option.isSome = true
  · simp only [hwhole, if_true, Option.some.injEq] at h
    rw [← h]
    clear h
    induction found with
    | nil => rfl
    | cons piece rest ih =>
      rw [List.all_cons, Bool.and_eq_true] at hwhole
      obtain ⟨c, rfl⟩ := Option.isSome_iff_exists.mp hwhole.1
      simpa using ih hwhole.2
  · simp [hwhole] at h

/-- Bytes whose pieces are all characters are those of these characters. -/
theorem eq_of_scan {bytes : Bytes} {chars : List Char} (h : scan bytes = chars.map some) :
    bytes = chars.flatMap String.utf8EncodeChar := by
  have hnone : none ∉ chars.map some := by simp
  rw [← h, scan] at hnone
  rw [scan] at h
  have hreads := reads_foldl bytes
  generalize bytes.foldl Scan.step ⟨none, []⟩ = s at h hnone hreads
  rcases hreads with hbroken | hreads
  · refine absurd ?_ hnone
    unfold Scan.finish
    split <;> simp [hbroken]
  · cases hreads with
    | between read =>
      rw [Scan.finish, List.reverse_reverse] at h
      rw [(List.map_inj_right fun _ _ => Option.some.inj).mp h]
    | within => exact absurd (by simp [Scan.finish]) hnone

/-- Bytes are read as some characters exactly if they are the bytes of these characters. -/
theorem decode?_eq_some_iff {bytes : Bytes} {chars : List Char} :
    decode? bytes = some chars ↔ bytes = encode (String.ofList chars) := by
  constructor
  · intro h
    rw [encode, String.toList_ofList]
    exact eq_of_scan (scan_of_decode? h)
  · rintro rfl
    rw [decode?_encode, String.toList_ofList]

/-- ASCII bytes are those of the text that they spell. -/
theorem encode_of_ascii {bytes : Bytes} (h : ∀ b ∈ bytes, b < 0x80) :
    encode (String.ofList (ofCodes bytes)) = bytes :=
  (decode?_eq_some_iff.mp (decode?_of_ascii h)).symm

end DocumentGateway.Text.Utf8

import DocumentGateway.Text.Utf8

/-!
# Texts in the order of their bytes

Texts are compared character by character, by their codes. In UTF-8 the lead byte of a character
carries its highest bits, below the lead bytes of all longer characters, and each byte that follows
carries the next six. So the bytes of two texts compare as the texts do, and keys that ascend as
texts ascend as bytes.
-/

namespace DocumentGateway.Text.Utf8

variable {a b : Nat} {x y : Bytes}

/-- A byte that is no greater decides, unless it is equal: then what follows it does. -/
theorem cons_lt_of_le (hab : a ≤ b) (hb : b < 256) (h : a = b → x < y) :
    UInt8.ofNat a :: x < UInt8.ofNat b :: y := by
  rw [List.cons_lt_cons_iff]
  rcases Nat.lt_or_eq_of_le hab with hlt | rfl
  · refine .inl (UInt8.lt_iff_toNat_lt.mpr ?_)
    rwa [UInt8.toNat_ofNat', UInt8.toNat_ofNat', Nat.mod_eq_of_lt (Nat.lt_trans hlt hb),
      Nat.mod_eq_of_lt hb]
  · exact .inr ⟨rfl, h rfl⟩

/-- A byte that is less decides. -/
theorem cons_lt_of_lt (hab : a < b) (hb : b < 256) : UInt8.ofNat a :: x < UInt8.ofNat b :: y :=
  cons_lt_of_le (Nat.le_of_lt hab) hb fun heq => absurd heq (Nat.ne_of_lt hab)

/-- The bytes of a character compare as the character does, whatever follows them. -/
theorem encodeChar_append_lt {c d : Char} (h : c < d) (x y : Bytes) :
    String.utf8EncodeChar c ++ x < String.utf8EncodeChar d ++ y := by
  have hcode : c.val.toNat < d.val.toNat := h
  have hbound : d.val.toNat < 0x110000 := by
    rcases d.valid with hd | hd
    · exact Nat.lt_trans hd (by decide)
    · exact hd.2
  rw [String.utf8EncodeChar, String.utf8EncodeChar]
  generalize c.val.toNat = m at hcode
  generalize d.val.toNat = n at hcode hbound
  by_cases hone : m ≤ 127
  · rw [if_pos hone]
    split
    · exact cons_lt_of_lt hcode (by omega)
    · split
      · exact cons_lt_of_lt (by omega) (by omega)
      · split <;> exact cons_lt_of_lt (by omega) (by omega)
  · rw [if_neg hone, if_neg (show ¬n ≤ 127 by omega)]
    by_cases htwo : m ≤ 2047
    · rw [if_pos htwo]
      split
      · exact cons_lt_of_le (by omega) (by omega) fun _ => cons_lt_of_lt (by omega) (by omega)
      · split <;> exact cons_lt_of_lt (by omega) (by omega)
    · rw [if_neg htwo, if_neg (show ¬n ≤ 2047 by omega)]
      by_cases hthree : m ≤ 65535
      · rw [if_pos hthree]
        split
        · exact cons_lt_of_le (by omega) (by omega) fun _ =>
            cons_lt_of_le (by omega) (by omega) fun _ => cons_lt_of_lt (by omega) (by omega)
        · exact cons_lt_of_lt (by omega) (by omega)
      · rw [if_neg hthree, if_neg (show ¬n ≤ 65535 by omega)]
        exact cons_lt_of_le (by omega) (by omega) fun _ =>
          cons_lt_of_le (by omega) (by omega) fun _ =>
            cons_lt_of_le (by omega) (by omega) fun _ => cons_lt_of_lt (by omega) (by omega)

/-- The bytes of a character are some bytes. -/
theorem encodeChar_ne_nil (c : Char) : String.utf8EncodeChar c ≠ [] := by
  rw [String.utf8EncodeChar]
  split
  · simp
  · split
    · simp
    · split <;> simp

/-- The bytes of some characters compare as the characters do. -/
theorem flatMap_encodeChar_lt {left right : List Char} (h : left < right) :
    left.flatMap String.utf8EncodeChar < right.flatMap String.utf8EncodeChar := by
  induction left generalizing right with
  | nil =>
    cases right with
    | nil => exact absurd h (List.not_lt_nil _)
    | cons d right =>
      rw [List.flatMap_nil, List.flatMap_cons]
      obtain ⟨b, rest, hd⟩ := List.exists_cons_of_ne_nil (encodeChar_ne_nil d)
      rw [hd, List.cons_append]
      exact List.nil_lt_cons _ _
  | cons c left ih =>
    cases right with
    | nil => exact absurd h (List.not_lt_nil _)
    | cons d right =>
      rw [List.flatMap_cons, List.flatMap_cons]
      rcases List.cons_lt_cons_iff.mp h with hlt | ⟨rfl, hlt⟩
      · exact encodeChar_append_lt hlt _ _
      · exact List.append_left_lt (ih hlt)

/-- Texts that ascend, ascend as bytes. -/
theorem encode_lt {s t : String} (h : s < t) : encode s < encode t :=
  flatMap_encodeChar_lt (String.lt_iff.mp h)

end DocumentGateway.Text.Utf8

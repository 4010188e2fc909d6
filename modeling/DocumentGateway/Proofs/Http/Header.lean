import DocumentGateway.Http.Header

/-!
# Text in headers

A text of visible ASCII characters, spaces and tabs may stand in a header, and whoever reads the
header gets the same text back.
-/

namespace DocumentGateway.Http

/-- Whether a character may stand in a value that counts as text. -/
def isTextChar (c : Char) : Bool := (0x20 ≤ c.toNat && c.toNat < 0x7F) || c.toNat == 0x09

theorem lt_of_isTextChar {c : Char} (h : isTextChar c = true) : c.toNat < 0x7F := by
  simp only [isTextChar, Bool.or_eq_true, Bool.and_eq_true, decide_eq_true_eq, beq_iff_eq] at h
  omega

/-- The code of a text character is a byte. -/
theorem toNat_of_isTextChar {c : Char} (h : isTextChar c = true) :
    c.toNat.toUInt8.toNat = c.toNat := by
  have hlt := lt_of_isTextChar h
  change c.toNat % 256 = c.toNat
  omega

theorem encode_of_isTextChar {c : Char} (h : isTextChar c = true) :
    String.utf8EncodeChar c = [c.toNat.toUInt8] := by
  have hlt := lt_of_isTextChar h
  have hsize : c.utf8Size = 1 := by
    rw [Char.utf8Size_eq_one_iff, UInt32.le_iff_toNat_le]
    change c.toNat ≤ 127
    omega
  rw [String.utf8EncodeChar_eq_singleton hsize]
  congr 1

theorem isTextByte_of_isTextChar {c : Char} (h : isTextChar c = true) :
    isTextByte c.toNat.toUInt8 = true := by
  have hbyte := toNat_of_isTextChar h
  simp only [isTextChar, Bool.or_eq_true, Bool.and_eq_true, decide_eq_true_eq, beq_iff_eq] at h
  simp only [isTextByte, Bool.or_eq_true, Bool.and_eq_true, decide_eq_true_eq, beq_iff_eq,
    UInt8.le_iff_toNat_le, UInt8.lt_iff_toNat_lt, ← UInt8.toNat_inj, hbyte]
  exact h

theorem isValueByte_of_isTextByte {b : UInt8} (h : isTextByte b = true) :
    isValueByte b = true := by
  simp only [isTextByte, isValueByte, Bool.or_eq_true, Bool.and_eq_true, decide_eq_true_eq,
    beq_iff_eq, bne_iff_ne, ne_eq, UInt8.le_iff_toNat_le, UInt8.lt_iff_toNat_lt,
    ← UInt8.toNat_inj] at h ⊢
  rcases h with ⟨hlow, hhigh⟩ | htab
  · refine .inl ⟨hlow, fun he => ?_⟩
    rw [he] at hhigh
    exact Nat.lt_irrefl _ hhigh
  · exact .inr htab

/-- The bytes of a text are the codes of its characters. -/
theorem encode_of_text {s : String} (h : s.toList.all isTextChar = true) :
    Text.Utf8.encode s = s.toList.map fun c => c.toNat.toUInt8 := by
  unfold Text.Utf8.encode
  rw [List.all_eq_true] at h
  generalize s.toList = chars at h ⊢
  induction chars with
  | nil => rfl
  | cons c rest ih =>
    rw [List.flatMap_cons, encode_of_isTextChar (h c List.mem_cons_self),
      ih fun c hc => h c (List.mem_cons_of_mem _ hc)]
    rfl

theorem ofCodes_of_text {chars : List Char} (h : chars.all isTextChar = true) :
    Text.ofCodes (chars.map fun c => c.toNat.toUInt8) = chars := by
  rw [List.all_eq_true] at h
  induction chars with
  | nil => rfl
  | cons c rest ih =>
    have hcode := toNat_of_isTextChar (h c List.mem_cons_self)
    have hrest := ih fun c hc => h c (List.mem_cons_of_mem _ hc)
    rw [Text.ofCodes, List.map_map] at hrest ⊢
    rw [List.map_cons, hrest]
    simp [hcode]

/-- A text goes into a header and comes out of it unchanged. -/
theorem exists_value_of_text {s : String} (h : s.toList.all isTextChar = true) :
    ∃ value : HeaderValue, HeaderValue.ofText? s = some value ∧ value.text? = some s := by
  have htext : (Text.Utf8.encode s).all isTextByte = true := by
    rw [encode_of_text h, List.all_map, List.all_eq_true]
    exact fun c hc => isTextByte_of_isTextChar (List.all_eq_true.mp h c hc)
  have hlegal : (Text.Utf8.encode s).all isValueByte = true := by
    rw [List.all_eq_true] at htext ⊢
    exact fun b hb => isValueByte_of_isTextByte (htext b hb)
  refine ⟨⟨Text.Utf8.encode s, hlegal⟩, ?_, ?_⟩
  · rw [HeaderValue.ofText?, HeaderValue.ofBytes?, dif_pos hlegal]
  · have hcodes : Text.ofCodes (Text.Utf8.encode s) = s.toList := by
      rw [encode_of_text h, ofCodes_of_text h]
    rw [HeaderValue.text?, if_pos htext, hcodes, String.ofList_toList]

/-- A byte may stand in a text exactly if the character with its code may. -/
theorem isTextByte_eq_isTextChar : ∀ b, isTextByte b = isTextChar (Char.ofNat b.toNat) :=
  Text.forall_byte (by decide +kernel)

/-- A value that counts as text has one character for each byte. -/
theorem HeaderValue.text?_eq_some_iff {v : HeaderValue} {text : String} :
    v.text? = some text ↔ v.bytes.all isTextByte = true ∧ text.toList = Text.ofCodes v.bytes := by
  rw [HeaderValue.text?]
  split
  · rename_i htext
    constructor
    · intro h
      cases h
      exact ⟨htext, String.toList_ofList⟩
    · rintro ⟨-, hchars⟩
      rw [← hchars, String.ofList_toList]
  · rename_i htext
    constructor
    · intro h
      cases h
    · rintro ⟨hall, -⟩
      exact absurd hall htext

/-- Texts with the same bytes are the same. -/
theorem encode_injective {s t : String} (h : Text.Utf8.encode s = Text.Utf8.encode t) :
    s = t := by
  have hbytes : s.toList.utf8Encode = t.toList.utf8Encode := congrArg List.toByteArray h
  rwa [String.utf8Encode_toList, String.utf8Encode_toList, String.toByteArray_inj] at hbytes

theorem encode_of_ofText? {s : String} {value : HeaderValue}
    (h : HeaderValue.ofText? s = some value) : Text.Utf8.encode s = value.bytes := by
  unfold HeaderValue.ofText? HeaderValue.ofBytes? at h
  split at h
  · cases h
    rfl
  · cases h

/-- A header's value is made by one text only. -/
theorem ofText?_injective {s t : String} {value : HeaderValue}
    (hs : HeaderValue.ofText? s = some value) (ht : HeaderValue.ofText? t = some value) : s = t :=
  encode_injective ((encode_of_ofText? hs).trans (encode_of_ofText? ht).symm)

end DocumentGateway.Http

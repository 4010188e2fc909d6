import DocumentGateway.Json.Literal
import DocumentGateway.Proofs.Text.Cut

/-!
# Numerals

A number literal in its parts, and as the word that they make up: a word is split into the parts
that it was made of.
-/

namespace DocumentGateway.Json

open DocumentGateway.Number (Binary64 exponentLimit)

/-- Some digits, at least one. -/
structure Digits (s : List Char) : Prop where
  nonempty : s ≠ []
  digit : ∀ c ∈ s, c.isDigit = true

/-- The parts of a numeral as they are written. -/
structure Numeral where
  /-- Whether it begins with a minus sign. -/
  negative : Bool
  /-- The digits before the point. -/
  whole : List Char
  /-- The digits after the point, if there is one. -/
  fraction : Option (List Char)
  /-- Whether the exponent is negative, and its digits, if there is one. -/
  exponent : Option (Bool × List Char)

namespace Numeral

/-- The sign of a numeral as it is written. -/
def writeSign (negative : Bool) : List Char := if negative then ['-'] else []

/-- The digits after the point as they are written. -/
def writeFraction : Option (List Char) → List Char
  | none => []
  | some digits => '.' :: digits

/-- An exponent as it is written, with its sign. -/
def writeExponent : Option (Bool × List Char) → List Char
  | none => []
  | some (negative, digits) => 'e' :: (if negative then '-' else '+') :: digits

/-- The word of a numeral. -/
def write (n : Numeral) : List Char :=
  writeSign n.negative ++ (n.whole ++ (writeFraction n.fraction ++ writeExponent n.exponent))

/-- The value of an exponent. -/
def exponentValue (e : Bool × List Char) : Int :=
  if e.1 then -(Nat.ofDigitChars 10 e.2 0 : Int) else Nat.ofDigitChars 10 e.2 0

/-- The literal of a numeral. -/
def literal (n : Numeral) : Literal :=
  ⟨n.negative, n.whole, n.fraction, n.exponent.map exponentValue⟩

/-- A numeral has digits where it has to, no leading zero, and no exponent past the limit. -/
structure WellFormed (n : Numeral) : Prop where
  whole : Digits n.whole
  leading : n.whole.length = 1 ∨ n.whole.head? ≠ some '0'
  fraction : ∀ digits ∈ n.fraction, Digits digits
  exponent : ∀ e ∈ n.exponent, Digits e.2 ∧ Nat.ofDigitChars 10 e.2 0 ≤ exponentLimit

end Numeral

namespace Literal

theorem digitsValue_eq {s : List Char} (h : ∀ c ∈ s, c.isDigit = true) (start : Nat) :
    Text.digitsValue 10 start s = Nat.ofDigitChars 10 s start := by
  induction s generalizing start with
  | nil => rfl
  | cons c rest ih =>
    obtain ⟨hc, hrest⟩ := List.forall_mem_cons.mp h
    have hvalue : (Text.hexDigitValue? c).getD 0 = c.toNat - 48 := by
      simp [Text.hexDigitValue?, hc]
    rw [Nat.ofDigitChars_cons, ← ih hrest, Text.digitsValue, List.foldl_cons, hvalue,
      Nat.mul_comm start]
    rfl

theorem unsigned?_of_digits {s : List Char} (h : Digits s)
    (hlimit : Nat.ofDigitChars 10 s 0 ≤ exponentLimit) :
    exponent?.unsigned? s = some (Nat.ofDigitChars 10 s 0 : Int) := by
  have hvalue : Text.cappedValue 10 exponentLimit s = Nat.ofDigitChars 10 s 0 := by
    rw [Text.cappedValue_eq (by decide), digitsValue_eq h.digit, Nat.min_eq_right hlimit]
  have hall : (!s.isEmpty && s.all Char.isDigit) = true := by
    simpa using And.intro h.nonempty h.digit
  rw [exponent?.unsigned?, if_pos hall, hvalue]

theorem exponent?_of_digits {e : Bool × List Char} (h : Digits e.2)
    (hlimit : Nat.ofDigitChars 10 e.2 0 ≤ exponentLimit) :
    exponent? ((if e.1 then '-' else '+') :: e.2) = some (Numeral.exponentValue e) := by
  obtain ⟨negative, digits⟩ := e
  cases negative with
  | false => exact unsigned?_of_digits h hlimit
  | true =>
    change (exponent?.unsigned? digits).map (- ·) = _
    rw [unsigned?_of_digits h hlimit]
    rfl

/-- Digits are followed by no digit. -/
theorem takeWhile_digits {s rest : List Char} (h : ∀ c ∈ s, c.isDigit = true)
    (hrest : ∀ c, rest.head? = some c → c.isDigit = false) :
    (s ++ rest).takeWhile Char.isDigit = s ∧ (s ++ rest).dropWhile Char.isDigit = rest := by
  have htake := Text.takeWhile_append_of_stop h hrest
  refine ⟨htake, ?_⟩
  have hsplit := List.takeWhile_append_dropWhile (p := Char.isDigit) (l := s ++ rest)
  rw [htake] at hsplit
  exact List.append_cancel_left hsplit

theorem head?_writeExponent (e : Option (Bool × List Char)) (c : Char)
    (h : (Numeral.writeExponent e).head? = some c) : c.isDigit = false := by
  cases e with
  | none => cases h
  | some e =>
    cases h
    rfl

theorem head?_writeFraction (f : Option (List Char)) (e : Option (Bool × List Char)) (c : Char)
    (h : (Numeral.writeFraction f ++ Numeral.writeExponent e).head? = some c) :
    c.isDigit = false := by
  cases f with
  | none => exact head?_writeExponent e c h
  | some digits =>
    cases h
    rfl

theorem takeSign_writeSign (negative : Bool) {rest : List Char}
    (h : ∀ c, rest.head? = some c → c.isDigit = true) :
    takeSign (Numeral.writeSign negative ++ rest) = (negative, rest) := by
  cases negative with
  | true => rfl
  | false =>
    cases rest with
    | nil => rfl
    | cons c rest =>
      have hne : c ≠ '-' := by
        rintro rfl
        exact absurd (h '-' rfl) (by decide)
      simp [Numeral.writeSign, takeSign, hne]

theorem takeFraction?_writeFraction {f : Option (List Char)} (h : ∀ digits ∈ f, Digits digits)
    (e : Option (Bool × List Char)) :
    takeFraction? (Numeral.writeFraction f ++ Numeral.writeExponent e) =
      some (f, Numeral.writeExponent e) := by
  cases f with
  | none => cases e <;> rfl
  | some digits =>
    have hdigits := h digits rfl
    obtain ⟨htake, hdrop⟩ := takeWhile_digits hdigits.digit (head?_writeExponent e)
    have hne : digits.isEmpty = false := by simpa using hdigits.nonempty
    simp [Numeral.writeFraction, takeFraction?, htake, hdrop, hne]

theorem takeExponent?_writeExponent {e : Option (Bool × List Char)}
    (h : ∀ e' ∈ e, Digits e'.2 ∧ Nat.ofDigitChars 10 e'.2 0 ≤ exponentLimit) :
    takeExponent? (Numeral.writeExponent e) = some (e.map Numeral.exponentValue) := by
  cases e with
  | none => rfl
  | some e =>
    obtain ⟨hdigits, hlimit⟩ := h e rfl
    rw [Numeral.writeExponent, takeExponent?, if_pos (by decide),
      exponent?_of_digits hdigits hlimit]
    rfl

/-- A word is split into the parts that it was made of. -/
theorem ofWord?_write {n : Numeral} (h : n.WellFormed) : ofWord? n.write = some n.literal := by
  obtain ⟨htake, hdrop⟩ := takeWhile_digits h.whole.digit
    (head?_writeFraction n.fraction n.exponent)
  have hstart : ∀ c, (n.whole ++ (Numeral.writeFraction n.fraction ++
      Numeral.writeExponent n.exponent)).head? = some c → c.isDigit = true := by
    intro c hc
    obtain ⟨d, rest, hwhole⟩ := List.exists_cons_of_ne_nil h.whole.nonempty
    rw [hwhole] at hc
    cases hc
    exact h.whole.digit c (hwhole ▸ List.mem_cons_self)
  have hleading : (!n.whole.isEmpty &&
      (n.whole.length == 1 || n.whole.head? != some '0')) = true := by
    simpa using And.intro h.whole.nonempty h.leading
  unfold ofWord?
  rw [Numeral.write, takeSign_writeSign _ hstart]
  dsimp only
  rw [htake, hdrop, hleading, takeFraction?_writeFraction h.fraction]
  change (takeExponent? (Numeral.writeExponent n.exponent)).bind _ = _
  rw [takeExponent?_writeExponent h.exponent]
  rfl

end Literal

end DocumentGateway.Json

import DocumentGateway.Proofs.Access.Login

/-!
# What an `Authorization` header offers

A value is of the scheme Basic if what stands before its first space is the word, whatever the case
of its letters. Such a value presents a name without a colon and a password if the rest of it,
blanks around it apart, is the base64 of the two around a colon. These are exactly the credentials
that are read from a header. A value of another scheme offers none, and neither does one without a
space; but only if it counts as text. A value that does not is a failed attempt, whatever its
scheme, so that its request is refused where one without a header would be admitted.
-/

namespace DocumentGateway.Access

namespace Credentials

open Text (splitFirst ofCodes)

/-- A value counts as text. -/
def IsText (value : Http.HeaderValue) : Prop := value.bytes.all Http.isTextByte = true

/-- A value is of the scheme Basic, and something follows its first space. -/
inductive IsBasic (value : Http.HeaderValue) (rest : List Char) : Prop
  | intro {scheme : List Char} (chars : ofCodes value.bytes = scheme ++ ' ' :: rest)
      (first : ' ' ∉ scheme) (word : scheme.map Char.toLower = "basic".toList) :
      IsBasic value rest

/-- Some characters are the base64 of the two parts of credentials around a colon, blanks around it
apart, and the colon is the first. -/
structure Spells (c : Credentials) (chars : List Char) : Prop where
  /-- The base64 stands between blanks. -/
  between : ∃ before after,
    chars = before ++ Text.Base64.encode (Text.Utf8.encode (c.userid ++ ":" ++ c.password)) ++
        after ∧
      (∀ ch ∈ before, ch = ' ' ∨ ch = '\t') ∧ ∀ ch ∈ after, ch = ' ' ∨ ch = '\t'
  /-- No colon stands before the one between the parts. -/
  plain : ':' ∉ c.userid.toList

/-- A value of the scheme Basic presents credentials. -/
def Presents (value : Http.HeaderValue) (c : Credentials) : Prop :=
  ∃ rest, IsBasic value rest ∧ c.Spells rest

variable {value : Http.HeaderValue} {c : Credentials} {text : String} {chars rest : List Char}

/-- The parts of credentials stand around the first colon. -/
theorem ofPair?_eq_some_iff :
    ofPair? chars = some c ↔
      chars = (c.userid ++ ":" ++ c.password).toList ∧ ':' ∉ c.userid.toList := by
  constructor
  · intro h
    obtain ⟨⟨userid, password⟩, hsplit, rfl⟩ := Option.map_eq_some_iff.mp h
    obtain ⟨hchars, hplain⟩ := Text.splitFirst_eq_some_iff.mp hsplit
    refine ⟨?_, String.toList_ofList ▸ hplain⟩
    simp [hchars]
  · rintro ⟨rfl, hplain⟩
    exact ofPair?_of_colon hplain c.password

/-- The credentials that are read are those that are spelled. -/
theorem ofEncoded?_eq_some_iff : ofEncoded? chars = some c ↔ c.Spells chars := by
  -- The written form of no bytes holds a blank, so trimming leaves exactly it.
  have htrim : ∀ bytes, Text.trim (fun ch => ch = ' ' || ch = '\t') chars =
      Text.Base64.encode bytes ↔ ∃ before after,
        chars = before ++ Text.Base64.encode bytes ++ after ∧
        (∀ ch ∈ before, ch = ' ' ∨ ch = '\t') ∧ ∀ ch ∈ after, ch = ' ' ∨ ch = '\t' := by
    intro bytes
    simpa using Text.trim_eq_iff_of_kept fun ch hch => (Text.Base64.plain_of_mem_encode hch).2
  constructor
  · intro h
    obtain ⟨bytes, hbytes, h⟩ := Option.bind_eq_some_iff.mp h
    obtain ⟨read, hread, hpair⟩ := Option.bind_eq_some_iff.mp h
    obtain ⟨rfl, hplain⟩ := ofPair?_eq_some_iff.mp hpair
    obtain rfl := Text.Utf8.decode?_eq_some_iff.mp hread
    have hwritten := Text.Base64.decode?_eq_some_iff.mp hbytes
    rw [String.ofList_toList] at hwritten
    exact ⟨(htrim _).mp hwritten, hplain⟩
  · rintro ⟨hbetween, hplain⟩
    simp only [ofEncoded?, (htrim _).mpr hbetween, Text.Base64.decode?_encode,
      Text.Utf8.decode?_encode, Option.bind_eq_bind, Option.bind_some]
    exact ofPair?_of_colon hplain c.password

/-- The scheme is looked for before the first space. -/
theorem isBasic_iff :
    IsBasic value rest ↔ ∃ scheme,
      splitFirst (· = ' ') (ofCodes value.bytes) = some (scheme, rest) ∧
      Text.sameIgnoringCase (String.ofList scheme) "basic" = true := by
  have hword : ∀ scheme : List Char, Text.sameIgnoringCase (String.ofList scheme) "basic" = true ↔
      scheme.map Char.toLower = "basic".toList := by
    intro scheme
    have hlower : Text.lower "basic" = "basic" := by decide
    rw [Text.sameIgnoringCase, hlower, beq_iff_eq, Text.lower, String.toList_ofList,
      ← String.toList_inj, String.toList_ofList]
  simp only [Text.splitFirst_eq_some_iff, hword]
  constructor
  · rintro ⟨hsplit, hfirst, hbasic⟩
    exact ⟨_, ⟨hsplit, hfirst⟩, hbasic⟩
  · rintro ⟨scheme, ⟨hsplit, hfirst⟩, hbasic⟩
    exact ⟨hsplit, hfirst, hbasic⟩

/-- Whether a value is of the scheme Basic is decided by what stands before its first space. -/
theorem not_isBasic_of_all (h : ((splitFirst (· = ' ') (ofCodes value.bytes)).all fun parts =>
      !Text.sameIgnoringCase (String.ofList parts.1) "basic") = true) :
    ∀ rest, ¬IsBasic value rest := by
  intro rest hbasic
  obtain ⟨scheme, hsplit, hword⟩ := isBasic_iff.mp hbasic
  simp [hsplit, hword] at h

/-- A value that presents credentials is text. -/
theorem Presents.isText (h : Presents value c) : IsText value := by
  obtain ⟨rest, ⟨hchars, -, hword⟩, ⟨before, after, rfl, hbefore, hafter⟩, -⟩ := h
  have hletter : ∀ b : UInt8, (Char.ofNat b.toNat).toLower ∈ "basic".toList →
      Http.isTextByte b = true :=
    Text.forall_byte (by decide +kernel)
  have hblank : ∀ ch, ch = ' ' ∨ ch = '\t' → Http.isTextChar ch = true := by
    rintro ch (rfl | rfl) <;> rfl
  refine List.all_eq_true.mpr fun b hb => ?_
  have hmem : Char.ofNat b.toNat ∈ ofCodes value.bytes := List.mem_map_of_mem hb
  simp only [hchars, List.mem_append, List.mem_cons] at hmem
  rcases hmem with hscheme | hspace | (hmem | hcode) | hmem
  · exact hletter b (hword ▸ List.mem_map_of_mem hscheme)
  all_goals rw [Http.isTextByte_eq_isTextChar]
  · exact hblank _ (.inl hspace)
  · exact hblank _ (hbefore _ hmem)
  · exact (Text.Base64.plain_of_mem_encode hcode).1
  · exact hblank _ (hafter _ hmem)

section

variable (htext : value.text? = some text)

include htext

/-- A value of the scheme Basic offers what the rest of it spells, or is a failed attempt. -/
theorem ofValue_of_isBasic (h : IsBasic value rest) :
    ofValue value = (ofEncoded? rest).elim (.error .malformed) fun c => .ok (some c) := by
  obtain ⟨scheme, hsplit, hbasic⟩ := isBasic_iff.mp h
  rw [← (Http.HeaderValue.text?_eq_some_iff.mp htext).2] at hsplit
  simp only [ofValue, htext, hsplit, hbasic]
  cases ofEncoded? rest <;> rfl

/-- A value that is text and of no scheme or another offers nothing. -/
theorem ofValue_of_not_isBasic (h : ∀ rest, ¬IsBasic value rest) : ofValue value = .ok none := by
  have hchars := (Http.HeaderValue.text?_eq_some_iff.mp htext).2
  cases hsplit : splitFirst (· = ' ') text.toList with
  | none => simp only [ofValue, htext, hsplit]
  | some parts =>
    obtain ⟨scheme, rest⟩ := parts
    have hother : Text.sameIgnoringCase (String.ofList scheme) "basic" = false :=
      Bool.eq_false_iff.mpr fun hbasic =>
        h rest (isBasic_iff.mpr ⟨scheme, hchars ▸ hsplit, hbasic⟩)
    simp only [ofValue, htext, hsplit, hother]
    rfl

end

/-- A value that is no text is a failed attempt. -/
theorem ofValue_of_not_isText (h : ¬IsText value) : ofValue value = .error .malformed := by
  have hnone : value.text? = none := if_neg h
  simp only [ofValue, hnone]

/-- What a value presents is offered. -/
theorem ofValue_of_presents (h : Presents value c) : ofValue value = .ok (some c) := by
  have htext : value.text? = some (String.ofList (ofCodes value.bytes)) := if_pos h.isText
  obtain ⟨rest, hbasic, hspells⟩ := h
  rw [ofValue_of_isBasic htext hbasic, ofEncoded?_eq_some_iff.mpr hspells]
  rfl

/-- A value of the scheme Basic that presents no credentials is a failed attempt. -/
theorem ofValue_of_not_presents (hbasic : IsBasic value rest) (h : ∀ c, ¬Presents value c) :
    ofValue value = .error .malformed := by
  by_cases htext : IsText value
  · have hnone : ofEncoded? rest = none :=
      Option.eq_none_iff_forall_ne_some.mpr fun c hc =>
        h c ⟨rest, hbasic, ofEncoded?_eq_some_iff.mp hc⟩
    rw [ofValue_of_isBasic (if_pos htext) hbasic, hnone]
    rfl
  · exact ofValue_of_not_isText htext

/-- What the headers of a request offer, by what their first `Authorization` value says. -/
inductive Offers (headers : Http.Headers) : Except Unreadable (Option Credentials) → Prop
  /-- There is no value. -/
  | absent (first : headers.first? "authorization" = none) : Offers headers (.ok none)
  /-- The value is text without a scheme, or of another scheme. -/
  | foreign {value : Http.HeaderValue} (first : headers.first? "authorization" = some value)
      (text : IsText value) (other : ∀ rest, ¬IsBasic value rest) : Offers headers (.ok none)
  /-- The value presents credentials. -/
  | presented {value : Http.HeaderValue} {c : Credentials}
      (first : headers.first? "authorization" = some value) (presents : Presents value c) :
      Offers headers (.ok (some c))
  /-- The value is of the scheme Basic and presents no credentials. -/
  | garbled {value : Http.HeaderValue} {rest : List Char}
      (first : headers.first? "authorization" = some value) (basic : IsBasic value rest)
      (none : ∀ c, ¬Presents value c) : Offers headers (.error .malformed)
  /-- The value is no text. -/
  | notText {value : Http.HeaderValue} (first : headers.first? "authorization" = some value)
      (bytes : ¬IsText value) : Offers headers (.error .malformed)

section

variable {headers : Http.Headers} {offer : Except Unreadable (Option Credentials)}

theorem ofHeaders_of_first? (h : headers.first? "authorization" = some value) :
    ofHeaders headers = ofValue value := by
  simp only [ofHeaders, h]

theorem Offers.eq (h : Offers headers offer) : ofHeaders headers = offer := by
  cases h with
  | absent first => simp only [ofHeaders, first]
  | foreign first text other =>
    rw [ofHeaders_of_first? first, ofValue_of_not_isBasic (if_pos text) other]
  | presented first presents => rw [ofHeaders_of_first? first, ofValue_of_presents presents]
  | garbled first basic none =>
    rw [ofHeaders_of_first? first, ofValue_of_not_presents basic none]
  | notText first bytes => rw [ofHeaders_of_first? first, ofValue_of_not_isText bytes]

/-- Every request offers something in one of these ways. -/
theorem exists_offers (headers : Http.Headers) : ∃ offer, Offers headers offer := by
  cases first : headers.first? "authorization" with
  | none => exact ⟨_, .absent first⟩
  | some value =>
    by_cases text : IsText value
    · by_cases basic : ∃ rest, IsBasic value rest
      · obtain ⟨rest, basic⟩ := basic
        by_cases presents : ∃ c, Presents value c
        · obtain ⟨c, presents⟩ := presents
          exact ⟨_, .presented first presents⟩
        · exact ⟨_, .garbled first basic (not_exists.mp presents)⟩
      · exact ⟨_, .foreign first text (not_exists.mp basic)⟩
    · exact ⟨_, .notText first text⟩

/-- What is read from the headers is what they offer. -/
theorem ofHeaders_eq_iff : ofHeaders headers = offer ↔ Offers headers offer := by
  constructor
  · rintro rfl
    obtain ⟨offer, hoffers⟩ := exists_offers headers
    rwa [hoffers.eq]
  · exact Offers.eq

end

end Credentials

open Credentials in
/-- Credentials are read from the headers of a request exactly if the first `Authorization` value
presents them. None are offered exactly if there is no value, or the value is text and of no scheme
or another than Basic. The attempt fails exactly if the value is of the scheme Basic and presents no
credentials, or if it is no text. -/
theorem authorization_classified (headers : Http.Headers) :
    (∀ c, ofHeaders headers = .ok (some c) ↔
      ∃ value, headers.first? "authorization" = some value ∧ Presents value c) ∧
    (ofHeaders headers = .ok none ↔
      ∀ value, headers.first? "authorization" = some value →
        IsText value ∧ ∀ rest, ¬IsBasic value rest) ∧
    (ofHeaders headers = .error .malformed ↔
      ∃ value, headers.first? "authorization" = some value ∧
        ((∃ rest, IsBasic value rest) ∧ (∀ c, ¬Presents value c) ∨ ¬IsText value)) := by
  refine ⟨fun c => ofHeaders_eq_iff.trans ⟨?_, ?_⟩, ofHeaders_eq_iff.trans ⟨?_, ?_⟩,
    ofHeaders_eq_iff.trans ⟨?_, ?_⟩⟩
  · rintro ⟨⟩
    rename_i value first presents
    exact ⟨value, first, presents⟩
  · rintro ⟨value, first, presents⟩
    exact .presented first presents
  · intro h value hfirst
    cases h with
    | absent first => cases first.symm.trans hfirst
    | foreign first text other =>
      cases first.symm.trans hfirst
      exact ⟨text, other⟩
  · intro h
    cases first : headers.first? "authorization" with
    | none => exact .absent first
    | some value =>
      obtain ⟨text, other⟩ := h value first
      exact .foreign first text other
  · intro h
    cases h with
    | garbled first basic none => exact ⟨_, first, .inl ⟨⟨_, basic⟩, none⟩⟩
    | notText first bytes => exact ⟨_, first, .inr bytes⟩
  · rintro ⟨value, first, ⟨⟨rest, basic⟩, none⟩ | bytes⟩
    · exact .garbled first basic none
    · exact .notText first bytes

open Credentials in
/-- A value of another scheme and one without a space may be failed attempts, as they may hold bytes
that are no text. Then a request is refused that everybody may make. -/
theorem foreign_scheme_is_refused :
    let bearer : Http.HeaderValue := { bytes := Text.Utf8.encode "Bearer é" }
    let spaceless : Http.HeaderValue := { bytes := Text.Utf8.encode "é" }
    let r : Rules := ⟨"docgate", [], [⟨anonymousRole, "/", []⟩]⟩
    ((∀ rest, ¬IsBasic bearer rest) ∧ ∀ rest, ¬IsBasic spaceless rest) ∧
      ofHeaders (authorized bearer) = .error .malformed ∧
      ofHeaders (authorized spaceless) = .error .malformed ∧
      r.judge [] .get "/shop" = .admitted none ∧
      r.judge (authorized bearer) .get "/shop" = .unauthenticated ∧
      r.judge (authorized spaceless) .get "/shop" = .unauthenticated := by
  intro bearer spaceless r
  exact ⟨⟨not_isBasic_of_all (by decide +kernel), not_isBasic_of_all (by decide +kernel)⟩,
    by decide +kernel⟩

end DocumentGateway.Access

import DocumentGateway.Flow.Context
import DocumentGateway.Proofs.Flow.Address
import DocumentGateway.Proofs.Http.Header
import DocumentGateway.Proofs.Http.Uri
import DocumentGateway.Proofs.Text.Percent

/-!
# Escaped names are addressed

Every list of names that are not empty is addressed by a path, whatever characters the names hold:
each name is escaped by itself, and slashes stand before it and after the last one, as many as one
likes. Whoever reads the path gets the names back, since an escape never holds a slash, and the
resource follows from how many there are and from how the second one ends.
-/

namespace DocumentGateway.Flow

open Http (Exchange Uri)
open Text.Percent (Spells isUnreserved)

/-- What stands between the slashes of a path, where anything stands there. -/
def sentSegments (path : List Char) : List (List Char) :=
  (Text.splitAll (· = '/') path).filter fun s => !s.isEmpty

theorem segments_ofList (path : List Char) :
    segments (String.ofList path) = (sentSegments path).map decodeSegment := by
  rw [segments, String.toList_ofList, sentSegments]

/-- At a slash the segments fall into those before and those after it. -/
theorem sentSegments_append_slash (before after : List Char) :
    sentSegments (before ++ '/' :: after) = sentSegments before ++ sentSegments after := by
  rw [sentSegments, @Text.splitAll_append_cons Char (· = '/') '/' rfl, List.filter_append]
  rfl

theorem sentSegments_slash (rest : List Char) : sentSegments ('/' :: rest) = sentSegments rest :=
  sentSegments_append_slash [] rest

theorem sentSegments_slashes (n : Nat) (rest : List Char) :
    sentSegments (List.replicate n '/' ++ rest) = sentSegments rest := by
  induction n with
  | zero => rfl
  | succ n ih =>
    rw [List.replicate_succ, List.cons_append, sentSegments_slash, ih]

/-- A segment that is not empty is read up to the next slash. -/
theorem sentSegments_append {segment rest : List Char} (hsegment : segment ≠ [])
    (hslash : '/' ∉ segment) (hrest : Text.EndsPiece '/' rest) :
    sentSegments (segment ++ rest) = segment :: sentSegments rest := by
  have hone : sentSegments segment = [segment] := by
    simp [sentSegments, Text.splitAll_of_not_mem hslash, hsegment]
  cases rest with
  | nil =>
    rw [List.append_nil, hone]
    rfl
  | cons c rest =>
    obtain rfl := hrest.eq_of_head c rfl
    rw [sentSegments_append_slash, hone, sentSegments_slash]
    rfl

/-- A path in which some names are escaped one by one, with slashes before each and after the
last. -/
inductive Spelled : List String → List Char → Prop
  | slashes (n : Nat) : Spelled [] (List.replicate n '/')
  | name (n : Nat) {name : String} {names : List String} {escaped : Bytes} {rest : List Char}
      (hname : name ≠ "") (hescaped : Spells (Text.Utf8.encode name) escaped)
      (h : Spelled names rest) :
      Spelled (name :: names) (List.replicate (n + 1) '/' ++ (Text.ofCodes escaped ++ rest))

/-- What stands in an escaped name: ASCII characters of a path, and no slash. -/
theorem of_isEscaped {b : UInt8} (h : b = 0x25 ∨ isUnreserved b = true) :
    b < 0x80 ∧ Uri.isPathChar (Char.ofNat b.toNat) = true ∧ Char.ofNat b.toNat ≠ '/' := by
  have hbytes : ∀ c : UInt8, c = 0x25 ∨ isUnreserved c = true →
      c < 0x80 ∧ Uri.isPathChar (Char.ofNat c.toNat) = true ∧ Char.ofNat c.toNat ≠ '/' :=
    Text.forall_byte (by decide +kernel)
  exact hbytes b h

section

variable {name : String} {escaped : Bytes}

/-- An escaped name stands for the name. -/
theorem decodeSegment_of_spells (h : Spells (Text.Utf8.encode name) escaped) :
    decodeSegment (Text.ofCodes escaped) = name := by
  have hascii : ∀ b ∈ escaped, b < 0x80 := fun b hb => (of_isEscaped (h.eq_or_isUnreserved b hb)).1
  have htext : Text.Utf8.decodeText? (Text.Utf8.encode name) = some name := by
    rw [Text.Utf8.decodeText?, Text.Utf8.decode?_encode, Option.map_some, String.ofList_toList]
  rw [decodeSegment, Text.Utf8.encode_of_ascii hascii, Text.Percent.decode_of_spells h, htext,
    Option.getD_some]

theorem ofCodes_ne_nil (hname : name ≠ "") (h : Spells (Text.Utf8.encode name) escaped) :
    Text.ofCodes escaped ≠ [] := by
  intro hempty
  obtain rfl := List.map_eq_nil_iff.mp hempty
  generalize hbytes : Text.Utf8.encode name = bytes at h
  cases h
  exact hname (Http.encode_injective hbytes)

/-- Whatever characters an escaped name holds may stand in a path, and do not cut it. -/
theorem of_mem_ofCodes (h : Spells (Text.Utf8.encode name) escaped) :
    ∀ c ∈ Text.ofCodes escaped, Uri.isPathChar c = true ∧ c ≠ '/' := by
  intro c hc
  obtain ⟨b, hb, rfl⟩ := List.mem_map.mp hc
  exact (of_isEscaped (h.eq_or_isUnreserved b hb)).2

end

section

variable {names : List String} {path : List Char}

theorem Spelled.endsPiece (h : Spelled names path) : Text.EndsPiece '/' path := by
  cases h with
  | slashes n =>
    cases n with
    | zero => exact .inl rfl
    | succ n => exact .inr rfl
  | name n => exact .inr rfl

theorem Spelled.isPathChar (h : Spelled names path) : ∀ c ∈ path, Uri.isPathChar c = true := by
  have hslashes : ∀ (n : Nat), ∀ c ∈ List.replicate n '/', Uri.isPathChar c = true := by
    intro n c hc
    obtain rfl := List.eq_of_mem_replicate hc
    decide
  induction h with
  | slashes n => exact hslashes n
  | name n _ hescaped _ ih =>
    intro c hc
    rcases List.mem_append.mp hc with hc | hc
    · exact hslashes _ c hc
    rcases List.mem_append.mp hc with hc | hc
    · exact (of_mem_ofCodes hescaped c hc).1
    · exact ih c hc

/-- The names that a path spells are its segments. -/
theorem Spelled.segments (h : Spelled names path) : segments (String.ofList path) = names := by
  rw [segments_ofList]
  induction h with
  | slashes n =>
    have hnone := sentSegments_slashes n []
    rw [List.append_nil] at hnone
    rw [hnone]
    rfl
  | name n hname hescaped hrest ih =>
    have hslash : '/' ∉ Text.ofCodes _ := fun hc => (of_mem_ofCodes hescaped _ hc).2 rfl
    rw [sentSegments_slashes, sentSegments_append (ofCodes_ne_nil hname hescaped) hslash
      hrest.endsPiece, List.map_cons, decodeSegment_of_spells hescaped, ih]

end

/-- A path is a slash and its segments with slashes between them. -/
theorem joinPath_eq_intercalate (names : List String) :
    joinPath names = "/" ++ "/".intercalate names := by
  apply String.toList_injective
  rw [String.toList_append, String.toList_intercalate]
  cases names with
  | nil => rfl
  | cons name rest =>
    have hjoin : joinPath (name :: rest) =
        String.ofList ((name :: rest).flatMap fun s => '/' :: s.toList) := rfl
    rw [hjoin, String.toList_ofList]
    induction rest generalizing name with
    | nil => simp
    | cons next rest ih =>
      have hrest := ih next rfl
      simp only [List.flatMap_cons, List.map_cons, List.intercalate_cons_cons] at hrest ⊢
      rw [hrest]
      simp

/-- What some names address: how many there are decides, and how the second one ends. -/
inductive Addresses : List String → Resource → Prop
  | root : Addresses [] .root
  | db (db : String) : Addresses [db] .db
  | collection (db : String) {name : String} (h : ¬".files".toList <:+ name.toList) :
      Addresses [db, name] .collection
  | filesBucket (db : String) {name : String} (h : ".files".toList <:+ name.toList) :
      Addresses [db, name] .filesBucket
  | document (db : String) {name : String} (h : ¬".files".toList <:+ name.toList) (id : String) :
      Addresses [db, name, id] .document
  | file (db : String) {name : String} (h : ".files".toList <:+ name.toList) (id : String) :
      Addresses [db, name, id] .file
  | invalid {names : List String} (h : 3 < names.length) : Addresses names .invalid

/-- A context of a request that addresses the resource with given names. -/
structure Resolved (names : List String) (c : Context) : Prop where
  db : c.db = names.head?.getD ""
  collection : c.collection = names[1]?
  document : c.documentId = names[2]?
  path : c.path = "/" ++ "/".intercalate names
  resource : Addresses names c.resource

theorem addresses_ofSegments (names : List String) :
    Addresses names (Resource.ofSegments names) := by
  match names with
  | [] => exact .root
  | [db] => exact .db db
  | [db, name] =>
    simp only [Resource.ofSegments, isFilesBucket, List.isSuffixOf_iff_suffix]
    split
    · exact .filesBucket db ‹_›
    · exact .collection db ‹_›
  | [db, name, id] =>
    simp only [Resource.ofSegments, isFilesBucket, List.isSuffixOf_iff_suffix]
    split
    · exact .file db ‹_› id
    · exact .document db ‹_› id
  | _ :: _ :: _ :: _ :: rest => exact .invalid (by simp)

theorem resolved_ofExchange (x : Exchange) (policy : EtagPolicy) :
    Resolved (Flow.segments x.request.uri.path) (Context.ofExchange x policy) :=
  ⟨rfl, rfl, rfl, joinPath_eq_intercalate _, addresses_ofSegments _⟩

/-- A path that spells some names is a target, unless it is too long, and every request for this
path addresses the resource with these names. -/
theorem resolved_of_spelled {names : List String} {rest : List Char}
    (h : Spelled names ('/' :: rest)) :
    Uri.ofText? (String.ofList ('/' :: rest)) =
        (if Uri.maxBytes < (Text.Utf8.encode (String.ofList ('/' :: rest))).length then none
          else some ⟨none, none, String.ofList ('/' :: rest), none⟩) ∧
      ∀ (x : Exchange) (policy : EtagPolicy),
        x.request.uri.path = String.ofList ('/' :: rest) →
          Resolved names (Context.ofExchange x policy) := by
  constructor
  · exact Uri.ofText?_of_path fun c hc => h.isPathChar c (List.mem_cons_of_mem _ hc)
  · intro x policy hpath
    have hresolved := resolved_ofExchange x policy
    rwa [hpath, h.segments] at hresolved

/-- Names with a slash, a percent sign, a point and a letter outside ASCII. -/
def markedNames : List String := ["a/b", "100%.files", "ü"]

/-- What follows the first slash where the marked names are spelled. -/
def markedPath : List Char := "/a%2Fb///100%25.files/%C3%BC//".toList

/-- A request for the path that spells the marked names. -/
def markedExchange : Exchange :=
  .ofRequest ⟨⟨.get, ⟨none, none, String.ofList ('/' :: markedPath), none⟩, []⟩, .ofBytes []⟩

theorem spelled_markedPath : Spelled markedNames ('/' :: markedPath) := by
  have hspelled : Spelled markedNames _ :=
    .name 1 (by decide) (Text.Percent.spells_encode _)
      (.name 2 (by decide) (Text.Percent.spells_encode _)
        (.name 0 (by decide) (Text.Percent.spells_encode _) (.slashes 2)))
  refine (congrArg (Spelled markedNames) ?_).mpr hspelled
  decide +kernel

/-- The marked names are addressed by a path that spells them. -/
theorem resolved_of_marked :
    Spelled markedNames ('/' :: markedPath) ∧
      Uri.ofText? (String.ofList ('/' :: markedPath)) = some markedExchange.request.uri ∧
      Resolved markedNames (Context.ofExchange markedExchange .required) ∧
      (Context.ofExchange markedExchange .required).resource = .file := by
  obtain ⟨htarget, hresolved⟩ := resolved_of_spelled spelled_markedPath
  have hmarked := hresolved markedExchange .required rfl
  refine ⟨spelled_markedPath, htarget.trans (if_neg (by decide +kernel)), hmarked, ?_⟩
  have hresource := hmarked.resource
  generalize (Context.ofExchange markedExchange .required).resource = resource at hresource
  cases hresource with
  | document _ h => exact absurd (by decide) h
  | file => rfl
  | invalid h => exact absurd h (by decide)

end DocumentGateway.Flow

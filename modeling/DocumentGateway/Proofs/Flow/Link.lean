import DocumentGateway.Flow.Hal
import DocumentGateway.Proofs.Flow.Resolution

/-!
# Where a link leads

The link of a database is its path as it was read: the unescaped name after a slash. To follow it is
to read it as a target, which ends the path at a question mark or a number sign, cuts it at slashes
and undoes escapes. None of these steps makes a name longer. So a link whose name is no longer than
that of the database leads to it only if every step leaves the name as it is.
-/

namespace DocumentGateway.Flow

open Http (Exchange Uri)

/-- Whoever follows a link asks for a database. -/
def LeadsTo (href db : String) : Prop :=
  ∃ uri, Uri.ofText? href = some uri ∧
    ∀ (x : Exchange) (policy : EtagPolicy), x.request.uri = uri →
      (Context.ofExchange x policy).resource = .db ∧ (Context.ofExchange x policy).db = db

/-- A name that may stand in a path as it is. -/
structure PathSafe (name : String) : Prop where
  named : name ≠ ""
  chars : ∀ c ∈ name.toList, Uri.isPathChar c = true
  unsplit : '/' ∉ name.toList
  unescaped : decodeSegment name.toList = name
  short : (Text.Utf8.encode name).length < Uri.maxBytes

variable {href db : String} {body : List Char}

theorem eq_singleton_of_db {names : List String} (h : Resource.ofSegments names = .db) :
    ∃ name, names = [name] := by
  have haddresses := addresses_ofSegments names
  rw [h] at haddresses
  cases haddresses with
  | db name => exact ⟨name, rfl⟩

/-- A link leads to the database that is the one segment of its path. -/
theorem leadsTo_iff :
    LeadsTo href db ↔ ∃ uri, Uri.ofText? href = some uri ∧ segments uri.path = [db] := by
  constructor
  · rintro ⟨uri, huri, hleads⟩
    let followed : Exchange := .ofRequest ⟨⟨.get, uri, []⟩, .ofBytes []⟩
    obtain ⟨hresource, hdb⟩ := hleads followed .required rfl
    change Resource.ofSegments (segments uri.path) = .db at hresource
    change (segments uri.path).head?.getD "" = db at hdb
    obtain ⟨name, hname⟩ := eq_singleton_of_db hresource
    rw [hname] at hdb
    exact ⟨uri, huri, hname.trans (congrArg ([·]) hdb)⟩
  · rintro ⟨uri, huri, hsegments⟩
    refine ⟨uri, huri, fun x policy hx => ?_⟩
    simp only [Context.ofExchange, hx, hsegments]
    exact ⟨rfl, rfl⟩

/-! The length of a text in bytes. -/

/-- How many bytes some characters have. -/
def byteLength (chars : List Char) : Nat := (Text.Utf8.encode (String.ofList chars)).length

theorem byteLength_toList (s : String) : byteLength s.toList = (Text.Utf8.encode s).length := by
  rw [byteLength, String.ofList_toList]

theorem byteLength_cons (c : Char) (rest : List Char) :
    byteLength (c :: rest) = c.utf8Size + byteLength rest := by
  simp [byteLength, Text.Utf8.encode]

theorem byteLength_le_of_sublist {shorter longer : List Char} (h : shorter.Sublist longer) :
    byteLength shorter ≤ byteLength longer := by
  induction h with
  | slnil => exact Nat.le_refl _
  | cons c _ ih =>
    rw [byteLength_cons]
    exact Nat.le_add_left_of_le ih
  | cons_cons c _ ih =>
    rw [byteLength_cons, byteLength_cons]
    exact Nat.add_le_add_left ih _

/-- Characters picked from others are all of them if they have as many bytes. -/
theorem eq_of_sublist_of_byteLength_le {shorter longer : List Char} (h : shorter.Sublist longer)
    (hlength : byteLength longer ≤ byteLength shorter) : shorter = longer := by
  induction h with
  | slnil => rfl
  | cons c h ih =>
    have hle := byteLength_le_of_sublist h
    have hpos := c.utf8Size_pos
    rw [byteLength_cons] at hlength
    omega
  | cons_cons c h ih =>
    rw [byteLength_cons, byteLength_cons] at hlength
    rw [ih (Nat.le_of_add_le_add_left hlength)]

/-- A name is no longer than the segment it is read from. -/
theorem length_decodeSegment_le (segment : List Char) :
    (Text.Utf8.encode (decodeSegment segment)).length ≤ byteLength segment := by
  rw [decodeSegment]
  cases hdecoded : Text.Utf8.decodeText?
      (Text.Percent.decode (Text.Utf8.encode (String.ofList segment))) with
  | none => exact Nat.le_refl _
  | some text =>
    obtain ⟨chars, hchars, rfl⟩ := Option.map_eq_some_iff.mp hdecoded
    rw [Option.getD_some, ← Text.Utf8.decode?_eq_some_iff.mp hchars]
    exact Text.Percent.length_decode_le _

/-- What stands between slashes is picked from the path. -/
theorem sublist_of_mem_sentSegments {path segment : List Char} (h : segment ∈ sentSegments path) :
    segment.Sublist path ∧ '/' ∉ segment ∧ segment ≠ [] := by
  obtain ⟨hpiece, hempty⟩ := List.mem_filter.mp h
  have hslash : '/' ∉ segment := Text.not_mem_of_mem_splitAll hpiece
  have hwritten : (('/' :: segment).Sublist ('/' :: path)) := by
    rw [← Text.separated_splitAll path]
    exact List.sublist_flatten_of_mem (List.mem_map_of_mem hpiece)
  refine ⟨List.cons_sublist_cons.mp hwritten, hslash, ?_⟩
  rintro rfl
  cases hempty

/-- A link that names no more than the database leads to it only if it names the database as it is,
and this may be done. -/
theorem of_leadsTo (hbody : body.Sublist db.toList)
    (h : LeadsTo (String.ofList ('/' :: body)) db) : body = db.toList ∧ PathSafe db := by
  obtain ⟨uri, huri, hsegments⟩ := leadsTo_iff.mp h
  obtain ⟨hpath, hchars, hshort⟩ := Uri.of_ofText?_of_slash huri
  let kept := body.takeWhile Uri.isBeforeQuery
  have hkept : kept.Sublist body := (List.takeWhile_prefix _).sublist
  rw [hpath] at hchars
  rw [← String.ofList_toList (s := uri.path), hpath, segments_ofList,
    sentSegments_slash] at hsegments
  obtain ⟨segment, hsegment, hdecoded⟩ := List.map_eq_singleton_iff.mp hsegments
  have hmem : segment ∈ sentSegments kept := hsegment ▸ List.mem_singleton_self segment
  obtain ⟨hpicked, hunsplit, hnamed⟩ := sublist_of_mem_sentSegments hmem
  -- The name is read from no more than its own characters, so it is read from all of them.
  have hlength : byteLength db.toList ≤ byteLength segment := by
    rw [byteLength_toList, ← hdecoded]
    exact length_decodeSegment_le segment
  obtain rfl : segment = db.toList :=
    eq_of_sublist_of_byteLength_le (hpicked.trans (hkept.trans hbody)) hlength
  have hall : kept = db.toList := (hkept.trans hbody).antisymm hpicked
  have hbodyAll : body = db.toList := hbody.antisymm (hpicked.trans hkept)
  refine ⟨hbodyAll, ?_, fun c hc => ?_, hunsplit, hdecoded, ?_⟩
  · rintro rfl
    exact hnamed rfl
  · have hkeptc : c ∈ kept := hall ▸ hc
    exact hchars c (List.mem_cons_of_mem _ hkeptc)
  · change byteLength ('/' :: body) ≤ Uri.maxBytes at hshort
    rw [byteLength_cons, hbodyAll, byteLength_toList] at hshort
    exact Nat.lt_of_lt_of_le (Nat.lt_add_of_pos_left (Char.utf8Size_pos _)) hshort

/-- The path of a database whose name may stand in it leads to this database. -/
theorem leadsTo_of_pathSafe (h : PathSafe db) :
    LeadsTo (String.ofList ('/' :: db.toList)) db := by
  have hnamed : db.toList ≠ [] := fun hempty => h.named (String.toList_eq_nil_iff.mp hempty)
  have hshort : ¬Uri.maxBytes < byteLength ('/' :: db.toList) := by
    have hlt := h.short
    have hslash : Char.utf8Size '/' = 1 := by decide
    rw [byteLength_cons, byteLength_toList, hslash]
    omega
  refine leadsTo_iff.mpr ⟨_, (Uri.ofText?_of_path h.chars).trans (if_neg hshort), ?_⟩
  have hone := sentSegments_append hnamed h.unsplit (.inl rfl)
  rw [List.append_nil] at hone
  rw [segments_ofList, sentSegments_slash, hone]
  exact congrArg ([·]) h.unescaped

theorem joinPath_singleton (db : String) : joinPath [db] = String.ofList ('/' :: db.toList) := by
  simp [joinPath]

/-- The link of a database that is shown leads to it exactly if its name may stand in a path. -/
theorem leadsTo_joinPath_iff : LeadsTo (joinPath [db]) db ↔ PathSafe db := by
  rw [joinPath_singleton]
  exact ⟨fun h => (of_leadsTo (List.Sublist.refl _) h).2, leadsTo_of_pathSafe⟩

/-- A link without the slashes at its end is a slash and the beginning of the name. -/
theorem exists_linkPath (db : String) :
    ∃ body, linkPath (joinPath [db]) = String.ofList ('/' :: body) ∧ body <+: db.toList := by
  have hprefix : Text.trimEnd (· = '/') ('/' :: db.toList) <+: '/' :: db.toList := by
    rw [Text.trimEnd, ← List.reverse_suffix, List.reverse_reverse]
    exact List.dropWhile_suffix _
  rw [linkPath, joinPath_singleton, String.toList_ofList]
  generalize Text.trimEnd (· = '/') ('/' :: db.toList) = trimmed at hprefix
  cases trimmed with
  | nil => exact ⟨[], rfl, List.nil_prefix⟩
  | cons c body =>
    obtain ⟨rfl, hbody⟩ := List.cons_prefix_cons.mp hprefix
    exact ⟨body, rfl, hbody⟩

/-- A name without slashes stays whole in a link. -/
theorem linkPath_joinPath (h : '/' ∉ db.toList) : linkPath (joinPath [db]) = joinPath [db] := by
  rw [linkPath, joinPath_singleton, String.toList_ofList]
  rcases List.eq_nil_or_concat db.toList with hnone | ⟨start, last, hname⟩
  · rw [hnone]
    rfl
  · rw [List.concat_eq_append] at hname
    rw [hname] at h ⊢
    have hlast : decide (last = '/') = false := by
      refine decide_eq_false fun hslash => h ?_
      rw [hslash]
      exact List.mem_append_right _ List.mem_cons_self
    rw [← List.cons_append, @Text.trimEnd_concat Char (· = '/') _ _ hlast]
    rfl

/-- The link that warnings carry leads to the database exactly if its name may stand in a path. -/
theorem leadsTo_linkPath_iff : LeadsTo (linkPath (joinPath [db])) db ↔ PathSafe db := by
  constructor
  · intro h
    obtain ⟨body, hlink, hbody⟩ := exists_linkPath db
    rw [hlink] at h
    exact (of_leadsTo hbody.sublist h).2
  · intro h
    rw [linkPath_joinPath h.unsplit]
    exact leadsTo_joinPath_iff.mpr h

end DocumentGateway.Flow

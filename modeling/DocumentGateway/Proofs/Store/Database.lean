import DocumentGateway.Store.Database

/-!
# What a write can do

Every write either leaves the database as it is, with an answer that is no success, or stores one
document under its own name and renews the version that document carries. The cases are listed once,
with the guard of each, and all that is used of writes elsewhere follows from the list.
-/

namespace DocumentGateway.Store

/-- An overlaid document takes the version of what is laid over it. -/
theorem text?_overlay {changes : Document} (h : Keyed.Ordered changes) (base : Document)
    {key text : String} (ht : changes.text? key = some text) :
    Keyed.text? (Keyed.overlay base changes) key = some text := by
  rw [Keyed.text?_eq_some_iff] at ht ⊢
  rw [Keyed.get?_overlay h, ht]
  rfl

/-- A written text is the text under its key. -/
@[simp] theorem text?_insert_self (d : Document) (key text : String) :
    Keyed.text? (Keyed.insert d key (.string text)) key = some text :=
  Keyed.text?_eq_some_iff.mpr (Keyed.get?_insert_self d key _)

namespace Database

/-- The version of a database, if it exists and its document carries one. -/
def version? (databases : Database) (db : String) : Option String :=
  (Keyed.get? databases db).bind fun d => d.text? etagField

/-- A stamped document carries the fresh version, whatever the content says. -/
@[simp] theorem text?_stamped (content : Document) (fresh : String) :
    (stamped content fresh).text? etagField = some fresh := text?_insert_self _ _ _

theorem ordered_stamped {content : Document} (h : Keyed.Ordered content) (fresh : String) :
    Keyed.Ordered (stamped content fresh) := (h.erase idField).insert etagField _

/-- All that a write can come to, each with its guard: a merge that finds nothing to merge into, a
version it was not meant for, a new database, a replaced document and a merged one. -/
inductive Upserted (databases : Database) (db : String) (w : Write) (fresh : String) :
    WriteResult × Database → Prop where
  | missing (patching : w.patching = true)
      (unseen : w.updating = false ∨ Keyed.get? databases db = none) :
      Upserted databases db w fresh (⟨.notFound, none⟩, databases)
  | conflict {stored : Document} (found : Keyed.get? databases db = some stored)
      (stale : isStale w.etag (stored.text? etagField) w.checkEtag = true) :
      Upserted databases db w fresh (⟨.conflict, stored.text? etagField⟩, databases)
  | created (absent : Keyed.get? databases db = none) (replacing : w.patching = false) :
      Upserted databases db w fresh
        (⟨.created, some fresh⟩, Keyed.insert databases db (stamped w.content fresh))
  | replaced {stored : Document} (found : Keyed.get? databases db = some stored)
      (current : isStale w.etag (stored.text? etagField) w.checkEtag = false)
      (replacing : w.patching = false) :
      Upserted databases db w fresh
        (⟨.noContent, some fresh⟩, Keyed.insert databases db (stamped w.content fresh))
  | merged {stored : Document} (found : Keyed.get? databases db = some stored)
      (current : isStale w.etag (stored.text? etagField) w.checkEtag = false)
      (patching : w.patching = true) (seen : w.updating = true) :
      Upserted databases db w fresh (⟨.noContent, some fresh⟩,
        Keyed.insert databases db (Keyed.overlay stored (stamped w.content fresh)))

/-- The list is complete. -/
theorem upserted (databases : Database) (db : String) (w : Write) (fresh : String) :
    Upserted databases db w fresh (upsert databases db w fresh) := by
  rw [upsert]
  by_cases hu : (w.patching && !w.updating) = true
  · rw [if_pos hu]
    simp only [Bool.and_eq_true, Bool.not_eq_true'] at hu
    exact .missing hu.1 (.inl hu.2)
  · rw [if_neg hu]
    cases hg : Keyed.get? databases db with
    | none =>
      by_cases hp : w.patching = true
      · simp only [hp, if_true]
        exact .missing hp (.inr hg)
      · simp only [hp]
        exact .created hg (by simpa using hp)
    | some stored =>
      by_cases hs : isStale w.etag (stored.text? etagField) w.checkEtag = true
      · simp only [hs, if_true]
        exact .conflict hg hs
      · have hc : isStale w.etag (stored.text? etagField) w.checkEtag = false := by simpa using hs
        by_cases hp : w.patching = true
        · simp only [hc, hp, if_true]
          exact .merged hg hc hp (by simpa [hp] using hu)
        · simp only [hc, hp]
          exact .replaced hg hc (by simpa using hp)

/-- The four statuses that a write is answered with. -/
theorem status_upsert (databases : Database) (db : String) (w : Write) (fresh : String) :
    (upsert databases db w fresh).1.status ∈
      [Http.Status.notFound, .conflict, .created, .noContent] := by
  have hu := upserted databases db w fresh
  generalize upsert databases db w fresh = outcome at hu ⊢
  cases hu with
  | missing | conflict | created | replaced | merged => simp

/-- A write that is no success leaves the database as it is. -/
theorem upsert_of_not_success {databases : Database} {db : String} {w : Write} {fresh : String}
    (h : (upsert databases db w fresh).1.status.isSuccess = false) :
    (upsert databases db w fresh).2 = databases := by
  have hu := upserted databases db w fresh
  generalize upsert databases db w fresh = outcome at h hu ⊢
  cases hu with
  | missing | conflict => rfl
  | created | replaced | merged => cases h

/-- A write leaves all other names as they are. -/
theorem get?_upsert_of_ne {databases : Database} {db other : String} (w : Write) (fresh : String)
    (h : db ≠ other) :
    Keyed.get? (upsert databases db w fresh).2 other = Keyed.get? databases other := by
  have hu := upserted databases db w fresh
  generalize upsert databases db w fresh = outcome at hu ⊢
  cases hu with
  | missing | conflict => rfl
  | created | replaced | merged => exact Keyed.get?_insert_of_ne _ _ h

/-- A write that succeeds tells the fresh version. -/
theorem etag_upsert {databases : Database} {db : String} {w : Write} {fresh : String}
    (h : (upsert databases db w fresh).1.status.isSuccess = true) :
    (upsert databases db w fresh).1.etag = some fresh := by
  have hu := upserted databases db w fresh
  generalize upsert databases db w fresh = outcome at h hu ⊢
  cases hu with
  | missing | conflict => cases h
  | created | replaced | merged => rfl

/-- A write that succeeds stores the fresh version, also where it merges. -/
theorem version?_upsert {databases : Database} {db : String} {w : Write} {fresh : String}
    (hw : Keyed.Ordered w.content)
    (h : (upsert databases db w fresh).1.status.isSuccess = true) :
    version? (upsert databases db w fresh).2 db = some fresh := by
  have hu := upserted databases db w fresh
  generalize upsert databases db w fresh = outcome at h hu ⊢
  cases hu with
  | missing | conflict => cases h
  | created | replaced => simp [version?]
  | merged =>
    rw [version?, Keyed.get?_insert_self]
    exact text?_overlay (ordered_stamped hw fresh) _ (text?_stamped _ _)

/-- Only the version that was sent is current. -/
theorem eq_of_isStale_eq_false {sent stored : String} {required : Bool}
    (h : isStale (some sent) (some stored) required = false) : sent = stored := by
  simpa [isStale] using h

/-- A write that succeeds on a database with a version was not stale for it. -/
theorem isStale_of_upsert {databases : Database} {db : String} {w : Write} {fresh stored : String}
    (hv : version? databases db = some stored)
    (h : (upsert databases db w fresh).1.status.isSuccess = true) :
    isStale w.etag (some stored) w.checkEtag = false := by
  have hu := upserted databases db w fresh
  generalize upsert databases db w fresh = outcome at h hu
  cases hu with
  | missing | conflict => cases h
  | created absent => simp [version?, absent] at hv
  | replaced found current | merged found current =>
    rw [version?, found, Option.bind_some] at hv
    rwa [hv] at current

/-- A write that names a version and succeeds on a database with a version was applied to the
version it names. -/
theorem version?_of_upsert {databases : Database} {db : String} {w : Write} {fresh sent : String}
    (hw : w.etag = some sent) (hv : (version? databases db).isSome)
    (h : (upsert databases db w fresh).1.status.isSuccess = true) :
    version? databases db = some sent := by
  obtain ⟨stored, hs⟩ := Option.isSome_iff_exists.mp hv
  have hcurrent := isStale_of_upsert hs h
  rw [hw] at hcurrent
  rw [hs, eq_of_isStale_eq_false hcurrent]

/-- A write that names the version of a database that it has seen succeeds. -/
theorem success_of_current {databases : Database} {db : String} {w : Write} {fresh version : String}
    {stored : Document} (hfound : Keyed.get? databases db = some stored)
    (hversion : stored.text? etagField = some version) (hw : w.etag = some version)
    (hseen : w.updating = true) :
    (upsert databases db w fresh).1.status.isSuccess = true := by
  have hu := upserted databases db w fresh
  generalize upsert databases db w fresh = outcome at hu ⊢
  cases hu with
  | missing patching unseen =>
    rcases unseen with hunseen | habsent
    · rw [hseen] at hunseen
      cases hunseen
    · rw [hfound] at habsent
      cases habsent
  | conflict found stale =>
    rw [hfound] at found
    cases found
    rw [hw, hversion] at stale
    simp [isStale] at stale
  | created absent =>
    rw [hfound] at absent
    cases absent
  | replaced | merged => rfl

/-- A write that succeeds creates a database that did not exist, and stores what it brings; under
keys that it does not bring, a merge leaves what was stored. -/
theorem exists_stored {databases : Database} {db : String} {w : Write} {fresh : String}
    (hw : Keyed.Ordered w.content)
    (h : (upsert databases db w fresh).1.status.isSuccess = true) :
    ∃ stored, Keyed.get? (upsert databases db w fresh).2 db = some stored ∧
      (upsert databases db w fresh).1.status =
        (if (Keyed.get? databases db).isNone then .created else .noContent) ∧
      ∀ key, stored.get? key = ((stamped w.content fresh).get? key).or
        (if w.patching then (Keyed.get? databases db).bind (·.get? key) else none) := by
  have hu := upserted databases db w fresh
  generalize upsert databases db w fresh = outcome at h hu ⊢
  cases hu with
  | missing | conflict => cases h
  | created absent replacing =>
    exact ⟨_, Keyed.get?_insert_self _ _ _, by simp [absent], by simp [replacing]⟩
  | replaced found _ replacing =>
    exact ⟨_, Keyed.get?_insert_self _ _ _, by simp [found], by simp [replacing]⟩
  | merged found _ patching =>
    refine ⟨_, Keyed.get?_insert_self _ _ _, by simp [found], fun key => ?_⟩
    rw [Keyed.get?_overlay (ordered_stamped hw fresh), patching, found]
    rfl

end Database

end DocumentGateway.Store

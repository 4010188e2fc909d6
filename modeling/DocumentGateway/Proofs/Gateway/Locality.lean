import DocumentGateway.Proofs.Gateway.History

/-!
# Requests for different databases commute

All that a request asks for is about one name, and what is about a name reads and changes no more
than the entry of that name in the database and its slot in the cache. A request is therefore
answered alike in states that are level under its name, whatever else they hold, and it leaves all
other names as they were. Two requests for different names do not meet anywhere, so the order in
which they are served cannot be told from the responses or from what is left behind. The clock does
not have to agree, as long as no copy expires while the requests are served.
-/

namespace DocumentGateway.Flow

/-- A call is about a name, or about none. -/
inductive Call.IsAbout (db : String) : Call → Prop where
  | cached : IsAbout db (.cached db)
  | generation : IsAbout db (.generation db)
  | remember (generation : Nat) (props : Document) : IsAbout db (.remember db generation props)
  | forget : IsAbout db (.forget db)
  | load : IsAbout db (.load db)
  | upsert (w : Store.Write) : IsAbout db (.upsert db w)
  | reserve : IsAbout db .reserve

variable {α : Type} {db : String} {kind : Store.Write → Prop} {φ ψ : Phase} {c : Call}

/-- Whatever the answers are, all calls of a program are about one name. -/
def Program.Confined (db : String) : Program α → Prop
  | .done _ => True
  | .call c next => ∀ answer, c.IsAbout db ∧ (next answer).Confined db

theorem Moves.isAbout {answer : c.Answer} (h : Moves db kind φ c answer ψ) : c.IsAbout db := by
  cases h with
  | room => exact .reserve
  | look => exact .cached
  | note => exact .generation
  | unread | absent | read => exact .load
  | share generation props => exact .remember generation props
  | unwritten | refused | written => exact .upsert _
  | forget => exact .forget

/-- What obeys the protocol for a name keeps to that name. -/
theorem Program.Obeys.confined {fits : Phase → α → Prop} {p : Program α}
    (h : p.Obeys db kind fits φ) : p.Confined db := by
  induction p generalizing φ with
  | done value => trivial
  | call c next ih =>
    intro answer
    obtain ⟨ψ, hmove, hrest⟩ := h answer
    exact ⟨hmove.isAbout, ih answer hrest⟩

end DocumentGateway.Flow

namespace DocumentGateway.Store

/-- Two copies of the same properties that are good at the same moments of a time. -/
structure Copy.Level (ttl start stop : Nat) (x y : Copy) : Prop where
  props : x.props = y.props
  fresh : ∀ now now', start ≤ now → now ≤ stop → start ≤ now' → now' ≤ stop →
    (x.FreshAt ttl now ↔ y.FreshAt ttl now')

/-- No copy in a cache expires in a time: none of those that are held at its start, and none that is
stored later. -/
structure Cache.Lasts (c : Cache) (start stop : Nat) : Prop where
  held : ∀ db copy, (c.slot db).copy = some copy →
    copy.FreshAt c.ttl start → copy.FreshAt c.ttl stop
  stored : 0 < c.ttl → stop - start < c.ttl * 1000000000

variable {ttl start stop : Nat} {x y : Copy}

/-- A copy that does not expire in a time is level with itself. -/
theorem Copy.Level.refl (h : x.FreshAt ttl start → x.FreshAt ttl stop) :
    Copy.Level ttl start stop x x where
  props := rfl
  fresh := by
    intro now now' hstart hstop hstart' hstop'
    simp only [Copy.FreshAt] at h ⊢
    omega

/-- Copies that are stored in a time are level if none expires in it. -/
theorem Copy.Level.stored (props : Document) (h : 0 < ttl → stop - start < ttl * 1000000000)
    {now now' : Nat} (hnow : start ≤ now ∧ now ≤ stop) (hnow' : start ≤ now' ∧ now' ≤ stop) :
    Copy.Level ttl start stop ⟨props, now⟩ ⟨props, now'⟩ where
  props := rfl
  fresh := by
    intro m m' hstart hstop hstart' hstop'
    simp only [Copy.FreshAt]
    rcases Nat.eq_zero_or_pos ttl with rfl | hpos
    · omega
    · have hshort := h hpos
      omega

section Cache

variable {c c' : Cache} {db : String} {now now' : Nat}

/-- Level copies are answered and dropped alike. -/
theorem Cache.get_level (henabled : c.enabled = c'.enabled) (httl : c.ttl = c'.ttl)
    (hcopies : Option.Rel (Copy.Level c.ttl start stop) (c.slot db).copy (c'.slot db).copy)
    (hnow : start ≤ now ∧ now ≤ stop) (hnow' : start ≤ now' ∧ now' ≤ stop) :
    (c.get db now).1 = (c'.get db now').1 ∧
      Option.Rel (Copy.Level c.ttl start stop) ((c.get db now).2.slot db).copy
        ((c'.get db now').2.slot db).copy := by
  cases hon : c.enabled with
  | false =>
    rw [get_of_disabled hon, get_of_disabled (henabled.symm.trans hon)]
    exact ⟨rfl, hcopies⟩
  | true =>
    have hon' : c'.enabled = true := henabled.symm.trans hon
    have hheld := hcopies
    generalize hx : (c.slot db).copy = held at hcopies
    generalize hy : (c'.slot db).copy = held' at hcopies
    cases hcopies with
    | none =>
      rw [get_of_none hx, get_of_none hy]
      exact ⟨rfl, hheld⟩
    | @some x y hlevel =>
      have hfresh := hlevel.fresh now now' hnow.1 hnow.2 hnow'.1 hnow'.2
      by_cases hgood : x.FreshAt c.ttl now
      · have hgood' : y.FreshAt c'.ttl now' := httl ▸ hfresh.mp hgood
        rw [get_of_fresh hon hx hgood, get_of_fresh hon' hy hgood']
        exact ⟨congrArg some hlevel.props, hheld⟩
      · have hbad' : ¬y.FreshAt c'.ttl now' := httl ▸ mt hfresh.mpr hgood
        rw [get_of_expired hon hx hgood, get_of_expired hon' hy hbad']
        simp only [slot, Keyed.get?_insert_self]
        exact ⟨trivial, .none⟩

/-- Copies of the same properties are stored alike, and are level. -/
theorem Cache.put_level (henabled : c.enabled = c'.enabled)
    (hgeneration : c.generation db = c'.generation db)
    (hcopies : Option.Rel (Copy.Level c.ttl start stop) (c.slot db).copy (c'.slot db).copy)
    (hshort : 0 < c.ttl → stop - start < c.ttl * 1000000000)
    (hnow : start ≤ now ∧ now ≤ stop) (hnow' : start ≤ now' ∧ now' ≤ stop) (generation : Nat)
    (props : Document) :
    (c.put db generation props now).1 = (c'.put db generation props now').1 ∧
      Option.Rel (Copy.Level c.ttl start stop) ((c.put db generation props now).2.slot db).copy
        ((c'.put db generation props now').2.slot db).copy := by
  constructor
  · rw [Bool.eq_iff_iff, put_iff, put_iff, henabled, hgeneration]
  · rw [slot_put, slot_put, ← henabled, ← hgeneration]
    split
    · exact .some (.stored props hshort hnow hnow')
    · exact hcopies

end Cache

/-- What a write does to a name depends on what is stored there. -/
theorem Database.upsert_congr {databases databases' : Database} {db : String}
    (h : Keyed.get? databases db = Keyed.get? databases' db) (w : Write) (fresh : String) :
    (upsert databases db w fresh).1 = (upsert databases' db w fresh).1 ∧
      Keyed.get? (upsert databases db w fresh).2 db =
        Keyed.get? (upsert databases' db w fresh).2 db := by
  rw [upsert, upsert, ← h]
  by_cases hunseen : (w.patching && !w.updating) = true
  · rw [if_pos hunseen, if_pos hunseen]
    exact ⟨rfl, h⟩
  · rw [if_neg hunseen, if_neg hunseen]
    cases hstored : Keyed.get? databases db with
    | none =>
      by_cases hpatching : w.patching = true
      · simp [hpatching, ← h, hstored]
      · simp [hpatching]
    | some stored =>
      by_cases hstale : isStale w.etag (stored.text? etagField) w.checkEtag = true
      · simp [hstale, ← h, hstored]
      · simp [hstale]

/-- A write keeps the databases in the order of their names. -/
theorem Database.ordered_upsert {databases : Database} (h : Keyed.Ordered databases) (db : String)
    (w : Write) (fresh : String) : Keyed.Ordered (upsert databases db w fresh).2 := by
  have hu := upserted databases db w fresh
  generalize upsert databases db w fresh = outcome at hu ⊢
  cases hu with
  | missing | conflict => exact h
  | created | replaced | merged => exact h.insert _ _

end DocumentGateway.Store

namespace DocumentGateway.Gateway

open DocumentGateway.Flow (Call Program)
open DocumentGateway.Store (Cache Copy Database)

/-- Two states hold the same under a name, and do so for a time, in which no copy expires that is
stored in it. -/
structure State.Level (db : String) (start stop : Nat) (s t : State) : Prop where
  stored : s.databases.get? db = t.databases.get? db
  enabled : s.cache.enabled = t.cache.enabled
  ttl : s.cache.ttl = t.cache.ttl
  generation : s.cache.generation db = t.cache.generation db
  copies : Option.Rel (Copy.Level s.cache.ttl start stop) (s.cache.slot db).copy
    (t.cache.slot db).copy
  short : 0 < s.cache.ttl → stop - start < s.cache.ttl * 1000000000

/-- Two states have what is kept under a name in common. -/
structure State.SameAt (db : String) (s t : State) : Prop where
  stored : s.databases.get? db = t.databases.get? db
  slot : s.cache.slot db = t.cache.slot db
  enabled : s.cache.enabled = t.cache.enabled
  ttl : s.cache.ttl = t.cache.ttl

/-- A clock shows moments of a time at some of its readings. -/
def ReadsWithin (clock : Nat → Nat) (start stop : Nat) (first last : Nat) : Prop :=
  ∀ reading, first ≤ reading → reading < last → start ≤ clock reading ∧ clock reading ≤ stop

variable {α : Type} {db other : String} {start stop : Nat} {s t u : State} {c : Call}

theorem State.Level.props_eq (h : s.Level db start stop t) :
    (s.cache.slot db).copy.map Copy.props = (t.cache.slot db).copy.map Copy.props := by
  have hcopies := h.copies
  generalize (s.cache.slot db).copy = x at hcopies ⊢
  generalize (t.cache.slot db).copy = y at hcopies ⊢
  cases hcopies with
  | none => rfl
  | some hlevel => exact congrArg some hlevel.props

/-- A state in which no copy expires is level with itself. -/
theorem State.Level.refl (h : s.cache.Lasts start stop) (db : String) :
    s.Level db start stop s where
  stored := rfl
  enabled := rfl
  ttl := rfl
  generation := rfl
  copies := by
    cases hcopy : (s.cache.slot db).copy with
    | none => exact .none
    | some copy => exact .some (.refl (h.held db copy hcopy))
  short := h.stored

/-- The second of two level states may be exchanged for one that is the same under the name. -/
theorem State.Level.right (h : s.Level db start stop t) (hsame : t.SameAt db u) :
    s.Level db start stop u where
  stored := h.stored.trans hsame.stored
  enabled := h.enabled.trans hsame.enabled
  ttl := h.ttl.trans hsame.ttl
  generation := h.generation.trans (congrArg Store.Slot.generation hsame.slot)
  copies := hsame.slot ▸ h.copies
  short := h.short

/-- The first of two level states may be exchanged for one that is the same under the name. -/
theorem State.Level.left (h : s.Level db start stop t) (hsame : s.SameAt db u) :
    u.Level db start stop t where
  stored := hsame.stored.symm.trans h.stored
  enabled := hsame.enabled.symm.trans h.enabled
  ttl := hsame.ttl.symm.trans h.ttl
  generation := (congrArg Store.Slot.generation hsame.slot).symm.trans h.generation
  copies := by
    rw [← hsame.slot, ← hsame.ttl]
    exact h.copies
  short := by
    rw [← hsame.ttl]
    exact h.short

/-- Level states stay level when their caches are exchanged for ones that hold level copies. -/
theorem State.Level.recache (h : s.Level db start stop t) {kept kept' : Cache}
    (henabled : kept.enabled = s.cache.enabled ∧ kept'.enabled = t.cache.enabled)
    (httl : kept.ttl = s.cache.ttl ∧ kept'.ttl = t.cache.ttl)
    (hgeneration : kept.generation db = s.cache.generation db ∧
      kept'.generation db = t.cache.generation db)
    (hcopies : Option.Rel (Copy.Level s.cache.ttl start stop) (kept.slot db).copy
      (kept'.slot db).copy) :
    State.Level db start stop ⟨s.databases, kept⟩ ⟨t.databases, kept'⟩ where
  stored := h.stored
  enabled := by rw [henabled.1, henabled.2, h.enabled]
  ttl := by rw [httl.1, httl.2, h.ttl]
  generation := by rw [hgeneration.1, hgeneration.2, h.generation]
  copies := by rwa [httl.1]
  short := by
    rw [httl.1]
    exact h.short

/-- A call is answered alike in level states, and leaves them level. -/
theorem State.Level.answer (h : s.Level db start stop t) (hc : c.IsAbout db) (o o' : Occasion)
    (hetag : o.etag = o'.etag) (hstorage : o.storage = o'.storage)
    (hnow : start ≤ o.now ∧ o.now ≤ stop) (hnow' : start ≤ o'.now ∧ o'.now ≤ stop) :
    (State.answer o c s).1 = (State.answer o' c t).1 ∧
      (State.answer o c s).2.Level db start stop (State.answer o' c t).2 := by
  cases hc with
  | cached =>
    obtain ⟨hreply, hcopies⟩ := Cache.get_level h.enabled h.ttl h.copies hnow hnow'
    exact ⟨hreply, h.recache ⟨Cache.enabled_get _ _ _, Cache.enabled_get _ _ _⟩
      ⟨Cache.ttl_get _ _ _, Cache.ttl_get _ _ _⟩
      ⟨Cache.generation_get _ _ _ _, Cache.generation_get _ _ _ _⟩ hcopies⟩
  | generation => exact ⟨h.generation, h⟩
  | remember generation props =>
    obtain ⟨hreply, hcopies⟩ := Cache.put_level h.enabled h.generation h.copies h.short hnow hnow'
      generation props
    exact ⟨hreply, h.recache ⟨Cache.enabled_put _ _ _ _ _, Cache.enabled_put _ _ _ _ _⟩
      ⟨Cache.ttl_put _ _ _ _ _, Cache.ttl_put _ _ _ _ _⟩
      ⟨Cache.generation_put _ _ _ _ _ _, Cache.generation_put _ _ _ _ _ _⟩ hcopies⟩
  | forget =>
    refine ⟨rfl, ⟨h.stored, h.enabled, h.ttl, ?_, ?_, h.short⟩⟩
    · simp only [State.answer, Cache.generation_invalidate, h.generation]
    · simp only [State.answer, Cache.slot_invalidate, if_true]
      exact .none
  | load => exact ⟨congrArg Except.ok h.stored, h⟩
  | upsert w =>
    obtain ⟨hresult, hstored⟩ := Database.upsert_congr h.stored w o.etag
    rw [State.answer, State.answer, ← hetag]
    exact ⟨congrArg Except.ok hresult, { h with stored := hstored }⟩
  | reserve => exact ⟨hstorage, h⟩

theorem State.SameAt.trans (h : s.SameAt db t) (h' : t.SameAt db u) : s.SameAt db u where
  stored := h.stored.trans h'.stored
  slot := h.slot.trans h'.slot
  enabled := h.enabled.trans h'.enabled
  ttl := h.ttl.trans h'.ttl

/-- A call about one name leaves what is kept under another one. -/
theorem State.sameAt_answer (hc : c.IsAbout db) (hne : db ≠ other) (o : Occasion) (s : State) :
    s.SameAt other (State.answer o c s).2 := by
  cases hc with
  | cached =>
    exact ⟨rfl, (Cache.slot_get_of_ne s.cache o.now hne).symm, (Cache.enabled_get _ _ _).symm,
      (Cache.ttl_get _ _ _).symm⟩
  | remember generation props =>
    have hslot : (s.cache.put db generation props o.now).2.slot other = s.cache.slot other := by
      rw [Cache.slot_put, if_neg fun h => hne h.2]
    exact ⟨rfl, hslot.symm, (Cache.enabled_put _ _ _ _ _).symm, (Cache.ttl_put _ _ _ _ _).symm⟩
  | forget =>
    have hslot : (s.cache.invalidate db).slot other = s.cache.slot other := by
      rw [Cache.slot_invalidate, if_neg hne]
    exact ⟨rfl, hslot.symm, rfl, rfl⟩
  | upsert w => exact ⟨(Database.get?_upsert_of_ne w o.etag hne).symm, rfl, rfl, rfl⟩
  | generation | load | reserve => exact ⟨rfl, rfl, rfl, rfl⟩

/-- A call keeps the databases in the order of their names. -/
theorem State.ordered_answer (h : Keyed.Ordered s.databases) (o : Occasion) (c : Call) :
    Keyed.Ordered (State.answer o c s).2.databases := by
  cases c with
  | upsert db w => exact Database.ordered_upsert h db w o.etag
  | cached | generation | remember | forget | load | reserve | handOver => exact h

section Run

variable {p : Program α} {x y : Clocked}

theorem le_readings_run (v : Visit) (clock : Nat → Nat) (p : Program α) (x : Clocked) :
    x.readings ≤ (p.run (v.answer clock) x).2.readings := by
  induction p generalizing x with
  | done value => exact Nat.le_refl _
  | call c next ih =>
    have hrest := ih (v.answer clock c x).1 (v.answer clock c x).2
    exact Nat.le_trans (Nat.le_succ _) hrest

/-- A program that keeps to one name leaves all others as they are. -/
theorem sameAt_run (hp : p.Confined db) (hne : db ≠ other) (v : Visit) (clock : Nat → Nat)
    (x : Clocked) : x.state.SameAt other (p.run (v.answer clock) x).2.state := by
  induction p generalizing x with
  | done value => exact ⟨rfl, rfl, rfl, rfl⟩
  | call c next ih =>
    obtain ⟨habout, hrest⟩ := hp (v.answer clock c x).1
    have hcall := State.sameAt_answer habout hne (v.occasion (clock x.readings)) x.state
    exact hcall.trans (ih _ hrest (v.answer clock c x).2)

/-- A program that keeps to one name has the same value wherever that name is level, and leaves it
level. -/
theorem level_run (hp : p.Confined db) (h : x.state.Level db start stop y.state) (v : Visit)
    {clock clock' : Nat → Nat}
    (hclock : ReadsWithin clock start stop x.readings (p.run (v.answer clock) x).2.readings)
    (hclock' : ReadsWithin clock' start stop y.readings (p.run (v.answer clock') y).2.readings) :
    (p.run (v.answer clock) x).1 = (p.run (v.answer clock') y).1 ∧
      (p.run (v.answer clock) x).2.state.Level db start stop
        (p.run (v.answer clock') y).2.state := by
  -- Both runs make the same calls, since every call is answered alike in both.
  induction p generalizing x y with
  | done value => exact ⟨rfl, h⟩
  | call c next ih =>
    have hlater := le_readings_run v clock (next (v.answer clock c x).1) (v.answer clock c x).2
    have hlater' := le_readings_run v clock' (next (v.answer clock' c y).1) (v.answer clock' c y).2
    obtain ⟨hreply, hlevel⟩ := h.answer (hp (v.answer clock c x).1).1
      (v.occasion (clock x.readings)) (v.occasion (clock' y.readings)) rfl rfl
      (hclock _ (Nat.le_refl _) hlater) (hclock' _ (Nat.le_refl _) hlater')
    have hreply : (v.answer clock c x).1 = (v.answer clock' c y).1 := hreply
    rw [Program.run_call] at hclock hclock'
    rw [Program.run_call, Program.run_call]
    rw [← hreply] at hclock' ⊢
    exact ih _ (hp _).2 hlevel
      (fun reading hfirst => hclock reading (Nat.le_of_succ_le hfirst))
      (fun reading hfirst => hclock' reading (Nat.le_of_succ_le hfirst))

end Run

/-- The databases of every state that is reached are in the order of their names. -/
theorem ordered_run {p : Program α} {v : Visit} {clock : Nat → Nat} {x : Clocked}
    (h : Keyed.Ordered x.state.databases) :
    Keyed.Ordered (p.run (v.answer clock) x).2.state.databases := by
  induction p generalizing x with
  | done value => exact h
  | call c next ih => exact ih _ (State.ordered_answer h (v.occasion (clock x.readings)) c)

theorem ordered_session (settings : Setup) (clock : Nat → Nat) (visits : List Visit)
    {x : Clocked} (h : Keyed.Ordered x.state.databases) :
    Keyed.Ordered (session settings clock visits x).2.state.databases := by
  induction visits generalizing x with
  | nil => exact h
  | cons v rest ih => exact ih (ordered_run h)

section Serve

variable {settings : Setup} {v w : Visit} {clock clock' : Nat → Nat} {x : Clocked}

theorem confined_serve (settings : Setup) (v : Visit) :
    (Gateway.serve settings v.fresh v.request).Confined (addressedDb v.request) :=
  (obeys_serve settings v.fresh v.request).confined

/-- A request leaves what is kept under names that it is not about. -/
theorem sameAt_serve (hne : addressedDb v.request ≠ other) (x : Clocked) :
    x.state.SameAt other (v.serve settings clock x).2.state :=
  sameAt_run (confined_serve settings v) hne v clock x

/-- A request does the same for its own name, whether or not one for another name comes between. -/
theorem serve_after (hdb : addressedDb w.request ≠ addressedDb v.request)
    (hlasts : x.state.cache.Lasts start stop)
    (hclock : ReadsWithin clock start stop x.readings
      (w.serve settings clock (v.serve settings clock x).2).2.readings)
    (hclock' : ReadsWithin clock' start stop x.readings
      (v.serve settings clock' (w.serve settings clock' x).2).2.readings) :
    (v.serve settings clock x).1 = (v.serve settings clock' (w.serve settings clock' x).2).1 ∧
      (w.serve settings clock (v.serve settings clock x).2).2.state.Level
        (addressedDb v.request) start stop
        (v.serve settings clock' (w.serve settings clock' x).2).2.state := by
  have hstart : x.state.Level (addressedDb v.request) start stop
      (w.serve settings clock' x).2.state :=
    (State.Level.refl hlasts _).right (sameAt_serve hdb x)
  have hlast : (v.serve settings clock x).2.readings ≤
      (w.serve settings clock (v.serve settings clock x).2).2.readings :=
    le_readings_run w clock _ _
  have hfirst : x.readings ≤ (w.serve settings clock' x).2.readings :=
    le_readings_run w clock' _ x
  obtain ⟨hresponse, hlevel⟩ := level_run (confined_serve settings v) hstart v
    (fun reading hx hlt => hclock reading hx (Nat.lt_of_lt_of_le hlt hlast))
    (fun reading hx hlt => hclock' reading (Nat.le_trans hfirst hx) hlt)
  exact ⟨hresponse, hlevel.left (sameAt_serve hdb _)⟩

end Serve

/-- Two requests for different databases may be served in either order: from any state, each is
given the same response, and what is stored, the generations and the properties in the cache are the
same under every name, as long as no copy expires meanwhile. -/
theorem session_swap (settings : Setup) (clock clock' : Nat → Nat) (v w : Visit) (x : Clocked)
    {start stop : Nat} (hdb : addressedDb v.request ≠ addressedDb w.request)
    (hlasts : x.state.cache.Lasts start stop)
    (hclock : ReadsWithin clock start stop x.readings
      (session settings clock [v, w] x).2.readings)
    (hclock' : ReadsWithin clock' start stop x.readings
      (session settings clock' [w, v] x).2.readings) :
    let served := session settings clock [v, w] x
    let swapped := session settings clock' [w, v] x
    (∃ a b, served.1 = [a, b] ∧ swapped.1 = [b, a]) ∧
      (∀ db,
        served.2.state.databases.get? db = swapped.2.state.databases.get? db ∧
        served.2.state.cache.generation db = swapped.2.state.cache.generation db ∧
        (served.2.state.cache.slot db).copy.map Copy.props =
          (swapped.2.state.cache.slot db).copy.map Copy.props) ∧
      (Keyed.Ordered x.state.databases →
        served.2.state.databases = swapped.2.state.databases) := by
  intro served swapped
  obtain ⟨hv, hlevelv⟩ := serve_after (Ne.symm hdb) hlasts hclock hclock'
  obtain ⟨hw, hlevelw⟩ := serve_after hdb hlasts hclock' hclock
  have hnames : ∀ db,
      served.2.state.databases.get? db = swapped.2.state.databases.get? db ∧
      served.2.state.cache.generation db = swapped.2.state.cache.generation db ∧
      (served.2.state.cache.slot db).copy.map Copy.props =
        (swapped.2.state.cache.slot db).copy.map Copy.props := by
    intro db
    by_cases hdbv : addressedDb v.request = db
    · subst hdbv
      exact ⟨hlevelv.stored, hlevelv.generation, hlevelv.props_eq⟩
    · by_cases hdbw : addressedDb w.request = db
      · subst hdbw
        exact ⟨hlevelw.stored.symm, hlevelw.generation.symm, hlevelw.props_eq.symm⟩
      · -- A name that neither request is about is as it was before both of them.
        have hserved : x.state.SameAt db served.2.state :=
          (sameAt_serve hdbv x).trans (sameAt_serve hdbw _)
        have hswapped : x.state.SameAt db swapped.2.state :=
          (sameAt_serve hdbw x).trans (sameAt_serve hdbv _)
        rw [Cache.generation, Cache.generation, ← hserved.slot, ← hswapped.slot]
        exact ⟨hserved.stored.symm.trans hswapped.stored, rfl, rfl⟩
  refine ⟨⟨_, _, rfl, ?_⟩, hnames, fun hordered => ?_⟩
  · change [_, _] = [_, _]
    rw [← hv, hw]
  · exact (ordered_session settings clock [v, w] hordered).ext
      (ordered_session settings clock' [w, v] hordered) fun db => (hnames db).1

/-- A visitor who stores a document in a database of another name. -/
def storeVisit : Visit :=
  ⟨.ofJson .put "/store" (.ofBytes (Text.Utf8.encode "\x7b\"c\": 3\x7d")), firstVersion,
    versionToken (List.replicate 16 2), .ok ()⟩

/-- A state with one database, of which the cache holds a copy. -/
def shopCopied : Clocked :=
  ⟨⟨[("shop", [])], ((Cache.empty true 60).put "shop" 0 [] 0).2⟩, 0⟩

/-- A read from the cache and a first write to another database, with clocks of different pace. -/
theorem session_swap_store :
    (∃ a b,
      (session permissiveSettings (min · 1000) [shopReader, storeVisit] shopCopied).1 = [a, b] ∧
        (session permissiveSettings (min 500 ·) [storeVisit, shopReader] shopCopied).1 = [b, a]) ∧
      (session permissiveSettings (min · 1000) [shopReader, storeVisit]
          shopCopied).2.state.databases =
        (session permissiveSettings (min 500 ·) [storeVisit, shopReader]
          shopCopied).2.state.databases := by
  have hlasts : shopCopied.state.cache.Lasts 0 1000 := by
    constructor
    · intro db copy _ _
      change 1000 - copy.since < 60 * 1000000000
      omega
    · intro _
      decide
  have hdb : addressedDb shopReader.request ≠ addressedDb storeVisit.request := by
    decide
  have hswap := session_swap permissiveSettings (min · 1000) (min 500 ·) shopReader storeVisit
    shopCopied hdb hlasts (fun reading _ _ => ⟨Nat.zero_le _, Nat.min_le_right _ _⟩)
    (fun reading _ _ => ⟨Nat.zero_le _, Nat.le_trans (Nat.min_le_left _ _) (by decide)⟩)
  exact ⟨hswap.1, hswap.2.2 (List.pairwise_singleton _ _)⟩

end DocumentGateway.Gateway

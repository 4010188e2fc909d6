import DocumentGateway.Proofs.Gateway.Lookup
import DocumentGateway.Proofs.Gateway.State

/-!
# The cache in company

While requests are in flight a copy may be behind the database, but only as long as some request
that has written it has not yet told the cache. The invariant follows what could become a copy: the
copies that are held, and the properties that requests hold in hand at the generation that is still
current. Every call but an invalidation keeps what these are known to be, since they were read from
the database, and an invalidation leaves none of them.
-/

namespace DocumentGateway.Gateway

open DocumentGateway.Flow (Call Phase Program)

/-- The crowd of some visitors after a schedule, with nothing stored at first. -/
def crowdAfter (visitors : Nat → Visitor) (enabled : Bool) (ttl : Nat)
    (schedule : List (Turn Occasion)) : Crowd Occasion State :=
  (Crowd.start visitors (.initial enabled ttl)).run State.answer schedule

/-- What a request has at hand is not newer than the generation, and good if it is not older. -/
def Fits (good : Document → Prop) (generation : Nat) : Phase → Prop
  | .noted noted => noted ≤ generation
  | .holding noted props => noted ≤ generation ∧ (noted = generation → good props)
  | _ => True

/-- All that is or could become a copy of a database is good. -/
structure Sound (visitors : Nat → Visitor) (db : String) (good : Document → Prop)
    (crowd : Crowd Occasion State) : Prop where
  parties : crowd.Obeys visitors fun party φ => addressedDb (visitors party).request = db →
    Fits good (crowd.state.cache.generation db) φ
  copies : ∀ copy, (crowd.state.cache.slot db).copy = some copy → good copy.props

/-- A move of the protocol leaves good properties at hand, if what the database holds is good and
the cache forgets nothing. -/
theorem fits_of_moves {db : String} {kind : Store.Write → Prop} {good : Document → Prop}
    {φ ψ : Phase} {c : Call} {o : Occasion} {s : State}
    (hcurrent : ∀ props, s.databases.get? db = some props → good props)
    (hfits : Fits good (s.cache.generation db) φ)
    (hmove : Flow.Moves db kind φ c (State.answer o c s).1 ψ) :
    Fits good (s.cache.generation db) ψ := by
  generalize ha : (State.answer o c s).1 = a at hmove
  cases hmove with
  | note generation =>
    change s.cache.generation db = generation at ha
    exact Nat.le_of_eq ha.symm
  | read generation props =>
    have hread : s.databases.get? db = some props := Except.ok.inj ha
    exact ⟨hfits, fun _ => hcurrent props hread⟩
  | room | look | unread | absent | share | unwritten | refused | written | forget => trivial

theorem Fits.mono {good good' : Document → Prop} {generation : Nat} {φ : Phase}
    (h : Fits good generation φ) (hgood : ∀ props, good props → good' props) :
    Fits good' generation φ := by
  cases φ with
  | noted noted => exact h
  | holding noted props => exact ⟨h.1, fun hnoted => hgood _ (h.2 hnoted)⟩
  | idle | written | published => trivial

/-- Under a new generation nothing at hand is of use, so that it may count as good. -/
theorem Fits.raise {good good' : Document → Prop} {generation : Nat} {φ : Phase}
    (h : Fits good generation φ) : Fits good' (generation + 1) φ := by
  cases φ with
  | noted noted => exact Nat.le_succ_of_le h
  | holding noted props =>
    have hle : noted ≤ generation := h.1
    exact ⟨Nat.le_succ_of_le hle, fun hnew => by omega⟩
  | idle | written | published => trivial

namespace Sound

variable {visitors : Nat → Visitor} {db : String} {good good' : Document → Prop}
  {crowd : Crowd Occasion State} {turn : Turn Occasion} {c : Call}
  {next : c.Answer → Program Http.Response}

theorem start (enabled : Bool) (ttl : Nat) :
    Sound visitors db good (.start visitors (.initial enabled ttl)) := by
  refine ⟨Crowd.Obeys.start fun _ _ => trivial, fun copy hcopy => ?_⟩
  simp [Crowd.start, State.initial] at hcopy

theorem mono (h : Sound visitors db good crowd) (hgood : ∀ props, good props → good' props) :
    Sound visitors db good' crowd := by
  refine ⟨fun party => ?_, fun copy hcopy => hgood _ (h.copies copy hcopy)⟩
  obtain ⟨φ, hobeys, hfits⟩ := h.parties party
  exact ⟨φ, hobeys, fun hdb => (hfits hdb).mono hgood⟩

/-- As long as the cache does not forget the database, what is good stays good. -/
theorem advance (h : Sound visitors db good crowd)
    (hcurrent : ∀ props, crowd.state.databases.get? db = some props → good props)
    (hprogram : crowd.programs turn.party = .call c next) (hc : forgot db c = false) :
    Sound visitors db good (crowd.advance State.answer turn c next) := by
  have hgeneration : (crowd.advance State.answer turn c next).state.cache.generation db =
      crowd.state.cache.generation db :=
    State.generation_answer_of_not_forgot turn.occasion crowd.state hc
  constructor
  · rw [hgeneration]
    refine h.parties.advance hprogram (fun φ ψ hfits hmove hdb => ?_) fun _ _ hfits => hfits
    rw [hdb] at hmove
    exact fits_of_moves hcurrent (hfits hdb) hmove
  · intro copy hcopy
    rcases State.copy_of_answer hcopy with hold | rfl
    · exact h.copies copy hold
    · -- Only what a request has at hand is ever stored, and at the generation it has noted.
      obtain ⟨φ, ψ, hfits, hmove⟩ := h.parties.moves State.answer hprogram
      generalize (crowd.event State.answer turn _).answer = a at hmove
      generalize hdb : addressedDb (visitors turn.party).request = name at hmove hfits
      cases hmove with
      | share => exact (hfits rfl).2 rfl

/-- When the cache has forgotten a database, nothing is left that is or could become a copy. -/
theorem forget (h : Sound visitors db good crowd)
    (hprogram : crowd.programs turn.party = .call c next) (hc : forgot db c = true) :
    Sound visitors db good' (crowd.advance State.answer turn c next) := by
  have hgeneration : (crowd.advance State.answer turn c next).state.cache.generation db =
      crowd.state.cache.generation db + 1 :=
    State.generation_answer_of_forgot turn.occasion crowd.state hc
  constructor
  · rw [hgeneration]
    refine h.parties.advance hprogram (fun φ ψ hfits hmove hdb => ?_)
      fun _ _ hfits hdb => (hfits hdb).raise
    generalize (crowd.event State.answer turn c).answer = a at hmove
    cases hmove with
    | forget => trivial
    | room | look | note | unread | absent | read | share | unwritten | refused | written =>
      cases hc
  · intro copy hcopy
    exact absurd hcopy (State.copy_answer_of_forgot hc)

end Sound

/-- The event at some place of a log wrote a database, and its party has not told the cache
since. -/
def Pending (log : List (Event Occasion State)) (db : String) (n : Nat) : Prop :=
  ∃ e, log[n]? = some e ∧ e.writes db = true ∧
    ∀ m later, n < m → log[m]? = some later → later.party = e.party → later.forgets db = false

/-- The event at some place of a log wrote a database, and at another place its party told the
cache. -/
def Told (log : List (Event Occasion State)) (db : String) (n m : Nat) : Prop :=
  ∃ e later, log[n]? = some e ∧ e.writes db = true ∧ n < m ∧ log[m]? = some later ∧
    later.party = e.party ∧ later.forgets db = true

/-- A database has held some properties at some time after an event of the log. -/
def HeldSince (crowd : Crowd Occasion State) (db : String) (n : Nat) (props : Document) : Prop :=
  crowd.state.databases.get? db = some props ∨
    ∃ m e, n < m ∧ crowd.log[m]? = some e ∧ e.before.databases.get? db = some props

/-- What is known of the copies of a database while requests are in flight: unless a write is
pending they are current; after a write has been told to the cache they are no older than that
write; and so is all that requests have obtained since. -/
structure Coherence (visitors : Nat → Visitor) (db : String) (crowd : Crowd Occasion State) :
    Prop where
  current : Sound visitors db (fun props =>
    crowd.state.databases.get? db = some props ∨ ∃ n, Pending crowd.log db n) crowd
  recent : ∀ n m, Told crowd.log db n m → Sound visitors db (HeldSince crowd db n) crowd
  obtained : ∀ n m k e props, Told crowd.log db n m → m < k → crowd.log[k]? = some e →
    e.obtains? db = some props →
    ∃ i held, n < i ∧ i ≤ k ∧ crowd.log[i]? = some held ∧ held.before.databases.get? db = props

section

variable {visitors : Nat → Visitor} {db : String} {crowd : Crowd Occasion State}
  {turn : Turn Occasion} {c : Call} {next : c.Answer → Program Http.Response}

/-- A write stays pending while the cache is not told of anything. -/
theorem Pending.advance {n : Nat} (h : Pending crowd.log db n) (hc : forgot db c = false) :
    Pending (crowd.advance State.answer turn c next).log db n := by
  obtain ⟨e, he, hwrites, hlater⟩ := h
  refine ⟨e, Crowd.getElem?_log_advance.mpr (.inl he), hwrites, fun m later hm hlog hparty => ?_⟩
  rcases Crowd.getElem?_log_advance.mp hlog with hold | ⟨_, rfl⟩
  · exact hlater m later hm hold hparty
  · exact hc

/-- A write is pending when it has just been made. -/
theorem pending_of_wrote
    (hw : wrote db c (State.answer turn.occasion c crowd.state).1 = true) :
    Pending (crowd.advance State.answer turn c next).log db crowd.log.length := by
  refine ⟨crowd.event State.answer turn c, Crowd.getElem?_log_advance.mpr (.inr ⟨rfl, rfl⟩), hw,
    fun m later hm hlog _ => ?_⟩
  rcases Crowd.getElem?_log_advance.mp hlog with hold | ⟨rfl, _⟩
  · have hlength := (List.getElem?_eq_some_iff.mp hold).1
    omega
  · omega

/-- What was told to the cache had been told before, unless it has just been told. -/
theorem told_of_advance {n m : Nat} (h : Told (crowd.advance State.answer turn c next).log db n m)
    (hm : m < crowd.log.length) : Told crowd.log db n m := by
  obtain ⟨e, later, he, hwrites, hnm, hlater, hparty, hforgets⟩ := h
  rcases Crowd.getElem?_log_advance.mp he with he | ⟨rfl, _⟩
  · rcases Crowd.getElem?_log_advance.mp hlater with hlater | ⟨rfl, _⟩
    · exact ⟨e, later, he, hwrites, hnm, hlater, hparty, hforgets⟩
    · omega
  · omega

/-- What a database holds before a call is among what it has held after the call. -/
theorem HeldSince.advance {n : Nat} {props : Document} (h : HeldSince crowd db n props)
    (hn : n < crowd.log.length) :
    HeldSince (crowd.advance State.answer turn c next) db n props := by
  rcases h with hcurrent | ⟨m, e, hm, he, hprops⟩
  · exact .inr ⟨crowd.log.length, crowd.event State.answer turn c, hn,
      Crowd.getElem?_log_advance.mpr (.inr ⟨rfl, rfl⟩), hcurrent⟩
  · exact .inr ⟨m, e, hm, Crowd.getElem?_log_advance.mpr (.inl he), hprops⟩

/-- What has been held since some event is still known to have been, after any call but an
invalidation. -/
theorem Sound.advance_heldSince {n : Nat} (h : Sound visitors db (HeldSince crowd db n) crowd)
    (hn : n < crowd.log.length) (hprogram : crowd.programs turn.party = .call c next)
    (hc : forgot db c = false) :
    Sound visitors db (HeldSince (crowd.advance State.answer turn c next) db n)
      (crowd.advance State.answer turn c next) := by
  refine (h.advance (fun props hprops => .inl hprops) hprogram hc).mono ?_
  exact fun props hprops => hprops.advance hn

/-- What a database holds when a call is made it has held since any earlier event. -/
theorem exists_held_of_current {n : Nat} {props : Option Document} (hn : n < crowd.log.length)
    (h : crowd.state.databases.get? db = props) :
    ∃ i held, n < i ∧ i ≤ crowd.log.length ∧
      (crowd.advance State.answer turn c next).log[i]? = some held ∧
      held.before.databases.get? db = props :=
  ⟨crowd.log.length, crowd.event State.answer turn c, hn, Nat.le_refl _,
    Crowd.getElem?_log_advance.mpr (.inr ⟨rfl, rfl⟩), h⟩

/-- What a database has held since an event it held at one of the later events. -/
theorem HeldSince.exists_held {n : Nat} {props : Document} (h : HeldSince crowd db n props)
    (hn : n < crowd.log.length) :
    ∃ i held, n < i ∧ i ≤ crowd.log.length ∧
      (crowd.advance State.answer turn c next).log[i]? = some held ∧
      held.before.databases.get? db = some props := by
  rcases h with hcurrent | ⟨i, held, hni, hheld, hvalue⟩
  · exact exists_held_of_current hn hcurrent
  · have hi := (List.getElem?_eq_some_iff.mp hheld).1
    exact ⟨i, held, hni, Nat.le_of_lt hi, Crowd.getElem?_log_advance.mpr (.inl hheld), hvalue⟩

namespace Coherence

theorem start (enabled : Bool) (ttl : Nat) :
    Coherence visitors db (.start visitors (.initial enabled ttl)) := by
  refine ⟨Sound.start enabled ttl, fun n m h => ?_, fun n m k e props h => ?_⟩
  · obtain ⟨e, _, he, _⟩ := h
    cases he
  · obtain ⟨e, _, he, _⟩ := h
    cases he

theorem current_advance (h : Coherence visitors db crowd)
    (hprogram : crowd.programs turn.party = .call c next) :
    Sound visitors db (fun props =>
      (crowd.advance State.answer turn c next).state.databases.get? db = some props ∨
        ∃ n, Pending (crowd.advance State.answer turn c next).log db n)
      (crowd.advance State.answer turn c next) := by
  cases hc : forgot db c with
  | true => exact h.current.forget hprogram hc
  | false =>
    refine (h.current.advance (fun props hprops => .inl hprops) hprogram hc).mono ?_
    intro props hgood
    rcases hgood with hcurrent | ⟨n, hn⟩
    · cases hw : wrote db c (State.answer turn.occasion c crowd.state).1 with
      | true => exact .inr ⟨_, pending_of_wrote hw⟩
      | false => exact .inl ((State.get?_answer_of_not_wrote _ _ hw).trans hcurrent)
    · exact .inr ⟨n, hn.advance hc⟩

theorem recent_advance (h : Coherence visitors db crowd)
    (hprogram : crowd.programs turn.party = .call c next) {n m : Nat}
    (htold : Told (crowd.advance State.answer turn c next).log db n m) :
    Sound visitors db (HeldSince (crowd.advance State.answer turn c next) db n)
      (crowd.advance State.answer turn c next) := by
  cases hc : forgot db c with
  | true => exact h.current.forget hprogram hc
  | false =>
    have hm : m < crowd.log.length := by
      obtain ⟨_, later, _, _, _, hlater, _, hforgets⟩ := htold
      rcases Crowd.getElem?_log_advance.mp hlater with hold | ⟨_, rfl⟩
      · exact (List.getElem?_eq_some_iff.mp hold).1
      · change forgot db c = true at hforgets
        rw [hc] at hforgets
        cases hforgets
    have hold := told_of_advance htold hm
    have hn : n < crowd.log.length := by
      obtain ⟨_, _, _, _, hnm, _⟩ := hold
      omega
    exact (h.recent n m hold).advance_heldSince hn hprogram hc

theorem obtained_advance (h : Coherence visitors db crowd) {n m k : Nat}
    {e : Event Occasion State} {props : Option Document}
    (htold : Told (crowd.advance State.answer turn c next).log db n m) (hmk : m < k)
    (he : (crowd.advance State.answer turn c next).log[k]? = some e)
    (hprops : e.obtains? db = some props) :
    ∃ i held, n < i ∧ i ≤ k ∧ (crowd.advance State.answer turn c next).log[i]? = some held ∧
      held.before.databases.get? db = props := by
  rcases Crowd.getElem?_log_advance.mp he with hold | ⟨rfl, rfl⟩
  · have hk := (List.getElem?_eq_some_iff.mp hold).1
    obtain ⟨i, held, hni, hik, hheld, hvalue⟩ :=
      h.obtained n m k e props (told_of_advance htold (by omega)) hmk hold hprops
    exact ⟨i, held, hni, hik, Crowd.getElem?_log_advance.mpr (.inl hheld), hvalue⟩
  · have htold' := told_of_advance htold hmk
    have hn : n < crowd.log.length := by
      obtain ⟨_, _, _, _, hnm, _⟩ := htold'
      omega
    rcases State.obtained_answer hprops with ⟨_, _, copy, hcopy, rfl⟩ | hread
    · exact ((h.recent n m htold').copies copy hcopy).exists_held hn
    · exact exists_held_of_current hn hread

end Coherence

end

theorem coherence (visitors : Nat → Visitor) (enabled : Bool) (ttl : Nat)
    (schedule : List (Turn Occasion)) (db : String) :
    Coherence visitors db (crowdAfter visitors enabled ttl schedule) := by
  refine Crowd.run_invariant (fun crowd turn c next h hprogram => ?_)
    (Coherence.start enabled ttl) schedule
  exact ⟨h.current_advance hprogram, fun n m htold => h.recent_advance hprogram htold,
    fun n m k e props htold hmk he hprops => h.obtained_advance htold hmk he hprops⟩

/-- Any number of requests in flight, in any order of their calls and with copies expiring at any
time: a copy that differs from what the database holds is held only while some request that has
written the database has yet to tell the cache; and whoever obtains properties of a database after
a write to it has been told to the cache, from the cache or past it, obtains what the database has
held at some time since that write. What a request obtains it goes on with, and without having
obtained anything none is served. -/
theorem crowd_coherent (visitors : Nat → Visitor) (enabled : Bool) (ttl : Nat)
    (schedule : List (Turn Occasion)) (db : String) :
    let crowd := crowdAfter visitors enabled ttl schedule
    (∀ copy, (crowd.state.cache.slot db).copy = some copy →
      crowd.state.databases.get? db ≠ some copy.props → ∃ n, Pending crowd.log db n) ∧
    (∀ n m k e props, Told crowd.log db n m → m < k → crowd.log[k]? = some e →
      e.obtains? db = some props →
      ∃ i held, n < i ∧ i ≤ k ∧ crowd.log[i]? = some held ∧
        held.before.databases.get? db = props) ∧
    crowd.ServesFound visitors db := by
  intro crowd
  have hcoherence := coherence visitors enabled ttl schedule db
  refine ⟨fun copy hcopy hdiffers => ?_, hcoherence.obtained, servesFound visitors _ _ _ db⟩
  rcases hcoherence.current.copies copy hcopy with hcurrent | hpending
  · exact absurd hcurrent hdiffers
  · exact hpending

/-- A request writes and tells the cache; another one reads what was written, goes on with it, has
it stored, and writes in its turn. What it has read is then the first version, which is since that
write; and the copy is behind, while the second write is pending. -/
theorem crowd_coherent_behind :
    let schedule := List.replicate 5 ⟨0, ⟨0, "first", .ok ()⟩⟩ ++
      List.replicate 5 ⟨1, ⟨0, "second", .ok ()⟩⟩
    let crowd := crowdAfter rivals true 60 schedule
    let earlier := crowdAfter rivals true 60 (schedule.take 8)
    (∃ copy, (crowd.state.cache.slot "shop").copy = some copy ∧
      crowd.state.databases.get? "shop" ≠ some copy.props ∧ ∃ n, Pending crowd.log "shop" n) ∧
    (Told crowd.log "shop" 3 4 ∧ ∃ e props, crowd.log[7]? = some e ∧
      e.obtains? "shop" = some props ∧ ∃ i held, 3 < i ∧ i ≤ 7 ∧ crowd.log[i]? = some held ∧
        held.before.databases.get? "shop" = props) ∧
    ∃ e props, earlier.log.getLast? = some e ∧ e.obtains? "shop" = some props ∧
      Proceeds "shop" (rivals e.party).dispatched props (earlier.programs e.party) := by
  intro schedule crowd earlier
  obtain ⟨hbehind, hsince, _⟩ := crowd_coherent rivals true 60 schedule "shop"
  refine ⟨?behind, ?since, ?found⟩
  case behind =>
    have hcopied : (crowd.state.cache.slot "shop").copy.map
        (fun copy => copy.props.text? etagField) = some (some "first") := by decide +kernel
    have hstored : crowd.state.databases.version? "shop" = some "second" := by decide +kernel
    obtain ⟨copy, hcopy, hfirst⟩ := Option.map_eq_some_iff.mp hcopied
    have hdiffers : crowd.state.databases.get? "shop" ≠ some copy.props := by
      intro hsame
      rw [Store.Database.version?, hsame, Option.bind_some, hfirst] at hstored
      revert hstored
      decide
    exact ⟨copy, hcopy, hdiffers, hbehind copy hcopy hdiffers⟩
  case since =>
    have hwrites : crowd.log[3]?.map (fun e => (e.writes "shop", e.party)) = some (true, 0) := by
      decide +kernel
    have hforgets : crowd.log[4]?.map (fun e => (e.forgets "shop", e.party)) = some (true, 0) := by
      decide +kernel
    have hobtains : (crowd.log[7]?.bind fun e => e.obtains? "shop").isSome := by decide +kernel
    obtain ⟨e, he, hwrote⟩ := Option.map_eq_some_iff.mp hwrites
    obtain ⟨later, hlater, hforgot⟩ := Option.map_eq_some_iff.mp hforgets
    obtain ⟨props, hbind⟩ := Option.isSome_iff_exists.mp hobtains
    obtain ⟨reader, hreader, hprops⟩ := Option.bind_eq_some_iff.mp hbind
    obtain ⟨hwrote, hparty⟩ := Prod.mk.inj hwrote
    obtain ⟨hforgot, hparty'⟩ := Prod.mk.inj hforgot
    have htold : Told crowd.log "shop" 3 4 :=
      ⟨e, later, he, hwrote, by decide, hlater, hparty'.trans hparty.symm, hforgot⟩
    exact ⟨htold, reader, props, hreader, hprops,
      hsince 3 4 7 reader props htold (by decide) hreader hprops⟩
  case found =>
    obtain ⟨_, _, hserves⟩ := crowd_coherent rivals true 60 (schedule.take 8) "shop"
    have hobtains : (earlier.log.getLast?.bind fun e => e.obtains? "shop").isSome := by
      decide +kernel
    obtain ⟨props, hbind⟩ := Option.isSome_iff_exists.mp hobtains
    obtain ⟨reader, hreader, hprops⟩ := Option.bind_eq_some_iff.mp hbind
    exact ⟨reader, props, hreader, hprops, hserves.found reader props hreader hprops⟩

end DocumentGateway.Gateway

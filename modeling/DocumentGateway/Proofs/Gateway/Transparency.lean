import DocumentGateway.Gateway.Session
import DocumentGateway.Proofs.Flow.Write
import DocumentGateway.Proofs.Store.Cache
import DocumentGateway.Proofs.Store.Database
import DocumentGateway.Proofs.Upload.Gathering

/-!
# The cache cannot be noticed

As long as requests are answered one after another, every copy in the cache is what the database
holds. Two states that hold the same database under such caches are then alike to every request,
whatever else the caches hold and whenever copies expire. The statement is relational and composes
along the stages: a program is transparent if alike states give it the same value and stay alike. A
write alone is not, since the cache is out of step until it forgets the name, so a write is
transparent only together with what follows it.
-/

namespace DocumentGateway.Gateway

open DocumentGateway.Flow (Call Program Stage Passage)

/-- Every copy in the cache is what the database holds. -/
def State.Coherent (s : State) : Prop :=
  ∀ db copy, (s.cache.slot db).copy = some copy → s.databases.get? db = some copy.props

/-- Two states with the same database, the cache of each holding nothing but copies of it. -/
structure State.Alike (s t : State) : Prop where
  databases : s.databases = t.databases
  left : s.Coherent
  right : t.Coherent

theorem State.coherent_initial (enabled : Bool) (ttl : Nat) :
    (State.initial enabled ttl).Coherent := by
  intro db copy h
  simp [State.initial] at h

/-- Looking a name up keeps the cache in step. -/
theorem State.Coherent.lookUp {s : State} (h : s.Coherent) (db : String) (now : Nat) :
    State.Coherent ⟨s.databases, (s.cache.get db now).2⟩ :=
  fun other copy hc => h other copy (Store.Cache.copy_of_get hc)

/-- What has just been read from the database may be stored. -/
theorem State.Coherent.remember {s : State} (h : s.Coherent) {db : String} {props : Document}
    (hp : s.databases.get? db = some props) (generation now : Nat) :
    State.Coherent ⟨s.databases, (s.cache.put db generation props now).2⟩ := by
  intro other copy hc
  rcases Store.Cache.copy_of_put hc with hold | ⟨rfl, _, hnew⟩
  · exact h other copy hold
  · rw [hnew]
    exact hp

/-- A write is in step again once the cache has forgotten the name. -/
theorem State.Coherent.write {s : State} (h : s.Coherent) (db : String) (w : Store.Write)
    (fresh : String) :
    State.Coherent
      ⟨(Store.Database.upsert s.databases db w fresh).2, s.cache.invalidate db⟩ := by
  intro other copy hc
  obtain ⟨hne, hold⟩ := Store.Cache.copy_of_invalidate hc
  rw [Store.Database.get?_upsert_of_ne w fresh hne]
  exact h other copy hold

variable {α β : Type}

/-- Alike states give the program the same value and stay alike, whenever copies expire. -/
def Transparent (p : Program α) : Prop :=
  ∀ (v : Visit) (clock clock' : Nat → Nat) (s t : Clocked), s.state.Alike t.state →
    (p.run (v.answer clock) s).1 = (p.run (v.answer clock') t).1 ∧
      (p.run (v.answer clock) s).2.state.Alike (p.run (v.answer clock') t).2.state

theorem transparent_done (value : α) : Transparent (.done value) := fun _ _ _ _ _ h => ⟨rfl, h⟩

/-- Transparent programs may be put one after the other. -/
theorem Transparent.bind {p : Program α} {f : α → Program β} (hp : Transparent p)
    (hf : ∀ value, Transparent (f value)) : Transparent (p.bind f) := by
  intro v clock clock' s t h
  obtain ⟨hvalue, hstate⟩ := hp v clock clock' s t h
  rw [Program.run_bind, Program.run_bind, hvalue]
  exact hf _ v clock clock' _ _ hstate

theorem transparent_reserve {next : Except String Unit → Program α}
    (h : ∀ answer, Transparent (next answer)) : Transparent (.call .reserve next) :=
  fun v clock clock' s t hst =>
    h v.storage v clock clock' ⟨s.state, s.readings + 1⟩ ⟨t.state, t.readings + 1⟩ hst

/-- Past the cache the properties of a database are what the database holds, and the cache has them
from then on. -/
theorem run_loadProps_eq (v : Visit) (clock : Nat → Nat) (db : String) (s : Clocked) :
    (Flow.loadProps db).run (v.answer clock) s =
      match s.state.databases.get? db with
      | some props => (.ok (some props), ⟨⟨s.state.databases, (s.state.cache.put db
          (s.state.cache.generation db) props (clock (s.readings + 2))).2⟩, s.readings + 3⟩)
      | none => (.ok none, ⟨s.state, s.readings + 2⟩) := by
  unfold Flow.loadProps
  cases hdb : s.state.databases.get? db <;>
    simp [Program.run, Visit.answer, State.answer, hdb, Visit.occasion]

/-- To read past the cache keeps the state coherent. -/
theorem run_loadProps (v : Visit) (clock : Nat → Nat) (db : String) (s : Clocked)
    (h : s.state.Coherent) :
    ((Flow.loadProps db).run (v.answer clock) s).1 = .ok (s.state.databases.get? db) ∧
      ((Flow.loadProps db).run (v.answer clock) s).2.state.databases = s.state.databases ∧
      ((Flow.loadProps db).run (v.answer clock) s).2.state.Coherent := by
  rw [run_loadProps_eq]
  cases hdb : s.state.databases.get? db with
  | none => exact ⟨rfl, rfl, h⟩
  | some props => exact ⟨rfl, rfl, h.remember hdb _ _⟩

/-- The properties of a database as it is looked up: in a coherent state they are what the database
holds, from the cache as well as past it, and the state stays coherent. -/
theorem run_currentProps (v : Visit) (clock : Nat → Nat) (db : String) (s : Clocked)
    (h : s.state.Coherent) :
    ((Flow.currentProps db).run (v.answer clock) s).1 = .ok (s.state.databases.get? db) ∧
      ((Flow.currentProps db).run (v.answer clock) s).2.state.databases = s.state.databases ∧
      ((Flow.currentProps db).run (v.answer clock) s).2.state.Coherent := by
  have hlook := h.lookUp db (clock s.readings)
  simp only [Flow.currentProps, Program.run_call, Visit.answer, State.answer, Visit.occasion]
  cases hget : (s.state.cache.get db (clock s.readings)).1 with
  | some props =>
    obtain ⟨copy, hcopy, rfl⟩ := Store.Cache.exists_copy_of_get hget
    exact ⟨by simp [h db copy hcopy], rfl, hlook⟩
  | none => exact run_loadProps v clock db ⟨_, s.readings + 1⟩ hlook

theorem transparent_currentProps (db : String) : Transparent (Flow.currentProps db) := by
  intro v clock clock' s t h
  obtain ⟨hs, hsd, hsc⟩ := run_currentProps v clock db s h.left
  obtain ⟨ht, htd, htc⟩ := run_currentProps v clock' db t h.right
  refine ⟨?_, ?_, hsc, htc⟩
  · rw [hs, ht, h.databases]
  · rw [hsd, htd, h.databases]

theorem transparent_refuse (p : Passage) (status : Http.Status) (message : String) :
    Transparent (p.refuse status message) := transparent_done _

/-- A write is transparent together with the invalidation that follows it. -/
theorem transparent_write (mode : Flow.WriteMode) {next : Stage}
    (hnext : ∀ p, Transparent (next p)) (p : Passage) : Transparent (Flow.write mode next p) := by
  unfold Flow.write
  cases hd : Flow.writableDocument mode p.context with
  | error e => exact transparent_refuse _ _ _
  | ok d =>
    intro v clock clock' s t h
    obtain ⟨⟨databases, c⟩, i⟩ := s
    obtain ⟨⟨databases', c'⟩, j⟩ := t
    obtain rfl : databases = databases' := h.databases
    have hs : State.Coherent ⟨databases, c⟩ := h.left
    have ht : State.Coherent ⟨databases, c'⟩ := h.right
    -- Both sides write the same, so that one case distinction serves both.
    let outcome :=
      Store.Database.upsert databases p.context.db (Flow.writeOf mode p.context d) v.etag
    let left : Clocked := ⟨⟨outcome.2, c⟩, i + 1⟩
    let right : Clocked := ⟨⟨outcome.2, c'⟩, j + 1⟩
    change ((Flow.afterWrite next p outcome.1).run (v.answer clock) left).1 =
        ((Flow.afterWrite next p outcome.1).run (v.answer clock') right).1 ∧
      ((Flow.afterWrite next p outcome.1).run (v.answer clock) left).2.state.Alike
        ((Flow.afterWrite next p outcome.1).run (v.answer clock') right).2.state
    cases hsuccess : outcome.1.status.isSuccess with
    | false =>
      obtain ⟨status, message, _, hrefuse⟩ := Flow.afterWrite_of_not_success next p hsuccess
      have hsame : outcome.2 = databases := Store.Database.upsert_of_not_success hsuccess
      have hleft : left.state.Coherent := by
        change State.Coherent ⟨outcome.2, c⟩
        rwa [hsame]
      have hright : right.state.Coherent := by
        change State.Coherent ⟨outcome.2, c'⟩
        rwa [hsame]
      rw [hrefuse]
      exact ⟨rfl, rfl, hleft, hright⟩
    | true =>
      rw [Flow.afterWrite_of_success next p hsuccess]
      have hrest := (hnext ((p.record outcome.1).acknowledge outcome.1.status)).bind
        fun r => transparent_done r.finish
      exact hrest v clock clock' ⟨⟨outcome.2, c.invalidate p.context.db⟩, i + 2⟩
        ⟨⟨outcome.2, c'.invalidate p.context.db⟩, j + 2⟩
        ⟨rfl, hs.write _ _ _, ht.write _ _ _⟩

theorem transparent_present {next : Stage} (hnext : ∀ p, Transparent (next p)) (p : Passage) :
    Transparent (Flow.present next p) := by
  unfold Flow.present
  cases p.context.props with
  | none => exact transparent_refuse _ _ _
  | some props => exact (hnext _).bind fun r => transparent_done r.finish

theorem transparent_stop (p : Passage) : Transparent (Flow.Stage.stop p) := transparent_done _

theorem transparent_dispatch (p : Passage) : Transparent (Flow.dispatch Flow.Task.stage p) := by
  unfold Flow.dispatch
  cases Flow.Task.of? p.context.resource p.context.verb with
  | none => exact transparent_refuse _ _ _
  | some task =>
    cases task with
    | replace => exact transparent_write .replace transparent_stop p
    | merge => exact transparent_write .merge transparent_stop p
    | present => exact transparent_present transparent_stop p

theorem transparent_lookup {next : Stage} (hnext : ∀ p, Transparent (next p)) (p : Passage) :
    Transparent (Flow.lookup next p) := by
  unfold Flow.lookup
  split
  · exact hnext p
  · refine (transparent_currentProps _).bind fun read => ?_
    cases read with
    | error e => exact transparent_done _
    | ok props => exact hnext _

theorem transparent_readContent (reading : Flow.BodyReading) (p : Passage) :
    Transparent (Flow.readContent reading p) := by
  have hform : ∀ form, Transparent (Flow.storeUpload reading.sniff form) := by
    intro form
    rw [Flow.storeUpload_eq, Flow.roomFor]
    split
    · refine transparent_reserve fun room => ?_
      cases room <;> exact transparent_done _
    · exact transparent_done _
  have hupload : Transparent (Flow.readUpload reading p.exchange) := by
    unfold Flow.readUpload
    split
    · split
      · exact transparent_done _
      · exact hform _
    · split <;> exact transparent_done _
  unfold Flow.readContent
  split
  · refine hupload.bind fun read => ?_
    cases read <;> exact transparent_done _
  · split <;> exact transparent_done _

theorem transparent_proceed {next : Stage} (hnext : ∀ p, Transparent (next p)) (p : Passage)
    (read : Except BodyError Content) : Transparent (Flow.proceed next p read) := by
  unfold Flow.proceed
  split
  · exact hnext _
  · exact transparent_done _
  · exact transparent_refuse _ _ _

theorem transparent_intake (reading : Flow.BodyReading) {next : Stage}
    (hnext : ∀ p, Transparent (next p)) (p : Passage) :
    Transparent (Flow.intake reading next p) := by
  unfold Flow.intake
  split
  · exact hnext p
  · exact hnext p
  · exact hnext p
  · refine (transparent_readContent reading p).bind fun read => ?_
    obtain ⟨content, context⟩ := read
    cases content with
    | error e => exact transparent_proceed hnext _ _
    | ok content => exact transparent_proceed hnext _ _

theorem transparent_admission (rules : Access.Rules) {next : Stage}
    (hnext : ∀ p, Transparent (next p)) (p : Passage) :
    Transparent (Flow.admission rules next p) := by
  unfold Flow.admission
  split
  · exact hnext _
  · exact transparent_refuse _ _ _
  · exact transparent_refuse _ _ _

/-- Serving a request is transparent. -/
theorem transparent_serve (settings : Setup) (fresh : Http.HeaderValue) (r : Http.Request) :
    Transparent (serve settings fresh r) := by
  have hchain : ∀ p, Transparent (Flow.chain settings.security.rules (bodyReading settings) p) :=
    transparent_admission _ (transparent_intake _ (transparent_lookup transparent_dispatch))
  unfold serve
  refine Transparent.bind ?_ fun response => transparent_done _
  split
  · exact (hchain _).bind fun result => transparent_done _
  · exact transparent_done _

/-- Sessions with the same visits whose settings differ in the cache alone give the same responses
and keep their states alike. -/
theorem session_alike (settings : Setup) (caching caching' : Settings.Caching)
    (clock clock' : Nat → Nat) (visits : List Visit) (s t : Clocked)
    (h : s.state.Alike t.state) :
    (session { settings with cache := caching } clock visits s).1 =
        (session { settings with cache := caching' } clock' visits t).1 ∧
      (session { settings with cache := caching } clock visits s).2.state.Alike
        (session { settings with cache := caching' } clock' visits t).2.state := by
  induction visits generalizing s t with
  | nil => exact ⟨rfl, h⟩
  | cons v rest ih =>
    -- What a request is served as does not look at how the cache is set.
    obtain ⟨hresponse, hstate⟩ :=
      transparent_serve settings v.fresh v.request v clock clock' s t h
    obtain ⟨hresponses, hlast⟩ := ih _ _ hstate
    exact ⟨List.cons_eq_cons.mpr ⟨hresponse, hresponses⟩, hlast⟩

/-- The responses to requests answered one after another, and the databases they leave, do not
depend on whether properties are cached, for how long copies are kept and when the clock lets them
expire. -/
theorem sessionFromStart_of_cache (settings : Setup) (caching caching' : Settings.Caching)
    (clock clock' : Nat → Nat) (visits : List Visit) :
    (sessionFromStart { settings with cache := caching } clock visits).1 =
        (sessionFromStart { settings with cache := caching' } clock' visits).1 ∧
      (sessionFromStart { settings with cache := caching } clock visits).2.state.databases =
        (sessionFromStart { settings with cache := caching' } clock' visits).2.state.databases := by
  have halike := session_alike settings caching caching' clock clock' visits
    ⟨.initial caching.enabled caching.ttlSecs, 0⟩ ⟨.initial caching'.enabled caching'.ttlSecs, 0⟩
    ⟨rfl, State.coherent_initial _ _, State.coherent_initial _ _⟩
  exact ⟨halike.1, halike.2.databases⟩

end DocumentGateway.Gateway

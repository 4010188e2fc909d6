import DocumentGateway.Proofs.Gateway.Coherence
import DocumentGateway.Proofs.Gateway.LostUpdate
import DocumentGateway.Proofs.Gateway.Telling

/-!
# Versions that have been told

What a response says of a version, its request has been told: with properties that it has obtained,
or in a conflict. A version that has been told was given by an earlier write, so whoever comes later
comes after that write. What he obtains is no older, unless it is a copy: a copy may be older as
long as the cache has not been told anything of the database since that write.
-/

namespace DocumentGateway.Gateway

open DocumentGateway.Flow (Call Found Program Reply)

/-- The version of a database that a call was told, with its properties or in a conflict. -/
def versionTold? (db : String) : (c : Call) → c.Answer → Option String
  | .upsert name _, .ok result => if name = db && result.isConflict then result.etag else none
  | c, answer => (obtained? db c answer).join.bind (·.text? etagField)

/-- A response shows a version of a database: it answers a GET request, or it is a conflict, and the
version is in its header. -/
structure Shows (r : Http.Request) (db version : String) (response : Http.Response) : Prop where
  addressed : addressedDb r = db
  tells : Tells r response
  etag : response.headers.get? "etag" = Http.HeaderValue.ofText? version
  legal : (Http.HeaderValue.ofText? version).isSome

/-- Somebody has been told a version of a database. -/
def Heard (db version : String) (heard : List Reply) : Prop :=
  ∃ reply ∈ heard, versionTold? db reply.call reply.answer = some version

section

variable {db version : String} {replies : List Reply}

theorem heard_of_found {props : Document} (h : Found db replies props)
    (hversion : props.text? etagField = some version) : Heard db version replies := by
  rcases h with hcached | hloaded
  · exact ⟨_, hcached, by simpa [versionTold?, obtained?] using hversion⟩
  · exact ⟨_, hloaded, by simpa [versionTold?, obtained?] using hversion⟩

/-- A version that a header shows is the one that was put there. -/
theorem eq_some_of_etag {etag : Option String}
    (h : etag.bind Http.HeaderValue.ofText? = Http.HeaderValue.ofText? version)
    (hlegal : (Http.HeaderValue.ofText? version).isSome) : etag = some version := by
  obtain ⟨value, hvalue⟩ := Option.isSome_iff_exists.mp hlegal
  rw [hvalue] at h
  obtain ⟨text, rfl, htext⟩ := Option.bind_eq_some_iff.mp h
  rw [Http.ofText?_injective htext hvalue]

/-- A version that a header shows has been told. -/
theorem Sourced.heard (h : Sourced db replies (Http.HeaderValue.ofText? version))
    (hlegal : (Http.HeaderValue.ofText? version).isSome) : Heard db version replies := by
  generalize hheader : Http.HeaderValue.ofText? version = header at h
  cases h with
  | found found => exact heard_of_found found (eq_some_of_etag hheader.symm hlegal)
  | conflict asked conflict =>
    have hversion := eq_some_of_etag hheader.symm hlegal
    exact ⟨_, asked, by simp [versionTold?, Store.WriteResult.isConflict, conflict, hversion]⟩

/-- Every request whose response shows a version has been told it. -/
theorem heard_of_shows {r : Http.Request} {response : Http.Response}
    (h : Tells r response → Sourced (addressedDb r) replies (response.headers.get? "etag"))
    (hshows : Shows r db version response) : Heard db version replies := by
  obtain ⟨rfl, htells, hetag, hlegal⟩ := hshows
  have hsourced := h htells
  rw [hetag] at hsourced
  exact hsourced.heard hlegal

end

/-- What a party has been answered so far. -/
def repliesTo {τ σ : Type} (party : Nat) (log : List (Event τ σ)) : List Reply :=
  log.filterMap fun e => if e.party = party then some ⟨e.call, e.answer⟩ else none

/-- The parties of a crowd will end with what fits all that they have been answered. -/
def Crowd.Ends {τ σ : Type} (fits : Nat → List Reply → Http.Response → Prop)
    (crowd : Crowd τ σ) : Prop :=
  ∀ party, (crowd.programs party).Ends (fits party) (repliesTo party crowd.log)

theorem Crowd.Ends.advance {τ σ : Type} {fits : Nat → List Reply → Http.Response → Prop}
    {crowd : Crowd τ σ} {turn : Turn τ} {c : Call} {next : c.Answer → Program Http.Response}
    {answer : τ → (c : Call) → σ → c.Answer × σ} (h : crowd.Ends fits)
    (hprogram : crowd.programs turn.party = .call c next) :
    (crowd.advance answer turn c next).Ends fits := by
  intro party
  have hlog : repliesTo party (crowd.advance answer turn c next).log = repliesTo party crowd.log ++
      repliesTo party [crowd.event answer turn c] := List.filterMap_append
  rw [hlog]
  by_cases hparty : party = turn.party
  · have hmover := h turn.party
    rw [hprogram] at hmover
    have hreply : repliesTo party [crowd.event answer turn c] =
        [⟨c, (crowd.event answer turn c).answer⟩] := by
      simp [repliesTo, Crowd.event, hparty]
    rw [hreply, hparty]
    simp only [Crowd.advance, if_true]
    exact hmover _
  · have hreply : repliesTo party [crowd.event answer turn c] = [] := by
      simp [repliesTo, Crowd.event, Ne.symm hparty]
    rw [hreply, List.append_nil]
    simp only [Crowd.advance, hparty, if_false]
    exact h party

/-- Every response in a crowd that tells a version has it from what its request has heard. -/
theorem crowd_ends {τ σ : Type} (visitors : Nat → Visitor)
    (answer : τ → (c : Call) → σ → c.Answer × σ) (state : σ) (schedule : List (Turn τ)) :
    ((Crowd.start visitors state).run answer schedule).Ends fun party heard response =>
      Tells (visitors party).request response →
        Sourced (addressedDb (visitors party).request) heard (response.headers.get? "etag") := by
  refine Crowd.run_invariant (fun _ _ _ _ h hprogram => h.advance hprogram) (fun party => ?_)
    schedule
  exact ends_serve _ _ (visitors party).request

/-- The event at some place of a log wrote a database and gave it a version. -/
def Gave (log : List (Event Occasion State)) (db version : String) (n : Nat) : Prop :=
  ∃ e, log[n]? = some e ∧ e.writes db = true ∧ e.occasion.etag = version

/-- Some properties are no older at an event of a log than another event: the database has held them
since. -/
def NoOlder (log : List (Event Occasion State)) (db : String) (n k : Nat)
    (props : Option Document) : Prop :=
  ∃ i held, n < i ∧ i ≤ k ∧ log[i]? = some held ∧ held.before.databases.get? db = props

/-- Nobody has told the cache of a database between two events of a log. -/
def Untold (log : List (Event Occasion State)) (db : String) (n k : Nat) : Prop :=
  ∀ m e, n < m → m < k → log[m]? = some e → e.forgets db = false

/-- A party makes its first call after the last call of another one. -/
def Follows {τ σ : Type} (log : List (Event τ σ)) (earlier later : Nat) : Prop :=
  ∀ (i j : Nat) e e', log[i]? = some e → log[j]? = some e' → e.party = earlier →
    e'.party = later → i < j

/-- Two parties follow each other if the log can be cut between them. -/
theorem follows_of_cut {τ σ : Type} {log : List (Event τ σ)} {earlier later : Nat}
    {before after : List Nat} (hcut : log.map (·.party) = before ++ after)
    (hbefore : later ∉ before) (hafter : earlier ∉ after) : Follows log earlier later := by
  intro i j e e' he he' hearlier hlater
  have hi : (before ++ after)[i]? = some earlier := by
    rw [← hcut, List.getElem?_map, he, ← hearlier]
    rfl
  have hj : (before ++ after)[j]? = some later := by
    rw [← hcut, List.getElem?_map, he', ← hlater]
    rfl
  have hlow : i < before.length := by
    rcases Nat.lt_or_ge i before.length with hlt | hge
    · exact hlt
    · rw [List.getElem?_append_right hge] at hi
      exact absurd (List.mem_of_getElem? hi) hafter
  have hhigh : before.length ≤ j := by
    rcases Nat.lt_or_ge j before.length with hlt | hge
    · rw [List.getElem?_append_left hlt] at hj
      exact absurd (List.mem_of_getElem? hj) hbefore
    · exact hge
  omega

section

variable {visitors : Nat → Visitor} {db version : String} {enabled : Bool}
  {crowd : Crowd Occasion State} {turn : Turn Occasion} {c : Call}
  {next : c.Answer → Program Http.Response}

theorem Gave.of_map {log : List (Event Occasion State)} {n : Nat}
    (h : log[n]?.map (fun e => (e.writes db, e.occasion.etag)) = some (true, version)) :
    Gave log db version n := by
  obtain ⟨e, he, hwrote⟩ := Option.map_eq_some_iff.mp h
  obtain ⟨hwrites, hversion⟩ := Prod.mk.inj hwrote
  exact ⟨e, he, hwrites, hversion⟩

theorem Gave.lt_length {n : Nat} (h : Gave crowd.log db version n) : n < crowd.log.length := by
  obtain ⟨e, he, _⟩ := h
  exact (List.getElem?_eq_some_iff.mp he).1

theorem Gave.advance {n : Nat} (h : Gave crowd.log db version n) :
    Gave (crowd.advance State.answer turn c next).log db version n := by
  obtain ⟨e, he, hgave⟩ := h
  exact ⟨e, Crowd.getElem?_log_advance.mpr (.inl he), hgave⟩

/-- A version that a call is told is that of a copy, or the one that the database carries. -/
theorem versionTold?_answer {o : Occasion} {s : State}
    (h : versionTold? db c (State.answer o c s).1 = some version) :
    (∃ copy, (s.cache.slot db).copy = some copy ∧ copy.props.text? etagField = some version) ∨
      s.databases.version? db = some version := by
  have hobtained : ∀ {c : Call},
      (obtained? db c (State.answer o c s).1).join.bind (·.text? etagField) = some version →
        (∃ copy, (s.cache.slot db).copy = some copy ∧
          copy.props.text? etagField = some version) ∨
          s.databases.version? db = some version := by
    intro c hjoin
    obtain ⟨props, hprops, hversion⟩ := Option.bind_eq_some_iff.mp hjoin
    rcases State.obtained_answer (Option.join_eq_some_iff.mp hprops) with
      ⟨_, _, copy, hcopy, hsame⟩ | hcurrent
    · cases hsame
      exact .inl ⟨copy, hcopy, hversion⟩
    · right
      rw [Store.Database.version?, hcurrent]
      exact hversion
  cases c with
  | upsert name w =>
    have hu := Store.Database.upserted s.databases name w o.etag
    simp only [versionTold?, State.answer] at h
    generalize s.databases.upsert name w o.etag = outcome at h hu
    split at h
    · rename_i hguard
      obtain ⟨rfl, hconflict⟩ : name = db ∧ outcome.1.isConflict = true := by
        simpa using hguard
      right
      cases hu with
      | missing | created | replaced | merged => cases hconflict
      | conflict found =>
        rw [Store.Database.version?, found]
        exact h
    · cases h
  | cached | load => exact hobtained h
  | _ => cases h

/-- What is known of the versions of a database: the one that it carries, those in copies and at
hand, and all that were told have been given by earlier writes. -/
structure Dated (visitors : Nat → Visitor) (db : String) (crowd : Crowd Occasion State) : Prop where
  stored : ∀ version, crowd.state.databases.version? db = some version →
    ∃ n, Gave crowd.log db version n
  copies : Sound visitors db (fun props => ∀ version, props.text? etagField = some version →
    ∃ n, Gave crowd.log db version n) crowd
  told : ∀ (j : Nat) e version, crowd.log[j]? = some e →
    versionTold? db e.call e.answer = some version → ∃ n, n < j ∧ Gave crowd.log db version n

namespace Dated

theorem start (enabled : Bool) (ttl : Nat) :
    Dated visitors db (.start visitors (.initial enabled ttl)) := by
  refine ⟨fun version h => ?_, Sound.start enabled ttl, fun j e version he => ?_⟩
  · cases h
  · cases he

/-- The version that a database carries after a call was given before, or is that of the call. -/
theorem stored_advance (h : Dated visitors db crowd)
    (hprogram : crowd.programs turn.party = .call c next)
    (hversion : (crowd.advance State.answer turn c next).state.databases.version? db =
      some version) :
    ∃ n, Gave (crowd.advance State.answer turn c next).log db version n := by
  cases hw : wrote db c (State.answer turn.occasion c crowd.state).1 with
  | true =>
    obtain ⟨φ, ψ, _, hmove⟩ := h.copies.parties.moves State.answer hprogram
    obtain ⟨w, hfor, hsuccess, hwritten⟩ := exists_write_of_wrote hw hmove
    change (State.answer turn.occasion c crowd.state).2.databases.version? db = _ at hversion
    rw [hwritten, Store.Database.version?_upsert hfor.ordered hsuccess] at hversion
    refine ⟨crowd.log.length, crowd.event State.answer turn c, ?_, hw, Option.some.inj hversion⟩
    exact Crowd.getElem?_log_advance.mpr (.inr ⟨rfl, rfl⟩)
  | false =>
    have hsame : (crowd.advance State.answer turn c next).state.databases.get? db =
        crowd.state.databases.get? db := State.get?_answer_of_not_wrote _ _ hw
    rw [Store.Database.version?, hsame] at hversion
    obtain ⟨n, hn⟩ := h.stored version hversion
    exact ⟨n, hn.advance⟩

theorem copies_advance (h : Dated visitors db crowd)
    (hprogram : crowd.programs turn.party = .call c next) :
    Sound visitors db (fun props => ∀ version, props.text? etagField = some version →
      ∃ n, Gave (crowd.advance State.answer turn c next).log db version n)
      (crowd.advance State.answer turn c next) := by
  cases hc : forgot db c with
  | true => exact h.copies.forget hprogram hc
  | false =>
    refine (h.copies.advance (fun props hprops version hversion => ?_) hprogram hc).mono ?_
    · refine h.stored version ?_
      rw [Store.Database.version?, hprops]
      exact hversion
    · intro props hgood version hversion
      obtain ⟨n, hn⟩ := hgood version hversion
      exact ⟨n, hn.advance⟩

theorem told_advance (h : Dated visitors db crowd) {j : Nat} {e : Event Occasion State}
    (he : (crowd.advance State.answer turn c next).log[j]? = some e)
    (hversion : versionTold? db e.call e.answer = some version) :
    ∃ n, n < j ∧ Gave (crowd.advance State.answer turn c next).log db version n := by
  rcases Crowd.getElem?_log_advance.mp he with hold | ⟨rfl, rfl⟩
  · obtain ⟨n, hn, hgave⟩ := h.told j e version hold hversion
    exact ⟨n, hn, hgave.advance⟩
  · have hgiven : ∃ n, Gave crowd.log db version n := by
      rcases versionTold?_answer hversion with ⟨copy, hcopy, hcarried⟩ | hstored
      · exact h.copies.copies copy hcopy version hcarried
      · exact h.stored version hstored
    obtain ⟨n, hgave⟩ := hgiven
    exact ⟨n, hgave.lt_length, hgave.advance⟩

theorem advance (h : Dated visitors db crowd)
    (hprogram : crowd.programs turn.party = .call c next) :
    Dated visitors db (crowd.advance State.answer turn c next) :=
  ⟨fun _ => h.stored_advance hprogram, h.copies_advance hprogram, fun _ _ _ => h.told_advance⟩

end Dated

/-- What is known of the age of copies: once the cache has been told of a database, whatever is or
could become a copy is no older than any event before that; and what has been obtained after an
event is no older, unless it is a copy and the cache has been told nothing in between. -/
structure Aged (visitors : Nat → Visitor) (enabled : Bool) (db : String)
    (crowd : Crowd Occasion State) : Prop extends Dated visitors db crowd where
  cache : crowd.state.cache.enabled = enabled
  recent : ∀ (n m : Nat) e, n < m → crowd.log[m]? = some e → e.forgets db = true →
    Sound visitors db (HeldSince crowd db n) crowd
  obtained : ∀ n k e props, n < k → crowd.log[k]? = some e → e.obtains? db = some props →
    NoOlder crowd.log db n k props ∨
      enabled = true ∧ e.call = .cached db ∧ Untold crowd.log db n k

namespace Aged

theorem start (enabled : Bool) (ttl : Nat) :
    Aged visitors enabled db (.start visitors (.initial enabled ttl)) := by
  refine ⟨.start enabled ttl, rfl, fun n m e _ he => ?_, fun n k e props _ he => ?_⟩
  · cases he
  · cases he

theorem recent_advance (h : Aged visitors enabled db crowd)
    (hprogram : crowd.programs turn.party = .call c next) {n m : Nat} {e : Event Occasion State}
    (hnm : n < m) (he : (crowd.advance State.answer turn c next).log[m]? = some e)
    (hforgets : e.forgets db = true) :
    Sound visitors db (HeldSince (crowd.advance State.answer turn c next) db n)
      (crowd.advance State.answer turn c next) := by
  cases hc : forgot db c with
  | true => exact h.copies.forget hprogram hc
  | false =>
    rcases Crowd.getElem?_log_advance.mp he with hold | ⟨rfl, rfl⟩
    · have hm := (List.getElem?_eq_some_iff.mp hold).1
      exact (h.recent n m e hnm hold hforgets).advance_heldSince (by omega) hprogram hc
    · cases hc.symm.trans hforgets

theorem obtained_advance (h : Aged visitors enabled db crowd) {n k : Nat}
    {e : Event Occasion State} {props : Option Document} (hnk : n < k)
    (he : (crowd.advance State.answer turn c next).log[k]? = some e)
    (hprops : e.obtains? db = some props) :
    NoOlder (crowd.advance State.answer turn c next).log db n k props ∨
      enabled = true ∧ e.call = .cached db ∧
        Untold (crowd.advance State.answer turn c next).log db n k := by
  have hearlier : ∀ (m : Nat) later, m < crowd.log.length →
      (crowd.advance State.answer turn c next).log[m]? = some later →
      crowd.log[m]? = some later := by
    intro m later hm hlater
    rcases Crowd.getElem?_log_advance.mp hlater with hold | ⟨rfl, _⟩
    · exact hold
    · omega
  rcases Crowd.getElem?_log_advance.mp he with hold | ⟨rfl, rfl⟩
  · have hk := (List.getElem?_eq_some_iff.mp hold).1
    rcases h.obtained n k e props hnk hold hprops with
      ⟨i, held, hni, hik, hheld, hvalue⟩ | ⟨henabled, hcached, huntold⟩
    · exact .inl ⟨i, held, hni, hik, Crowd.getElem?_log_advance.mpr (.inl hheld), hvalue⟩
    · refine .inr ⟨henabled, hcached, fun m later hnm hmk hlater => ?_⟩
      exact huntold m later hnm hmk (hearlier m later (by omega) hlater)
  · rcases State.obtained_answer hprops with ⟨henabled, hcached, copy, hcopy, rfl⟩ | hcurrent
    · -- Either somebody has told the cache since, which makes the copy recent, or nobody has.
      by_cases hforgotten : ∃ (m : Nat) (later : Event Occasion State),
          n < m ∧ crowd.log[m]? = some later ∧ later.forgets db = true
      · obtain ⟨m, later, hnm, hlater, hforgets⟩ := hforgotten
        left
        exact ((h.recent n m later hnm hlater hforgets).copies copy hcopy).exists_held hnk
      · refine .inr ⟨h.cache.symm.trans henabled, hcached, fun m later hnm hm hlater => ?_⟩
        refine Bool.eq_false_iff.mpr fun hforgets => hforgotten ?_
        exact ⟨m, later, hnm, hearlier m later hm hlater, hforgets⟩
    · exact .inl (exists_held_of_current hnk hcurrent)

theorem advance (h : Aged visitors enabled db crowd)
    (hprogram : crowd.programs turn.party = .call c next) :
    Aged visitors enabled db (crowd.advance State.answer turn c next) where
  toDated := h.toDated.advance hprogram
  cache := (State.enabled_answer turn.occasion c crowd.state).trans h.cache
  recent := fun _ _ _ => h.recent_advance hprogram
  obtained := fun _ _ _ _ => h.obtained_advance

end Aged

end

theorem aged (visitors : Nat → Visitor) (enabled : Bool) (ttl : Nat)
    (schedule : List (Turn Occasion)) (db : String) :
    Aged visitors enabled db (crowdAfter visitors enabled ttl schedule) :=
  Crowd.run_invariant (fun _ _ _ _ h hprogram => h.advance hprogram) (Aged.start enabled ttl)
    schedule

/-- Any number of requests in flight, in any order of their calls and with copies expiring at any
time: a version that a finished request shows in its response it has been told in one of its calls;
and whoever makes his first call after the last one of a request that has been told a version comes
after the write that gave it, and obtains nothing older than any such write, unless it is a copy and
the cache has been told nothing of the database since. What a request obtains it goes on with, and
without having obtained anything none is served. -/
theorem told_version_precedes (visitors : Nat → Visitor) (enabled : Bool) (ttl : Nat)
    (schedule : List (Turn Occasion)) (db version : String) (observer : Nat) :
    let crowd := crowdAfter visitors enabled ttl schedule
    (∀ response, crowd.response? observer = some response →
      Shows (visitors observer).request db version response →
      Heard db version (repliesTo observer crowd.log)) ∧
    (Heard db version (repliesTo observer crowd.log) → ∀ k e props, crowd.log[k]? = some e →
      Follows crowd.log observer e.party → e.obtains? db = some props →
      (∃ n, n < k ∧ Gave crowd.log db version n) ∧
      ∀ n, n < k → Gave crowd.log db version n → NoOlder crowd.log db n k props ∨
        enabled = true ∧ e.call = .cached db ∧ Untold crowd.log db n k) ∧
    crowd.ServesFound visitors db := by
  intro crowd
  have haged : Aged visitors enabled db crowd := aged visitors enabled ttl schedule db
  refine ⟨?_, ?_, servesFound visitors _ _ _ db⟩
  · intro response hdone hshows
    have hends := crowd_ends visitors State.answer (.initial enabled ttl) schedule observer
    change (crowd.programs observer).Ends _ (repliesTo observer crowd.log) at hends
    unfold Crowd.response? at hdone
    split at hdone
    · rename_i hprogram
      cases hdone
      rw [hprogram] at hends
      exact heard_of_shows hends hshows
    · cases hdone
  · intro hheard k e props he hfollows hprops
    refine ⟨?_, fun n hn _ => haged.obtained n k e props hn he hprops⟩
    obtain ⟨reply, hreply, htold⟩ := hheard
    obtain ⟨earlier, hmem, hsome⟩ := List.mem_filterMap.mp hreply
    obtain ⟨j, hj⟩ := List.mem_iff_getElem?.mp hmem
    split at hsome
    · rename_i hparty
      cases hsome
      obtain ⟨n, hn, hgave⟩ := haged.told j earlier version hj htold
      exact ⟨n, Nat.lt_trans hn (hfollows j k earlier e hj he hparty rfl), hgave⟩
    · cases hsome

/-- A party that has been refused with a version in the header has a response that shows it. -/
theorem exists_shows {τ σ : Type} {crowd : Crowd τ σ} {party : Nat} {r : Http.Request}
    {db version : String} (haddressed : addressedDb r = db)
    (hlegal : (Http.HeaderValue.ofText? version).isSome)
    (h : (crowd.response? party).map (fun response =>
      (response.status, response.headers.get? "etag")) =
        some (.conflict, Http.HeaderValue.ofText? version)) :
    ∃ response, crowd.response? party = some response ∧ Shows r db version response := by
  obtain ⟨response, hdone, hresponse⟩ := Option.map_eq_some_iff.mp h
  obtain ⟨hstatus, hetag⟩ := Prod.mk.inj hresponse
  exact ⟨response, hdone, haddressed, .inr hstatus, hetag, hlegal⟩

/-- The calls of a rival in a row, on the occasion that a version is given. -/
def rivalCalls (party calls : Nat) (version : String) : List (Turn Occasion) :=
  List.replicate calls ⟨party, ⟨0, version, .ok ()⟩⟩

/-- A rival has written the second version and told the cache; the next one is refused and shown
that version, and the one after him obtains nothing older and goes on with it. -/
theorem told_version_precedes_rivals :
    let crowd := crowdAfter rivals true 60
      (rivalCalls 0 5 "first" ++ rivalCalls 1 6 "second" ++ rivalCalls 2 5 "third" ++
        rivalCalls 3 1 "fourth")
    ∃ response e props, crowd.response? 2 = some response ∧
      Shows (rivals 2).request "shop" "second" response ∧ crowd.log[16]? = some e ∧
      Follows crowd.log 2 e.party ∧ e.obtains? "shop" = some props ∧
      Gave crowd.log "shop" "second" 9 ∧ NoOlder crowd.log "shop" 9 16 props ∧
      Proceeds "shop" (rivals e.party).dispatched props (crowd.programs e.party) := by
  intro crowd
  obtain ⟨response, hdone, hshows⟩ : ∃ response, crowd.response? 2 = some response ∧
      Shows (rivals 2).request "shop" "second" response :=
    exists_shows (by decide +kernel) (by decide +kernel) (by decide +kernel)
  have hread : crowd.log[16]?.map (fun e => (e.party, (e.obtains? "shop").isSome)) =
      some (3, true) := by decide +kernel
  obtain ⟨e, he, hreader⟩ := Option.map_eq_some_iff.mp hread
  obtain ⟨hparty, hsome⟩ := Prod.mk.inj hreader
  obtain ⟨props, hprops⟩ := Option.isSome_iff_exists.mp hsome
  have hparties : crowd.log.map (·.party) =
      [0, 0, 0, 0, 0, 1, 1, 1, 1, 1, 1, 2, 2, 2, 2, 2] ++ [3] := by decide +kernel
  have hfollows : Follows crowd.log 2 e.party :=
    follows_of_cut hparties (by rw [hparty]; decide) (by decide)
  have hgave : Gave crowd.log "shop" "second" 9 := .of_map (by decide +kernel)
  obtain ⟨hheard, hage, hserves⟩ := told_version_precedes rivals true 60
    (rivalCalls 0 5 "first" ++ rivalCalls 1 6 "second" ++ rivalCalls 2 5 "third" ++
      rivalCalls 3 1 "fourth") "shop" "second" 2
  have hafter := (hage (hheard response hdone hshows) 16 e props he hfollows hprops).2
  have hlast : crowd.log.getLast? = some e := by
    have hlength : crowd.log.length = 17 := by decide +kernel
    rw [List.getLast?_eq_getElem?, hlength]
    exact he
  refine ⟨response, e, props, hdone, hshows, he, hfollows, hprops, hgave, ?_,
    hserves.found e props hlast hprops⟩
  rcases hafter 9 (by decide) hgave with hrecent | ⟨_, _, huntold⟩
  · exact hrecent
  · have htold : (crowd.log[10]?.map fun e => e.forgets "shop") = some true := by decide +kernel
    obtain ⟨teller, hteller, hforgets⟩ := Option.map_eq_some_iff.mp htold
    cases hforgets.symm.trans (huntold 10 teller (by decide) (by decide) hteller)

/-- A rival has written the second version and not yet told the cache; the next one is refused and
shown that version, and the one after him obtains the first from the cache. -/
theorem older_copy_after_conflict :
    let crowd := crowdAfter rivals true 60
      (rivalCalls 0 5 "first" ++ rivalCalls 1 5 "second" ++ rivalCalls 2 2 "third" ++
        rivalCalls 3 1 "fourth")
    ∃ response e props, crowd.response? 2 = some response ∧
      Shows (rivals 2).request "shop" "second" response ∧ crowd.log[12]? = some e ∧
      Follows crowd.log 2 e.party ∧ e.obtains? "shop" = some props ∧
      Gave crowd.log "shop" "second" 9 ∧ ¬NoOlder crowd.log "shop" 9 12 props := by
  intro crowd
  obtain ⟨response, hdone, hshows⟩ : ∃ response, crowd.response? 2 = some response ∧
      Shows (rivals 2).request "shop" "second" response :=
    exists_shows (by decide +kernel) (by decide +kernel) (by decide +kernel)
  have hread : crowd.log[12]?.map (fun e => (e.party,
      ((e.obtains? "shop").map fun props => props.bind (·.text? etagField)))) =
      some (3, some (some "first")) := by decide +kernel
  obtain ⟨e, he, hreader⟩ := Option.map_eq_some_iff.mp hread
  obtain ⟨hparty, hobtained⟩ := Prod.mk.inj hreader
  obtain ⟨props, hprops, hfirst⟩ := Option.map_eq_some_iff.mp hobtained
  have hparties : crowd.log.map (·.party) = [0, 0, 0, 0, 0, 1, 1, 1, 1, 1, 2, 2] ++ [3] := by
    decide +kernel
  have hfollows : Follows crowd.log 2 e.party :=
    follows_of_cut hparties (by rw [hparty]; decide) (by decide)
  have hgave : Gave crowd.log "shop" "second" 9 := .of_map (by decide +kernel)
  refine ⟨response, e, props, hdone, hshows, he, hfollows, hprops, hgave, ?_⟩
  rintro ⟨i, held, hlow, hhigh, hlog, hsame⟩
  -- From the second write on the database has carried its version.
  have hheld : ∀ i < 13, 9 < i → (crowd.log[i]?.bind fun e => e.before.databases.version? "shop") =
      some "second" := by decide +kernel
  have hsecond := hheld i (by omega) hlow
  rw [hlog, Option.bind_some, Store.Database.version?, hsame, hfirst] at hsecond
  revert hsecond
  decide

end DocumentGateway.Gateway

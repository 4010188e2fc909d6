import DocumentGateway.Proofs.Gateway.Conduct
import DocumentGateway.Proofs.Gateway.State

/-!
# No update is lost

Of all requests in flight that name the same version of a database, one at most writes over it, and
it is that version that it writes over. Neither the order of their calls nor what the cache tells
them matters: the version is compared in the step that writes, and every document stored carries the
version that the last write gave it.
-/

namespace DocumentGateway.Gateway

open DocumentGateway.Flow (Call Phase Program)

/-- The crowd of some visitors after a schedule, with no database at first, the cache telling
anything at any time. -/
def crowdMisled (visitors : Nat → Visitor) (schedule : List (Turn AnyCache)) :
    Crowd AnyCache Store.Database :=
  (Crowd.start visitors []).run answerFromAnyCache schedule

/-- The versions that the writes in a log gave to a database, in order. -/
def versionsGiven (db : String) (log : List (Event AnyCache Store.Database)) : List String :=
  log.filterMap fun e => if e.writes db then some e.occasion.etag else none

/-- An event replaced or merged into a database that existed. -/
def Event.overwrites (e : Event AnyCache Store.Database) (db : String) : Prop :=
  e.writes db = true ∧ (e.before.get? db).isSome

/-- The version that the request of a visitor names. -/
def Visitor.versionMeant? (v : Visitor) : Option String := Gateway.versionMeant? v.request

theorem versionsGiven_append (db : String) (log more : List (Event AnyCache Store.Database)) :
    versionsGiven db (log ++ more) = versionsGiven db log ++ versionsGiven db more :=
  List.filterMap_append

theorem versionsGiven_cons_of_writes {db : String} {e : Event AnyCache Store.Database}
    (h : e.writes db = true) (rest : List (Event AnyCache Store.Database)) :
    versionsGiven db (e :: rest) = e.occasion.etag :: versionsGiven db rest := by
  simp [versionsGiven, h]

/-- A write that succeeds within the protocol is one of the kind that the protocol allows. -/
theorem exists_write_of_wrote {db name : String} {kind : Store.Write → Prop} {φ ψ : Phase}
    {c : Call} {o : Occasion} {s : State} (h : wrote db c (State.answer o c s).1 = true)
    (hmove : Flow.Moves name kind φ c (State.answer o c s).1 ψ) :
    ∃ w, kind w ∧ (s.databases.upsert db w o.etag).1.status.isSuccess = true ∧
      (State.answer o c s).2.databases = (s.databases.upsert db w o.etag).2 := by
  cases c with
  | upsert name' w =>
    obtain ⟨rfl, hsuccess⟩ : name' = db ∧
        (s.databases.upsert name' w o.etag).1.status.isSuccess = true := by
      simpa [wrote, State.answer] using h
    have hkind : kind w := by
      generalize (State.answer o (.upsert name' w) s).1 = a at hmove
      cases hmove with
      | unwritten hkind | refused hkind | written hkind => exact hkind
    exact ⟨w, hkind, hsuccess, rfl⟩
  | _ => cases h

/-- What is known of an event when some versions had been given before it: the database carries the
last of them, what overwrites it was meant for that one, and what does not write it does not change
it. -/
structure Faithful (visitors : Nat → Visitor) (db : String) (given : List String)
    (e : Event AnyCache Store.Database) : Prop where
  version : e.before.version? db = given.getLast?
  meant : e.overwrites db → ∀ sent, (visitors e.party).versionMeant? = some sent →
    e.before.version? db = some sent
  unwritten : e.writes db = false → e.after.get? db = e.before.get? db

/-- All requests obey the protocol, the database carries the last version given, and so it was at
every event. -/
structure Labelled (visitors : Nat → Visitor) (db : String)
    (crowd : Crowd AnyCache Store.Database) : Prop where
  parties : crowd.Obeys visitors fun _ _ => True
  version : crowd.state.version? db = (versionsGiven db crowd.log).getLast?
  labelled : (crowd.state.get? db).isSome → (crowd.state.version? db).isSome
  events : ∀ n e, crowd.log[n]? = some e →
    Faithful visitors db (versionsGiven db (crowd.log.take n)) e

namespace Labelled

variable {visitors : Nat → Visitor} {db : String} {crowd : Crowd AnyCache Store.Database}
  {turn : Turn AnyCache} {c : Call} {next : c.Answer → Program Http.Response}

theorem start : Labelled visitors db (.start visitors []) := by
  refine ⟨Crowd.Obeys.start fun _ => trivial, rfl, fun h => ?_, fun n e he => ?_⟩
  · cases h
  · cases he

/-- A call that writes a database is a write made for the version that its request names. -/
theorem exists_write (h : Labelled visitors db crowd)
    (hprogram : crowd.programs turn.party = .call c next)
    (hw : (crowd.event answerFromAnyCache turn c).writes db = true) :
    ∃ w, WrittenFor (visitors turn.party).settings (visitors turn.party).request w ∧
      (crowd.state.upsert db w turn.occasion.etag).1.status.isSuccess = true ∧
      (crowd.event answerFromAnyCache turn c).after =
        (crowd.state.upsert db w turn.occasion.etag).2 := by
  obtain ⟨φ, ψ, _, hmove⟩ := h.parties.moves answerFromAnyCache hprogram
  exact exists_write_of_wrote (s := ⟨crowd.state, turn.occasion.cache⟩) hw hmove

theorem get?_event_of_not_writes (hw : (crowd.event answerFromAnyCache turn c).writes db = false) :
    (crowd.event answerFromAnyCache turn c).after.get? db = crowd.state.get? db :=
  State.get?_answer_of_not_wrote turn.occasion.toOccasion ⟨crowd.state, turn.occasion.cache⟩ hw

/-- A call is faithful to the versions given before it. -/
theorem faithful_event (h : Labelled visitors db crowd)
    (hprogram : crowd.programs turn.party = .call c next) :
    Faithful visitors db (versionsGiven db crowd.log)
      (crowd.event answerFromAnyCache turn c) := by
  refine ⟨h.version, fun hover sent hsent => ?_, get?_event_of_not_writes⟩
  obtain ⟨w, hfor, hsuccess, _⟩ := h.exists_write hprogram hover.1
  exact Store.Database.version?_of_upsert (hfor.etag.trans hsent) (h.labelled hover.2) hsuccess

/-- After a call the database carries the last version given. -/
theorem version_advance (h : Labelled visitors db crowd)
    (hprogram : crowd.programs turn.party = .call c next) :
    (crowd.advance answerFromAnyCache turn c next).state.version? db =
        (versionsGiven db (crowd.advance answerFromAnyCache turn c next).log).getLast? ∧
      (((crowd.advance answerFromAnyCache turn c next).state.get? db).isSome →
        ((crowd.advance answerFromAnyCache turn c next).state.version? db).isSome) := by
  let e := crowd.event answerFromAnyCache turn c
  change e.after.version? db = (versionsGiven db (crowd.log ++ [e])).getLast? ∧
    ((e.after.get? db).isSome → (e.after.version? db).isSome)
  rw [versionsGiven_append]
  cases hw : e.writes db with
  | true =>
    obtain ⟨w, hfor, hsuccess, hafter⟩ := h.exists_write hprogram hw
    have hversion : e.after.version? db = some turn.occasion.etag := by
      rw [hafter]
      exact Store.Database.version?_upsert hfor.ordered hsuccess
    rw [versionsGiven_cons_of_writes hw, hversion]
    refine ⟨?_, fun _ => rfl⟩
    exact List.getLast?_concat.symm
  | false =>
    have hsame : e.after.get? db = crowd.state.get? db := get?_event_of_not_writes hw
    have hversion : e.after.version? db = crowd.state.version? db := by
      rw [Store.Database.version?, Store.Database.version?, hsame]
    have hnone : versionsGiven db [e] = [] := by simp [versionsGiven, hw]
    rw [hversion, hsame, hnone, List.append_nil]
    exact ⟨h.version, h.labelled⟩

theorem advance (h : Labelled visitors db crowd)
    (hprogram : crowd.programs turn.party = .call c next) :
    Labelled visitors db (crowd.advance answerFromAnyCache turn c next) := by
  obtain ⟨hversion, hlabelled⟩ := h.version_advance hprogram
  have hparties : (crowd.advance answerFromAnyCache turn c next).Obeys visitors fun _ _ => True :=
    h.parties.advance hprogram (fun _ _ _ _ => trivial) fun _ _ _ => trivial
  refine ⟨hparties, hversion, hlabelled, fun n e he => ?_⟩
  change Faithful visitors db
    (versionsGiven db ((crowd.log ++ [crowd.event answerFromAnyCache turn c]).take n)) e
  rcases Crowd.getElem?_log_advance.mp he with hold | ⟨rfl, rfl⟩
  · have hn : n < crowd.log.length := (List.getElem?_eq_some_iff.mp hold).1
    rw [List.take_append_of_le_length (Nat.le_of_lt hn)]
    exact h.events n e hold
  · rw [List.take_left']
    · exact h.faithful_event hprogram
    · rfl

end Labelled

theorem labelled (visitors : Nat → Visitor) (schedule : List (Turn AnyCache)) (db : String) :
    Labelled visitors db (crowdMisled visitors schedule) :=
  Crowd.run_invariant (fun _ _ _ _ h hprogram => h.advance hprogram) Labelled.start schedule

/-- A longer beginning of a list is a shorter one, what comes next, and a rest. -/
private theorem take_eq_append_cons {α : Type} {l : List α} {m n : Nat} {a : α}
    (ha : l[m]? = some a) (hmn : m < n) :
    l.take n = l.take m ++ a :: (l.take n).drop (m + 1) := by
  obtain ⟨hm, rfl⟩ := List.getElem?_eq_some_iff.mp ha
  have hlength : m < (l.take n).length := by
    rw [List.length_take]
    omega
  have htake : (l.take n).take m = l.take m := by
    rw [List.take_take, Nat.min_eq_left (Nat.le_of_lt hmn)]
  have hdrop := List.drop_eq_getElem_cons hlength
  rw [List.getElem_take] at hdrop
  rw [← htake, ← hdrop, List.take_append_drop]

/-- A version that was overwritten does not come back, if no version is given twice. -/
theorem not_lt_of_same_version {visitors : Nat → Visitor} {db version : String}
    {crowd : Crowd AnyCache Store.Database} (h : Labelled visitors db crowd)
    (hfresh : (versionsGiven db crowd.log).Nodup) {m n : Nat}
    {e e' : Event AnyCache Store.Database} (he : crowd.log[m]? = some e)
    (he' : crowd.log[n]? = some e') (hwrites : e.writes db = true)
    (hv : e.before.version? db = some version) (hv' : e'.before.version? db = some version) :
    ¬m < n := by
  intro hmn
  -- The versions given before the later event: those before the earlier one, its own, and others.
  have hgiven := congrArg (versionsGiven db) (take_eq_append_cons he hmn)
  rw [versionsGiven_append, versionsGiven_cons_of_writes hwrites] at hgiven
  have hnodup : (versionsGiven db (crowd.log.take n)).Nodup :=
    hfresh.sublist ((List.take_sublist n crowd.log).filterMap _)
  have hbefore : version ∈ versionsGiven db (crowd.log.take m) :=
    List.mem_of_getLast? ((h.events m e he).version.symm.trans hv)
  have hlast := (h.events n e' he').version.symm.trans hv'
  rw [hgiven] at hnodup hlast
  have hafter : version ∈
      e.occasion.etag :: versionsGiven db ((crowd.log.take n).drop (m + 1)) := by
    refine List.mem_of_getLast? ?_
    rw [List.getLast?_append, List.getLast?_cons, Option.some_or] at hlast
    rw [List.getLast?_cons, hlast]
  exact (List.nodup_append.mp hnodup).2.2 version hbefore version hafter rfl

/-- Any number of requests in flight, in any order of their calls and whatever the cache tells them:
a request that names a version and overwrites a database writes over that very version; of those
that name the same version, only one overwrites the database, and once; and an existing database
changes only by being overwritten. All this if no version is given to the database twice. -/
theorem no_lost_update (visitors : Nat → Visitor) (schedule : List (Turn AnyCache))
    (db version : String)
    (hfresh : (versionsGiven db (crowdMisled visitors schedule).log).Nodup) :
    let log := (crowdMisled visitors schedule).log
    (∀ e ∈ log, e.overwrites db → (visitors e.party).versionMeant? = some version →
      e.before.version? db = some version) ∧
    (∀ (m n : Nat) e e', log[m]? = some e → log[n]? = some e' →
      e.overwrites db → (visitors e.party).versionMeant? = some version →
      e'.overwrites db → (visitors e'.party).versionMeant? = some version → m = n) ∧
    ∀ e ∈ log, (e.before.get? db).isSome → e.after.get? db ≠ e.before.get? db →
      e.overwrites db := by
  intro log
  have hlabelled := labelled visitors schedule db
  have happlied : ∀ (n : Nat) e, log[n]? = some e → e.overwrites db →
      (visitors e.party).versionMeant? = some version → e.before.version? db = some version :=
    fun n e he hover hmeant => (hlabelled.events n e he).meant hover version hmeant
  refine ⟨fun e he hover hmeant => ?_, fun m n e e' he he' hover hmeant hover' hmeant' => ?_,
    fun e he hexists hchanged => ?_⟩
  · obtain ⟨n, hn⟩ := List.mem_iff_getElem?.mp he
    exact happlied n e hn hover hmeant
  · have hv := happlied m e he hover hmeant
    have hv' := happlied n e' he' hover' hmeant'
    have hmn := not_lt_of_same_version hlabelled hfresh he he' hover.1 hv hv'
    have hnm := not_lt_of_same_version hlabelled hfresh he' he hover'.1 hv' hv
    omega
  · obtain ⟨n, hn⟩ := List.mem_iff_getElem?.mp he
    refine ⟨?_, hexists⟩
    cases hw : e.writes db with
    | true => rfl
    | false => exact absurd ((hlabelled.events n e hn).unwritten hw) hchanged

/-- The calls of three rivals, the latter two alternating. -/
def rivalTurns : List (Turn AnyCache) :=
  let turn party etag : Turn AnyCache := ⟨party, ⟨⟨0, etag, .ok ()⟩, .empty true 60⟩⟩
  List.replicate 5 (turn 0 "first") ++
    (List.replicate 6 [turn 1 "second", turn 2 "third"]).flatten

/-- Two rivals who name the same version: only the first of them to write overwrites it. -/
theorem no_lost_update_rivals :
    let log := (crowdMisled rivals rivalTurns).log
    versionsGiven "shop" log = ["first", "second"] ∧
      ∀ (m n : Nat) e e', log[m]? = some e → log[n]? = some e' →
        e.overwrites "shop" → (rivals e.party).versionMeant? = some "first" →
        e'.overwrites "shop" → (rivals e'.party).versionMeant? = some "first" → m = n := by
  intro log
  have hgiven : versionsGiven "shop" log = ["first", "second"] := by decide +kernel
  have hfresh : (versionsGiven "shop" log).Nodup := by
    rw [hgiven]
    decide
  exact ⟨hgiven, (no_lost_update rivals rivalTurns "shop" "first" hfresh).2.1⟩

end DocumentGateway.Gateway

import DocumentGateway.Proofs.Flow.Write
import DocumentGateway.Proofs.Http.Exchange
import DocumentGateway.Store.Cache

/-!
# How a write heeds the answer

A write stands between a database that may answer anything and a stage that may do anything. What it
asks of them and in which order, and what it leaves in the cache, depends on the answer of the
database alone.
-/

namespace DocumentGateway.Flow

/-- What there is around a stage besides the cache: any database, any storage for files and any
stages at the outlets, on a state of their own; a stage at an outlet has the cache too. -/
structure World (σ : Type) where
  /-- Read the properties of a database. -/
  load : String → σ → Except Store.DatabaseError (Option Document) × σ
  /-- Write to a database. -/
  upsert : String → Store.Write → σ → Except Store.DatabaseError Store.WriteResult × σ
  /-- Make room for a file. -/
  reserve : σ → Except String Unit × σ
  /-- Handle a request that is handed over. -/
  handle : Outlet → Passage → σ × Store.Cache → Result × (σ × Store.Cache)
  /-- The clock, in nanoseconds. -/
  now : σ → Nat

/-- Answer a call in a world with a cache. -/
def World.answer {σ : Type} (world : World σ) :
    (c : Call) → σ × Store.Cache → c.Answer × (σ × Store.Cache)
  | .cached db, (s, cache) =>
    ((cache.get db (world.now s)).1, (s, (cache.get db (world.now s)).2))
  | .generation db, (s, cache) => (cache.generation db, (s, cache))
  | .remember db generation props, (s, cache) =>
    ((cache.put db generation props (world.now s)).1,
      (s, (cache.put db generation props (world.now s)).2))
  | .forget db, (s, cache) => ((), (s, cache.invalidate db))
  | .load db, (s, cache) => ((world.load db s).1, ((world.load db s).2, cache))
  | .upsert db w, (s, cache) => ((world.upsert db w s).1, ((world.upsert db w s).2, cache))
  | .reserve, (s, cache) => ((world.reserve s).1, ((world.reserve s).2, cache))
  | .handOver outlet p, s => world.handle outlet p s

/-- The calls of a run, each with the state that it meets. -/
def Program.steps {α σ : Type} (answer : (c : Call) → σ → c.Answer × σ) :
    Program α → σ → List (Call × σ)
  | .done _, _ => []
  | .call c next, s => (c, s) :: (next (answer c s).1).steps answer (answer c s).2

/-- A request that may not be written: its database has no name or one that begins with an
underscore, it brings several documents or nothing to merge, or it defines malformed transforms. -/
inductive Unfit (mode : WriteMode) (c : Context) : Prop where
  | unnamed (name : c.db = "")
  | reserved (name : c.db.toList.head? = some '_')
  | several {documents : List Document} (content : c.content = .many documents)
  | nothing (merging : mode = .merge) (content : c.content = .absent)
  | malformed {d : Document} (content : c.content = .single d) {e : Transform.Malformed}
      (transforms : Transform.ofDocument d = .error e)

/-- How a request goes on once the database has answered. -/
def heed (next : Stage) (p : Passage) :
    Except Store.DatabaseError Store.WriteResult → Program Result
  | .error e => .done ⟨.error (.database e), p⟩
  | .ok result => afterWrite next p result

/-- A passage has noted the outcome of a write, with its version in the header if it may stand
there. -/
structure Notes (result : Store.WriteResult) (p : Passage) : Prop where
  noted : p.context.result = some result
  etag : ∀ value, result.etag.bind Http.HeaderValue.ofText? = some value →
    p.exchange.response.headers.get? "etag" = some value

/-- A cache has forgotten one name, once, and no other. -/
structure Forgotten (db : String) (before after : Store.Cache) : Prop where
  generation : after.generation db = before.generation db + 1
  copy : (after.slot db).copy = none
  others : ∀ other, other ≠ db → after.slot other = before.slot other

theorem forgotten_invalidate (cache : Store.Cache) (db : String) :
    Forgotten db cache (cache.invalidate db) where
  generation := by rw [Store.Cache.generation_invalidate, if_pos rfl]
  copy := by rw [Store.Cache.slot_invalidate, if_pos rfl]
  others := fun other h => by rw [Store.Cache.slot_invalidate, if_neg (Ne.symm h)]

section

variable {mode : WriteMode} {c : Context} {p : Passage} {result : Store.WriteResult}

/-- The requests that are not written are those that may not be. -/
theorem unfit_of_error {e : Unwritable} (h : writableDocument mode c = .error e) :
    Unfit mode c := by
  unfold writableDocument at h
  split at h
  · rename_i hname
    have hunnamed : ¬(c.db ≠ "" ∧ c.db.toList.head? ≠ some '_') := by
      rw [← isWritableName_iff]
      simpa using hname
    by_cases hempty : c.db = ""
    · exact .unnamed hempty
    · refine .reserved ?_
      by_cases hmark : c.db.toList.head? = some '_'
      · exact hmark
      · exact absurd ⟨hempty, hmark⟩ hunnamed
  · cases hcontent : c.content with
    | absent =>
      cases mode with
      | replace => simp [hcontent, documentOf, Transform.ofDocument, Keyed.get?] at h
      | merge => exact .nothing rfl hcontent
    | single d =>
      cases htransforms : Transform.ofDocument d with
      | ok transforms => simp [hcontent, documentOf, htransforms] at h
      | error e => exact .malformed hcontent htransforms
    | many documents => exact .several hcontent

theorem not_unfit_of_ok {d : Document} (h : writableDocument mode c = .ok d) :
    ¬Unfit mode c := by
  intro hunfit
  obtain ⟨hname, hdocument, transforms, htransforms⟩ := writableDocument_eq_ok_iff.mp h
  have hnamed := isWritableName_iff.mp hname
  cases hunfit with
  | unnamed name => exact hnamed.1 name
  | reserved name => exact hnamed.2 name
  | several content => simp [content, documentOf] at hdocument
  | nothing merging content => simp [merging, content, documentOf] at hdocument
  | malformed content malformed =>
    simp only [content, documentOf, Except.ok.injEq] at hdocument
    subst hdocument
    cases malformed.symm.trans htransforms

/-- What may not be written is refused, without a call. -/
theorem write_of_unfit (next : Stage) (h : Unfit mode p.context) :
    ∃ message : String, write mode next p = p.refuse .notAcceptable message := by
  unfold write
  cases hd : writableDocument mode p.context with
  | error e => exact ⟨e.message, rfl⟩
  | ok d => exact absurd h (not_unfit_of_ok hd)

/-- Anything else is asked of the database, and what follows is up to the answer. -/
theorem write_of_not_unfit (next : Stage) (h : ¬Unfit mode p.context) :
    ∃ d, documentOf mode p.context.content = .ok d ∧
      write mode next p =
        .call (.upsert p.context.db (writeOf mode p.context d)) (heed next p) := by
  unfold write
  cases hd : writableDocument mode p.context with
  | error e => exact absurd (unfit_of_error hd) h
  | ok d =>
    refine ⟨d, (writableDocument_eq_ok_iff.mp hd).2.1, congrArg (Program.call _) ?_⟩
    funext answer
    match answer with
    | .error e => rfl
    | .ok result => rfl

/-- While the response is open, the outcome of a write is noted. -/
theorem notes_record (h : p.exchange.ended = false) (result : Store.WriteResult) :
    Notes result (p.record result) where
  noted := rfl
  etag := by
    intro value hvalue
    simp [Passage.record, setEtag, hvalue, Http.Exchange.setHeader, Http.Exchange.amend, h]

/-- A refusal keeps what has been noted. -/
theorem Notes.conclude (h : Notes result p) (status : Http.Status) (message : String) :
    Notes result { p with exchange := p.exchange.conclude status message } where
  noted := h.noted
  etag := fun value hvalue =>
    (Http.Exchange.get?_conclude _ _ _ (by decide)).trans (h.etag value hvalue)

/-- So does an acknowledgement. -/
theorem Notes.acknowledge (h : Notes result p) (hopen : p.exchange.ended = false)
    {status : Http.Status} (hs : status.isSuccess = true) :
    Notes result (p.acknowledge status) where
  noted := h.noted
  etag := fun value hvalue => (response_acknowledge hopen hs).2.trans (h.etag value hvalue)

theorem ended_acknowledge (p : Passage) (status : Http.Status) :
    (p.acknowledge status).exchange.ended = p.exchange.ended := by
  unfold Passage.acknowledge
  split
  · exact Http.Exchange.ended_amend _ _
  · simp [sendWarnings, Http.Exchange.setStatus, Http.Exchange.send, Http.Exchange.sendAs]

/-- What a stage handles is final if it has been handled. -/
theorem ended_finish {r : Result} (h : r.outcome = .ok ()) : r.finish.passage.exchange.ended =
    true := by
  unfold Result.finish
  rw [h]
  rfl

theorem outcome_finish (r : Result) : r.finish.outcome = r.outcome := by
  unfold Result.finish
  split <;> rfl

end

/-- In any world: a request that may not be written makes no call and is refused. Any other one asks
the database once. If the database fails, so does the request, and nothing else changes. If the
answer is no success, the exchange ends with its status, and the cache is not touched. If it is one,
the cache forgets the name, then the request is handed over once, and it comes back handled, with
its exchange ended, if the stage there handles it. Whatever the answer, it is noted before anything
is made of it. -/
theorem write_heeds_answer {σ : Type} (world : World σ) (mode : WriteMode) (p : Passage) (s : σ)
    (cache : Store.Cache) (hopen : p.exchange.ended = false) :
    let program := write mode (Stage.outside .next) p
    let steps := program.steps world.answer (s, cache)
    let result := (program.run world.answer (s, cache)).1
    let final := (program.run world.answer (s, cache)).2
    (Unfit mode p.context → steps = [] ∧ final = (s, cache) ∧ result.outcome = .ok () ∧
      result.passage.exchange.ended = true ∧
      result.passage.exchange.response.status = .notAcceptable) ∧
    (¬Unfit mode p.context → ∃ d, documentOf mode p.context.content = .ok d ∧
      let w := writeOf mode p.context d
      let asked := world.upsert p.context.db w s
      (∀ e, asked.1 = .error e → steps = [(.upsert p.context.db w, (s, cache))] ∧
        final = (asked.2, cache) ∧ result = ⟨.error (.database e), p⟩) ∧
      (∀ answer, asked.1 = .ok answer → answer.status.isSuccess = false →
        steps = [(.upsert p.context.db w, (s, cache))] ∧ final = (asked.2, cache) ∧
        result.outcome = .ok () ∧ result.passage.exchange.ended = true ∧
        result.passage.exchange.response.status = answer.status ∧ Notes answer result.passage) ∧
      (∀ answer, asked.1 = .ok answer → answer.status.isSuccess = true →
        ∃ handed cleared, Notes answer handed ∧ handed.exchange.ended = false ∧
          Forgotten p.context.db cache cleared ∧
          steps = [(.upsert p.context.db w, (s, cache)), (.forget p.context.db, (asked.2, cache)),
            (.handOver .next handed, (asked.2, cleared))] ∧
          let handled := world.handle .next handed (asked.2, cleared)
          final = handled.2 ∧ result.outcome = handled.1.outcome ∧
          (handled.1.outcome = .ok () → result.passage.exchange.ended = true))) := by
  intro program steps result final
  constructor
  · intro hunfit
    obtain ⟨message, hrefuse⟩ := write_of_unfit (Stage.outside .next) hunfit
    have hprogram : program = p.refuse .notAcceptable message := hrefuse
    simp only [steps, result, final, hprogram]
    exact ⟨rfl, rfl, rfl, rfl, Http.Exchange.status_conclude hopen _ _⟩
  · intro hfit
    obtain ⟨d, hdocument, hasks⟩ := write_of_not_unfit (Stage.outside .next) hfit
    refine ⟨d, hdocument, ?_⟩
    intro w asked
    have hsteps : steps = (.upsert p.context.db w, (s, cache)) ::
        (heed (Stage.outside .next) p asked.1).steps world.answer (asked.2, cache) := by
      simp only [steps, program, hasks]
      rfl
    have hrun : program.run world.answer (s, cache) =
        (heed (Stage.outside .next) p asked.1).run world.answer (asked.2, cache) := by
      simp only [program, hasks]
      rfl
    simp only [result, final, hrun, hsteps]
    refine ⟨fun e hanswer => ?_, fun answer hanswer hfailure => ?_,
      fun answer hanswer hsuccess => ?_⟩
    · rw [hanswer]
      exact ⟨rfl, rfl, rfl⟩
    · obtain ⟨message, hrefuse⟩ :=
        exists_refuse_of_not_success (Stage.outside .next) p hfailure
      rw [hanswer, heed, hrefuse]
      have hrecorded : (p.record answer).exchange.ended = false :=
        (ended_record p answer).trans hopen
      exact ⟨rfl, rfl, rfl, rfl, Http.Exchange.status_conclude hrecorded _ _,
        (notes_record hopen answer).conclude _ _⟩
    · rw [hanswer, heed, afterWrite_of_success _ _ hsuccess]
      have hrecorded : (p.record answer).exchange.ended = false :=
        (ended_record p answer).trans hopen
      refine ⟨(p.record answer).acknowledge answer.status, cache.invalidate p.context.db,
        (notes_record hopen answer).acknowledge hrecorded hsuccess,
        (ended_acknowledge _ _).trans hrecorded, forgotten_invalidate _ _, rfl, rfl, ?_, ?_⟩
      · exact outcome_finish _
      · exact ended_finish

/-- A world in which every write is answered alike and every request handed over is handled. -/
def steadyWorld (answer : Except Store.DatabaseError Store.WriteResult) : World Unit where
  load := fun _ s => (.ok none, s)
  upsert := fun _ _ s => (answer, s)
  reserve := fun s => (.ok (), s)
  handle := fun _ p s => (⟨.ok (), p⟩, s)
  now := fun _ => 0

/-- A PUT request for a database, without content. -/
def shopPassage : Passage :=
  let x := Http.Exchange.ofRequest ⟨⟨.put, ⟨none, none, "/shop", none⟩, []⟩, .ofBytes []⟩
  ⟨x, .ofExchange x .optional⟩

/-- A database is created of which the cache, for some reason, holds a copy: the cache forgets it
and the request goes on with the version in its header. -/
theorem write_heeds_answer_created :
    let cache := ((Store.Cache.empty true 60).put "shop" 0 [] 0).2
    let steps := (write .replace (Stage.outside .next) shopPassage).steps
      (steadyWorld (.ok ⟨.created, some "first"⟩)).answer ((), cache)
    shopPassage.exchange.ended = false ∧ (cache.slot "shop").copy.isSome ∧
      ∃ d handed cleared, Notes ⟨.created, some "first"⟩ handed ∧
        Forgotten "shop" cache cleared ∧
        steps = [(.upsert "shop" (writeOf .replace shopPassage.context d), ((), cache)),
          (.forget "shop", ((), cache)), (.handOver .next handed, ((), cleared))] := by
  intro cache steps
  have hopen : shopPassage.exchange.ended = false := rfl
  have hdb : shopPassage.context.db = "shop" := by decide +kernel
  have hfit : ¬Unfit .replace shopPassage.context := by
    refine not_unfit_of_ok (d := []) ?_
    simp only [writableDocument, hdb]
    rfl
  obtain ⟨d, _, _, _, hsuccess⟩ :=
    (write_heeds_answer (steadyWorld (.ok ⟨.created, some "first"⟩)) .replace shopPassage () cache
      hopen).2 hfit
  obtain ⟨handed, cleared, hnotes, _, hforgotten, hsteps, _⟩ := hsuccess _ rfl rfl
  rw [hdb] at hforgotten hsteps
  exact ⟨hopen, by decide +kernel, d, handed, cleared, hnotes, hforgotten, hsteps⟩

end DocumentGateway.Flow

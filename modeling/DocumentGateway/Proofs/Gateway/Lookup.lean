import DocumentGateway.Proofs.Gateway.Conduct

/-!
# What requests go on with

Before a request is dispatched the properties of the database that it addresses are looked up.
Whatever properties a call brings, the request is dispatched with them, at once or as soon as the
cache has been offered them; and a request that has been brought nothing has written nothing and
does not end in success. So it is in every crowd: what is said of the properties that calls bring is
said of the properties that requests are served by.
-/

namespace DocumentGateway.Gateway

open DocumentGateway.Flow (Call Failure Passage Program Result Stage)

/-- Until a program obtains properties of a database it writes nothing, and whatever it obtains it
goes on with; if it obtains nothing at all, it ends as one that is not served. -/
def Seeks {α : Type} (db : String) (goesOn : Option Document → Program α → Prop)
    (unserved : α → Prop) : Program α → Prop
  | .done value => unserved value
  | .call c next => ∀ answer, wrote db c answer = false ∧
    match obtained? db c answer with
    | some props => goesOn props (next answer)
    | none => Seeks db goesOn unserved (next answer)

/-- Whatever it is answered, a program obtains no properties of a database. -/
def Rests {α : Type} (db : String) : Program α → Prop
  | .done _ => True
  | .call c next => ∀ answer, obtained? db c answer = none ∧ Rests db (next answer)

section

variable {α β : Type} {db : String} {goesOn : Option Document → Program α → Prop}
  {goesOn' : Option Document → Program β → Prop} {unserved : α → Prop} {unserved' : β → Prop}
  {p : Program α} {f : α → Program β}

/-- What goes on behind a program goes on behind what the program goes on with. -/
theorem Seeks.bind (h : Seeks db goesOn unserved p)
    (hgoes : ∀ props q, goesOn props q → goesOn' props (q.bind f))
    (hf : ∀ value, unserved value → Seeks db goesOn' unserved' (f value)) :
    Seeks db goesOn' unserved' (p.bind f) := by
  induction p with
  | done value => exact hf value h
  | call c next ih =>
    intro answer
    obtain ⟨hunwritten, hnext⟩ := h answer
    refine ⟨hunwritten, ?_⟩
    split at hnext
    · exact hgoes _ _ hnext
    · exact ih answer hnext

theorem Rests.bind (h : Rests db p) (hf : ∀ value, Rests db (f value)) : Rests db (p.bind f) := by
  induction p with
  | done value => exact hf value
  | call c next ih => exact fun answer => ⟨(h answer).1, ih answer (h answer).2⟩

end

/-- A program is what follows the look-up of some properties: a request for the database goes on
with them, at once or when the cache has been offered them. -/
def Proceeds {α : Type} (db : String) (next : Passage → Program α) (props : Option Document)
    (program : Program α) : Prop :=
  ∃ p, p.context.db = db ∧ p.context.props = props ∧
    (program = next p ∨ ∃ generation shared, props = some shared ∧
      program = .call (.remember db generation shared) fun _ => next p)

/-- A request whose database has not been looked up. -/
structure Unlooked (r : Http.Request) (p : Passage) : Prop where
  db : p.context.db = addressedDb r
  props : p.context.props = none
  ended : p.exchange.ended = false

/-- A result that is no success. -/
def Fails (result : Result) : Prop := (responseOf result).status.isSuccess = false

/-- A stage looks up the database that is addressed before the request is dispatched. -/
def LooksUp (r : Http.Request) (stage : Stage) : Prop :=
  ∀ p, Unlooked r p → Seeks (addressedDb r)
    (Proceeds (addressedDb r) (Flow.dispatch Flow.Task.stage)) Fails (stage p)

section

variable {r : Http.Request} {p : Passage} {next : Stage} {db : String}
  {goesOn : Option Document → Program Result → Prop}

theorem seeks_refuse (h : p.exchange.ended = false) {status : Http.Status}
    (hs : status.isSuccess = false) (message : String) :
    Seeks db goesOn Fails (p.refuse status message) := by
  change (p.exchange.conclude status message).response.status.isSuccess = false
  rw [Http.Exchange.status_conclude h, hs]

theorem seeks_failure (h : p.exchange.ended = false) (e : Failure) :
    Seeks db goesOn Fails (.done ⟨.error e, p⟩) := by
  change (p.exchange.conclude .internalServerError _).response.status.isSuccess = false
  rw [Http.Exchange.status_conclude h]
  rfl

/-- Without a database there is nothing to write or to show. -/
theorem seeks_dispatch_of_nameless (h : Unlooked r p) (hdb : p.context.db = "") :
    Seeks db goesOn Fails (Flow.dispatch Flow.Task.stage p) := by
  have hwrite : ∀ mode, Seeks db goesOn Fails (Flow.write mode Stage.stop p) := by
    intro mode
    have hname : Flow.isWritableName p.context.db = false := by
      rw [hdb]
      decide
    have hunwritable : Flow.writableDocument mode p.context = .error .name := by
      simp [Flow.writableDocument, hname]
    rw [Flow.write, hunwritable]
    exact seeks_refuse h.ended rfl _
  unfold Flow.dispatch
  cases Flow.Task.of? p.context.resource p.context.verb with
  | none => exact seeks_refuse h.ended rfl _
  | some task =>
    cases task with
    | replace => exact hwrite .replace
    | merge => exact hwrite .merge
    | present =>
      change Seeks db goesOn Fails (Flow.present Stage.stop p)
      rw [Flow.present, h.props]
      exact seeks_refuse h.ended rfl _

/-- What a call to look up a database brings is what the next stage gets. -/
theorem looksUp_lookup : LooksUp r (Flow.lookup (Flow.dispatch Flow.Task.stage)) := by
  intro p h
  unfold Flow.lookup
  split
  · rename_i hempty
    exact seeks_dispatch_of_nameless h (String.isEmpty_iff.mp hempty)
  · rw [h.db]
    let found : Option Document → Passage := fun props =>
      { p with context := { p.context with props := props } }
    intro copy
    refine ⟨rfl, ?_⟩
    match copy with
    | some props =>
      simp only [obtained?, if_true]
      exact ⟨found (some props), h.db, rfl, .inl rfl⟩
    | none =>
      intro generation
      refine ⟨rfl, fun read => ⟨rfl, ?_⟩⟩
      match read with
      | .error e => exact seeks_failure h.ended _
      | .ok none =>
        simp only [obtained?, if_true]
        exact ⟨found none, h.db, rfl, .inl rfl⟩
      | .ok (some props) =>
        simp only [obtained?, if_true]
        exact ⟨found (some props), h.db, rfl, .inr ⟨generation, props, rfl, rfl⟩⟩

/-- Reading the content of a request looks nothing up, and finds out nothing but a file. -/
theorem seeks_readContent (reading : Flow.BodyReading) (p : Passage) :
    Seeks db (fun _ _ => False) (fun read => ∃ file, read.2 = { p.context with file := file })
      (Flow.readContent reading p) := by
  have hform : ∀ form, Seeks db (fun _ _ => False) (fun _ => True)
      (Flow.storeUpload reading.sniff form) := by
    intro form
    rw [Flow.storeUpload_eq, Flow.roomFor]
    split
    · intro room
      refine ⟨rfl, ?_⟩
      cases room with
      | error reason => trivial
      | ok made => trivial
    · trivial
  have hupload : Seeks db (fun _ _ => False) (fun _ => True)
      (Flow.readUpload reading p.exchange) := by
    unfold Flow.readUpload
    split
    · split
      · trivial
      · exact hform _
    · split <;> trivial
  unfold Flow.readContent
  split
  · refine hupload.bind (fun _ _ => False.elim) fun read _ => ?_
    cases read with
    | error e => exact ⟨p.context.file, rfl⟩
    | ok brought => exact ⟨some brought.2, rfl⟩
  · split
    · exact ⟨p.context.file, rfl⟩
    · exact ⟨p.context.file, rfl⟩

theorem looksUp_intake (reading : Flow.BodyReading) (hnext : LooksUp r next) :
    LooksUp r (Flow.intake reading next) := by
  intro p h
  have hended : (Flow.afterReading p).ended = false := by
    unfold Flow.afterReading
    split <;> exact h.ended
  have hproceed : ∀ file warnings read, Seeks (addressedDb r)
      (Proceeds (addressedDb r) (Flow.dispatch Flow.Task.stage)) Fails (Flow.proceed next
        ⟨Flow.afterReading p, { p.context with file := file, warnings := warnings }⟩ read) := by
    intro file warnings read
    match read with
    | .ok content => exact hnext _ ⟨h.db, h.props, hended⟩
    | .error e =>
      cases e with
      | storage reason => exact seeks_failure hended _
      | _ => exact seeks_refuse hended rfl _
  unfold Flow.intake
  split
  · exact hnext p h
  · exact hnext p h
  · exact hnext p h
  · refine (seeks_readContent reading p).bind (fun _ _ => False.elim)
      fun (read, context) hread => ?_
    obtain ⟨file, hcontext⟩ := hread
    dsimp only at hcontext
    subst hcontext
    match read with
    | .error e => exact hproceed file p.context.warnings _
    | .ok content =>
      obtain ⟨warnings, hsettled⟩ :=
        Flow.exists_warnings_of_settle content { p.context with file := file }
      simp only [hsettled]
      exact hproceed file warnings _

theorem looksUp_admission (rules : Access.Rules) (hnext : LooksUp r next) :
    LooksUp r (Flow.admission rules next) := by
  intro p h
  unfold Flow.admission
  split
  · exact hnext _ ⟨h.db, h.props, h.ended⟩
  · refine seeks_refuse ?_ rfl _
    change (Flow.challenged rules p.exchange).ended = false
    unfold Flow.challenged
    split
    · exact h.ended
    · exact (Http.Exchange.ended_amend _ _).trans h.ended
  · exact seeks_refuse h.ended rfl _

/-- After a request has been dispatched nothing is looked up any more. -/
theorem rests_dispatch (p : Passage) : Rests db (Flow.dispatch Flow.Task.stage p) := by
  have hwrite : ∀ mode, Rests db (Flow.write mode Stage.stop p) := by
    intro mode
    unfold Flow.write
    split
    · trivial
    · intro answer
      refine ⟨rfl, ?_⟩
      match answer with
      | .error e => trivial
      | .ok result =>
        simp only [Flow.afterWrite]
        split
        · trivial
        · split
          · trivial
          · exact fun _ => ⟨rfl, trivial⟩
  unfold Flow.dispatch
  split
  · rename_i task _
    cases task with
    | replace => exact hwrite .replace
    | merge => exact hwrite .merge
    | present =>
      change Rests db (Flow.present Stage.stop p)
      unfold Flow.present
      split <;> trivial
  · trivial

end

/-- What is done for a visitor from where his request is dispatched. -/
def Visitor.dispatched (v : Visitor) (p : Passage) : Program Http.Response :=
  ((Flow.dispatch Flow.Task.stage p).bind fun result => .done (responseOf result)).bind
    fun response => .done (dressed v.request v.fresh response)

theorem rests_dispatched (v : Visitor) (db : String) (p : Passage) :
    Rests db (v.dispatched p) := by
  have hresponse : Rests db ((Flow.dispatch Flow.Task.stage p).bind fun result =>
      .done (responseOf result)) := (rests_dispatch p).bind fun _ => trivial
  exact hresponse.bind fun _ => trivial

/-- Behind a request that goes on with some properties its response is made. -/
theorem Proceeds.bind {α β : Type} {db : String} {next : Passage → Program α}
    {props : Option Document} {program : Program α} (h : Proceeds db next props program)
    (f : α → Program β) : Proceeds db (fun p => (next p).bind f) props (program.bind f) := by
  obtain ⟨p, hdb, hprops, rfl | ⟨generation, shared, hshared, rfl⟩⟩ := h
  · exact ⟨p, hdb, hprops, .inl rfl⟩
  · exact ⟨p, hdb, hprops, .inr ⟨generation, shared, hshared, rfl⟩⟩

/-- What is done for a visitor looks up the database that he addresses, and goes on with what that
brings. -/
theorem seeks_program (v : Visitor) :
    Seeks (addressedDb v.request) (Proceeds (addressedDb v.request) v.dispatched)
      (fun response => response.status.isSuccess = false) v.program := by
  have hchain : LooksUp v.request
      (Flow.chain v.settings.security.rules (bodyReading v.settings)) :=
    looksUp_admission _ (looksUp_intake _ looksUp_lookup)
  have hresponse : Seeks (addressedDb v.request)
      (Proceeds (addressedDb v.request) fun p =>
        (Flow.dispatch Flow.Task.stage p).bind fun result => .done (responseOf result))
      (fun response => response.status.isSuccess = false)
      (if hasPath v.request.head.uri then respond v.settings v.request else .done unaddressed) := by
    split
    · exact (hchain _ ⟨rfl, rfl, rfl⟩).bind (fun props q h => Proceeds.bind h _) fun result h => h
    · rfl
  exact hresponse.bind (fun props q h => Proceeds.bind h _) fun response h => h

/-- The response of a party that has come to its end. -/
def Crowd.response? {τ σ : Type} (crowd : Crowd τ σ) (party : Nat) : Option Http.Response :=
  match crowd.programs party with
  | .done response => some response
  | .call _ _ => none

/-- In a crowd the properties of a database that have just been brought are those that the request
goes on with; and a request for the database that has been brought none has written nothing and is
not answered with success. -/
structure Crowd.ServesFound {τ σ : Type} (visitors : Nat → Visitor) (db : String)
    (crowd : Crowd τ σ) : Prop where
  found : ∀ e props, crowd.log.getLast? = some e → e.obtains? db = some props →
    Proceeds db (visitors e.party).dispatched props (crowd.programs e.party)
  unfound : ∀ party, addressedDb (visitors party).request = db →
    (∀ e ∈ crowd.log, e.party = party → e.obtains? db = none) →
    (∀ e ∈ crowd.log, e.party = party → e.writes db = false) ∧
      ∀ response, crowd.response? party = some response → response.status.isSuccess = false

section

variable {τ σ : Type} {visitors : Nat → Visitor} {db : String} {crowd : Crowd τ σ} {turn : Turn τ}
  {c : Call} {next : c.Answer → Program Http.Response}
  {answer : τ → (c : Call) → σ → c.Answer × σ}

/-- A party has made no call that brought or wrote properties of a database. -/
def Crowd.Unserved (db : String) (party : Nat) (crowd : Crowd τ σ) : Prop :=
  ∀ e ∈ crowd.log, e.party = party → e.obtains? db = none ∧ e.writes db = false

/-- Where a request stands with a look-up: it seeks what it has not been brought, or has been
brought something and rests. -/
def Crowd.StandsWith (visitors : Nat → Visitor) (db : String) (crowd : Crowd τ σ)
    (party : Nat) : Prop :=
  crowd.Unserved db party ∧
      Seeks db (Proceeds db (visitors party).dispatched)
        (fun response => response.status.isSuccess = false) (crowd.programs party) ∨
    (∃ e ∈ crowd.log, e.party = party ∧ (e.obtains? db).isSome) ∧ Rests db (crowd.programs party)

theorem rests_of_proceeds {v : Visitor} {props : Option Document} {program : Program Http.Response}
    (h : Proceeds db v.dispatched props program) : Rests db program := by
  obtain ⟨p, _, _, rfl | ⟨generation, shared, _, rfl⟩⟩ := h
  · exact rests_dispatched v db p
  · exact fun _ => ⟨rfl, rests_dispatched v db p⟩

/-- Who does not make the call stands where he stood. -/
theorem Crowd.StandsWith.advance_of_ne {party : Nat} (h : crowd.StandsWith visitors db party)
    (hparty : party ≠ turn.party) :
    (crowd.advance answer turn c next).StandsWith visitors db party := by
  have hprogram : (crowd.advance answer turn c next).programs party = crowd.programs party :=
    if_neg hparty
  rw [Crowd.StandsWith, hprogram]
  refine h.imp (fun ⟨hunserved, hseeks⟩ => ⟨?_, hseeks⟩) fun ⟨⟨e, he, hfound⟩, hrests⟩ =>
    ⟨⟨e, List.mem_append_left _ he, hfound⟩, hrests⟩
  intro e he heparty
  rcases List.mem_append.mp he with hold | hnew
  · exact hunserved e hold heparty
  · obtain rfl := List.mem_singleton.mp hnew
    exact absurd heparty.symm hparty

/-- Who makes a call is brought something by it and goes on with that, or stands as before. -/
theorem Crowd.StandsWith.advance (h : crowd.StandsWith visitors db turn.party)
    (hprogram : crowd.programs turn.party = .call c next) :
    (crowd.advance answer turn c next).StandsWith visitors db turn.party ∧
      ∀ props, (crowd.event answer turn c).obtains? db = some props →
        Proceeds db (visitors turn.party).dispatched props
          ((crowd.advance answer turn c next).programs turn.party) := by
  have hnext : (crowd.advance answer turn c next).programs turn.party =
      next (crowd.event answer turn c).answer := if_pos rfl
  have hevent : crowd.event answer turn c ∈ (crowd.advance answer turn c next).log :=
    List.mem_append_right _ List.mem_cons_self
  rw [Crowd.StandsWith, hnext]
  rw [Crowd.StandsWith, hprogram] at h
  rcases h with ⟨hunserved, hseeks⟩ | ⟨⟨e, he, hfound⟩, hrests⟩
  · obtain ⟨hunwritten, hgoes⟩ := hseeks (crowd.event answer turn c).answer
    split at hgoes
    · rename_i props hprops
      refine ⟨.inr ⟨⟨_, hevent, rfl, Option.isSome_iff_exists.mpr ⟨props, hprops⟩⟩,
        rests_of_proceeds hgoes⟩, fun props' hprops' => ?_⟩
      obtain rfl := Option.some.inj (hprops.symm.trans hprops')
      exact hgoes
    · rename_i hnothing
      refine ⟨.inl ⟨fun e he heparty => ?_, hgoes⟩, fun props hprops => ?_⟩
      · rcases List.mem_append.mp he with hold | hnew
        · exact hunserved e hold heparty
        · obtain rfl := List.mem_singleton.mp hnew
          exact ⟨hnothing, hunwritten⟩
      · cases hnothing.symm.trans hprops
  · obtain ⟨hnothing, hnextRests⟩ := hrests (crowd.event answer turn c).answer
    refine ⟨.inr ⟨⟨e, List.mem_append_left _ he, hfound⟩, hnextRests⟩, fun props hprops => ?_⟩
    cases hnothing.symm.trans hprops

/-- A call that brings properties of a database is made for a request that addresses it. -/
theorem addressed_of_obtains (h : crowd.Obeys visitors fun _ _ => True)
    (hprogram : crowd.programs turn.party = .call c next) {props : Option Document}
    (hprops : (crowd.event answer turn c).obtains? db = some props) :
    addressedDb (visitors turn.party).request = db := by
  obtain ⟨φ, ψ, _, hmove⟩ := h.moves answer hprogram
  change obtained? db c (crowd.event answer turn c).answer = some props at hprops
  generalize (crowd.event answer turn c).answer = a at hmove hprops
  have hname : ∀ {name : String} {value : Option Document},
      (if name = db then some value else none) = some props → name = db := by
    intro name value h
    split at h
    · assumption
    · cases h
  cases hmove with
  | look copy =>
    cases copy with
    | none => cases hprops
    | some found => exact hname hprops
  | absent => exact hname hprops
  | read => exact hname hprops
  | room | note | unread | share | unwritten | refused | written | forget => cases hprops

/-- What every call keeps of the look-ups of a database in a crowd. -/
structure Crowd.Finds (visitors : Nat → Visitor) (db : String) (crowd : Crowd τ σ) : Prop where
  obeys : crowd.Obeys visitors fun _ _ => True
  stands : ∀ party, addressedDb (visitors party).request = db → crowd.StandsWith visitors db party
  found : ∀ e props, crowd.log.getLast? = some e → e.obtains? db = some props →
    Proceeds db (visitors e.party).dispatched props (crowd.programs e.party)

theorem Crowd.Finds.start (state : σ) :
    (Crowd.start visitors state : Crowd τ σ).Finds visitors db := by
  refine ⟨Crowd.Obeys.start fun _ => trivial, fun party hparty => ?_, fun e props he => ?_⟩
  · refine .inl ⟨fun e he => (nomatch he), ?_⟩
    rw [← hparty]
    exact seeks_program (visitors party)
  · cases he

theorem Crowd.Finds.advance (h : crowd.Finds visitors db)
    (hprogram : crowd.programs turn.party = .call c next) :
    (crowd.advance answer turn c next).Finds visitors db := by
  refine ⟨h.obeys.advance hprogram (fun _ _ _ _ => trivial) fun _ _ _ => trivial,
    fun party hparty => ?_, fun e props he hprops => ?_⟩
  · by_cases hmover : party = turn.party
    · subst hmover
      exact ((h.stands _ hparty).advance hprogram).1
    · exact (h.stands party hparty).advance_of_ne hmover
  · have hlast : (crowd.log ++ [crowd.event answer turn c]).getLast? = some e := he
    rw [List.getLast?_concat] at hlast
    obtain rfl := Option.some.inj hlast
    have haddressed := addressed_of_obtains h.obeys hprogram hprops
    exact ((h.stands _ haddressed).advance hprogram).2 props hprops

end

/-- Whatever the schedule, requests go on with what has been found for them. -/
theorem servesFound {τ σ : Type} (visitors : Nat → Visitor)
    (answer : τ → (c : Call) → σ → c.Answer × σ) (state : σ) (schedule : List (Turn τ))
    (db : String) :
    ((Crowd.start visitors state).run answer schedule).ServesFound visitors db := by
  obtain ⟨_, hstands, hfound⟩ : ((Crowd.start visitors state).run answer schedule).Finds
      visitors db :=
    Crowd.run_invariant (fun _ _ _ _ h hprogram => h.advance hprogram) (.start state) schedule
  refine ⟨hfound, fun party hparty hnothing => ?_⟩
  rcases hstands party hparty with ⟨hunserved, hseeks⟩ | ⟨⟨e, he, heparty, hsome⟩, _⟩
  · refine ⟨fun e he heparty => (hunserved e he heparty).2, fun response hdone => ?_⟩
    unfold Crowd.response? at hdone
    split at hdone
    · rename_i hprogram
      cases hdone
      rw [hprogram] at hseeks
      exact hseeks
    · cases hdone
  · rw [hnothing e he heparty] at hsome
    cases hsome

end DocumentGateway.Gateway

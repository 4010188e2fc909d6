import DocumentGateway.Gateway.Serving

/-!
# Crowds

Requests in flight at the same time. Each of them is a program; in its turn it makes one call, which
is answered in one step from the state that all of them share. A schedule is any sequence of turns:
requests may go on in any order, wait as long as they like and never come to an end. What happened
is kept in a log, so that it can be said what came before what.
-/

namespace DocumentGateway.Gateway

open DocumentGateway.Flow (Call Program)

/-- A request in a crowd. -/
structure Visitor where
  /-- The settings it is served under. -/
  settings : Setup
  /-- What identifies the request if it does not identify itself. -/
  fresh : Http.HeaderValue
  /-- The request. -/
  request : Http.Request

/-- What is done for a visitor. -/
def Visitor.program (v : Visitor) : Program Http.Response := serve v.settings v.fresh v.request

/-- A turn. -/
structure Turn (τ : Type) where
  /-- Who goes on. -/
  party : Nat
  /-- What the surroundings contribute to the call. -/
  occasion : τ

/-- A call that was answered. -/
structure Event (τ σ : Type) where
  /-- Who made the call. -/
  party : Nat
  /-- What the surroundings contributed. -/
  occasion : τ
  /-- The state before the call. -/
  before : σ
  /-- The call. -/
  call : Call
  /-- Its answer. -/
  answer : call.Answer
  /-- The state after the call. -/
  after : σ

/-- Requests in flight. -/
structure Crowd (τ σ : Type) where
  /-- The state that they share. -/
  state : σ
  /-- What each of them still has to do. -/
  programs : Nat → Program Http.Response
  /-- What has happened, in order. -/
  log : List (Event τ σ)

namespace Crowd

variable {τ σ : Type}

/-- The crowd of some visitors before the first turn. -/
def start (visitors : Nat → Visitor) (state : σ) : Crowd τ σ :=
  ⟨state, fun party => (visitors party).program, []⟩

/-- What happens when a party makes a call. -/
def event (answer : τ → (c : Call) → σ → c.Answer × σ) (crowd : Crowd τ σ) (turn : Turn τ)
    (c : Call) : Event τ σ where
  party := turn.party
  occasion := turn.occasion
  before := crowd.state
  call := c
  answer := (answer turn.occasion c crowd.state).1
  after := (answer turn.occasion c crowd.state).2

/-- The crowd after a party has made a call. -/
def advance (answer : τ → (c : Call) → σ → c.Answer × σ) (crowd : Crowd τ σ) (turn : Turn τ)
    (c : Call) (next : c.Answer → Program Http.Response) : Crowd τ σ where
  state := (crowd.event answer turn c).after
  programs := fun party =>
    if party = turn.party then next (crowd.event answer turn c).answer else crowd.programs party
  log := crowd.log ++ [crowd.event answer turn c]

/-- Take a turn; a party that has come to its end has nothing more to do. -/
def step (answer : τ → (c : Call) → σ → c.Answer × σ) (crowd : Crowd τ σ) (turn : Turn τ) :
    Crowd τ σ :=
  match crowd.programs turn.party with
  | .done _ => crowd
  | .call c next => crowd.advance answer turn c next

/-- Take some turns, one after another. -/
def run (answer : τ → (c : Call) → σ → c.Answer × σ) (crowd : Crowd τ σ)
    (schedule : List (Turn τ)) : Crowd τ σ :=
  schedule.foldl (step answer) crowd

/-- What is in the log after a call was there before, or is the call itself. -/
theorem getElem?_log_advance {answer : τ → (c : Call) → σ → c.Answer × σ} {crowd : Crowd τ σ}
    {turn : Turn τ} {c : Call} {next : c.Answer → Program Http.Response} {n : Nat} {e : Event τ σ} :
    (crowd.advance answer turn c next).log[n]? = some e ↔
      crowd.log[n]? = some e ∨ n = crowd.log.length ∧ e = crowd.event answer turn c := by
  change (crowd.log ++ [crowd.event answer turn c])[n]? = some e ↔ _
  rcases Nat.lt_trichotomy n crowd.log.length with hn | rfl | hn
  · rw [List.getElem?_append_left hn]
    simp [Nat.ne_of_lt hn]
  · simp [eq_comm]
  · have hlength : (crowd.log ++ [crowd.event answer turn c]).length ≤ n := by
      rw [List.length_append]
      exact hn
    rw [List.getElem?_eq_none hlength, List.getElem?_eq_none (Nat.le_of_lt hn)]
    simp [Nat.ne_of_gt hn]

/-- Whatever holds at first and is kept by every call holds after every schedule. -/
theorem run_invariant {answer : τ → (c : Call) → σ → c.Answer × σ} {Inv : Crowd τ σ → Prop}
    (hcall : ∀ crowd turn c next, Inv crowd → crowd.programs turn.party = .call c next →
      Inv (crowd.advance answer turn c next))
    {crowd : Crowd τ σ} (h : Inv crowd) (schedule : List (Turn τ)) :
    Inv (crowd.run answer schedule) := by
  induction schedule generalizing crowd with
  | nil => exact h
  | cons turn rest ih =>
    refine ih ?_
    unfold step
    split
    · exact h
    · rename_i c next hprogram
      exact hcall crowd turn c next h hprogram

end Crowd

/-- Whether a call wrote a database. -/
def wrote (db : String) : (c : Call) → c.Answer → Bool
  | .upsert name _, .ok result => name = db && result.status.isSuccess
  | _, _ => false

/-- Whether a call made the cache forget a database. -/
def forgot (db : String) : Call → Bool
  | .forget name => name = db
  | _ => false

/-- The properties of a database that a call brought, from the cache or from the database itself. -/
def obtained? (db : String) : (c : Call) → c.Answer → Option (Option Document)
  | .cached name, some props => if name = db then some (some props) else none
  | .load name, .ok props => if name = db then some props else none
  | _, _ => none

/-- Whether an event wrote a database. -/
def Event.writes {τ σ : Type} (e : Event τ σ) (db : String) : Bool := wrote db e.call e.answer

/-- Whether an event made the cache forget a database. -/
def Event.forgets {τ σ : Type} (e : Event τ σ) (db : String) : Bool := forgot db e.call

/-- The properties of a database that an event brought. -/
def Event.obtains? {τ σ : Type} (e : Event τ σ) (db : String) : Option (Option Document) :=
  obtained? db e.call e.answer

/-- An occasion on which the cache may hold anything. -/
structure AnyCache extends Occasion where
  /-- The cache. -/
  cache : Store.Cache

/-- Answer a call from the databases and any cache. -/
def answerFromAnyCache (o : AnyCache) (c : Call) (databases : Store.Database) :
    c.Answer × Store.Database :=
  ((State.answer o.toOccasion c ⟨databases, o.cache⟩).1,
    (State.answer o.toOccasion c ⟨databases, o.cache⟩).2.databases)

end DocumentGateway.Gateway

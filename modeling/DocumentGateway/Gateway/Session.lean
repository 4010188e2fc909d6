import DocumentGateway.Gateway.Serving

/-!
# Sessions

Requests that are answered one after another while the clock goes on: it is read anew at every call,
so that a copy may expire between any two of them. Every request brings its own fresh version token.
-/

namespace DocumentGateway.Gateway

/-- A request with what the surroundings contribute to all of it. -/
structure Visit where
  /-- The request. -/
  request : Http.Request
  /-- What identifies the request if it does not identify itself. -/
  fresh : Http.HeaderValue
  /-- The version token of its write. -/
  etag : String
  /-- Whether files can be stored, or why not. -/
  storage : Except String Unit

/-- What the surroundings contribute to a call at a reading of the clock. -/
def Visit.occasion (v : Visit) (now : Nat) : Occasion := ⟨now, v.etag, v.storage⟩

/-- A state, with how often the clock has been read. -/
structure Clocked where
  /-- The state. -/
  state : State
  /-- How often the clock has been read. -/
  readings : Nat

/-- Answer a call of a visit at the next reading of the clock. -/
def Visit.answer (v : Visit) (clock : Nat → Nat) (c : Flow.Call) (s : Clocked) :
    c.Answer × Clocked :=
  ((State.answer (v.occasion (clock s.readings)) c s.state).1,
    ⟨(State.answer (v.occasion (clock s.readings)) c s.state).2, s.readings + 1⟩)

/-- Answer the request of a visit. -/
def Visit.serve (v : Visit) (settings : Setup) (clock : Nat → Nat) (s : Clocked) :
    Http.Response × Clocked :=
  (Gateway.serve settings v.fresh v.request).run (v.answer clock) s

/-- Answer the requests of some visits, one after another. -/
def session (settings : Setup) (clock : Nat → Nat) :
    List Visit → Clocked → List Http.Response × Clocked
  | [], s => ([], s)
  | v :: rest, s =>
    let served := v.serve settings clock s
    let others := session settings clock rest served.2
    (served.1 :: others.1, others.2)

/-- The session that begins with nothing stored. -/
def sessionFromStart (settings : Setup) (clock : Nat → Nat) (visits : List Visit) :
    List Http.Response × Clocked :=
  session settings clock visits ⟨.ofSettings settings, 0⟩

private theorem run_answer_of_still {α : Type} (v : Visit) (now : Nat) (p : Flow.Program α)
    (s : Clocked) :
    (p.run (v.answer fun _ => now) s).1 = (p.run (State.answer (v.occasion now)) s.state).1 ∧
      (p.run (v.answer fun _ => now) s).2.state =
        (p.run (State.answer (v.occasion now)) s.state).2 := by
  induction p generalizing s with
  | done value => exact ⟨rfl, rfl⟩
  | call c next ih => exact ih _ _

/-- While the clock stands still, a visit is the request served on one occasion. -/
theorem serve_of_still (v : Visit) (settings : Setup) (now : Nat) (s : Clocked) :
    (v.serve settings (fun _ => now) s).1 =
        (s.state.serve settings (v.occasion now) v.fresh v.request).1 ∧
      (v.serve settings (fun _ => now) s).2.state =
        (s.state.serve settings (v.occasion now) v.fresh v.request).2 :=
  run_answer_of_still v now _ s

end DocumentGateway.Gateway

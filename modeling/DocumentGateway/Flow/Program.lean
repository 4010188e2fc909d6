import DocumentGateway.Flow.Context

/-!
# Programs

What the gateway does with a request is a tree: it either is done, or calls the world outside and
goes on with the answer. Every call is one atomic step on the cache, the database, the storage for
uploads or a stage that is not the gateway's own. Running a program against a state threads the
state through the calls in their order; requests in flight at the same time are programs whose calls
alternate.
-/

namespace DocumentGateway.Flow

/-- A request on its way through the stages. -/
structure Passage where
  /-- The request and the response being built. -/
  exchange : Http.Exchange
  /-- What is known about the request. -/
  context : Context

/-- Why a request could not be handled. -/
inductive Failure where
  /-- The database did not answer. -/
  | database (error : Store.DatabaseError)
  /-- A file could not be read or written, for a reason. -/
  | io (reason : String)
  deriving DecidableEq, Repr

/-- What is said about a request that could not be handled. -/
def Failure.message : Failure → String
  | .database error => "database error: " ++ error.message
  | .io reason => "I/O error: " ++ reason

/-- What became of a request. -/
structure Result where
  /-- Whether it was handled. -/
  outcome : Except Failure Unit
  /-- The request as the stages left it. -/
  passage : Passage

/-- Where a request leaves the gateway's own stages. -/
inductive Outlet where
  | next
  | put
  | patch
  | get
  deriving DecidableEq, Repr

/-- A step outside a program. -/
inductive Call where
  /-- Look a name up in the cache. -/
  | cached (db : String)
  /-- Read the generation of a name in the cache. -/
  | generation (db : String)
  /-- Store properties in the cache that were read at a generation. -/
  | remember (db : String) (generation : Nat) (props : Document)
  /-- Invalidate a name in the cache. -/
  | forget (db : String)
  /-- Read the properties of a database. -/
  | load (db : String)
  /-- Write to a database. -/
  | upsert (db : String) (write : Store.Write)
  /-- Make room for an uploaded file. -/
  | reserve
  /-- Hand a request over. -/
  | handOver (outlet : Outlet) (passage : Passage)

/-- The answer to a call. -/
def Call.Answer : Call → Type
  | .cached _ => Option Document
  | .generation _ => Nat
  | .remember _ _ _ => Bool
  | .forget _ => Unit
  | .load _ => Except Store.DatabaseError (Option Document)
  | .upsert _ _ => Except Store.DatabaseError Store.WriteResult
  | .reserve => Except String Unit
  | .handOver _ _ => Result

/-- A tree of calls with a value at each leaf. -/
inductive Program (α : Type) where
  | done (value : α)
  | call (c : Call) (next : c.Answer → Program α)

namespace Program

variable {α β γ σ : Type}

/-- Go on with the value of a program. -/
def bind : Program α → (α → Program β) → Program β
  | done value, f => f value
  | call c next, f => call c fun answer => (next answer).bind f

instance : Monad Program where
  pure := done
  bind := bind

/-- The program of one call. -/
def ask (c : Call) : Program c.Answer := call c done

/-- Run a program against a state. -/
def run (answer : (c : Call) → σ → c.Answer × σ) : Program α → σ → α × σ
  | done value, s => (value, s)
  | call c next, s => run answer (next (answer c s).1) (answer c s).2

@[simp] theorem pure_eq (value : α) : (pure value : Program α) = done value := rfl

@[simp] theorem bind_eq (p : Program α) (f : α → Program β) : p >>= f = p.bind f := rfl

@[simp] theorem done_bind (value : α) (f : α → Program β) : (done value).bind f = f value := rfl

@[simp] theorem call_bind (c : Call) (next : c.Answer → Program α) (f : α → Program β) :
    (call c next).bind f = call c fun answer => (next answer).bind f := rfl

theorem bind_done (p : Program α) : p.bind done = p := by
  induction p with
  | done value => rfl
  | call c next ih => simp [ih]

theorem bind_assoc (p : Program α) (f : α → Program β) (g : β → Program γ) :
    (p.bind f).bind g = p.bind fun value => (f value).bind g := by
  induction p with
  | done value => rfl
  | call c next ih => simp [ih]

@[simp] theorem run_done (answer : (c : Call) → σ → c.Answer × σ) (value : α) (s : σ) :
    (done value).run answer s = (value, s) := rfl

@[simp] theorem run_call (answer : (c : Call) → σ → c.Answer × σ) (c : Call)
    (next : c.Answer → Program α) (s : σ) :
    (call c next).run answer s = (next (answer c s).1).run answer (answer c s).2 := rfl

/-- Two programs one after the other run as one. -/
theorem run_bind (answer : (c : Call) → σ → c.Answer × σ) (p : Program α) (f : α → Program β)
    (s : σ) :
    (p.bind f).run answer s = (f (p.run answer s).1).run answer (p.run answer s).2 := by
  induction p generalizing s with
  | done value => rfl
  | call c next ih => simp [ih]

end Program

/-- What handles a request from some point on. -/
abbrev Stage := Passage → Program Result

namespace Stage

/-- The end of the chain: the request is handled. -/
def stop : Stage := fun p => .done ⟨.ok (), p⟩

/-- A stage that is not the gateway's own. -/
def outside (outlet : Outlet) : Stage := fun p => Program.ask (.handOver outlet p)

end Stage

namespace Passage

/-- End the exchange with a status and a message, which handles the request. -/
def refuse (p : Passage) (status : Http.Status) (message : String) : Program Result :=
  Stage.stop { p with exchange := p.exchange.conclude status message }

end Passage

/-- End the exchange if the request was handled. -/
def Result.finish (r : Result) : Result :=
  match r.outcome with
  | .ok _ => { r with passage := { r.passage with exchange := r.passage.exchange.finish } }
  | .error _ => r

end DocumentGateway.Flow

import DocumentGateway.Flow.Lookup

/-!
# The protocol of a request

Whatever a request does with the cache and the database follows one protocol. It asks about one name
only. What it hands to the cache it has read from the database, after noting the generation that it
hands over with it. When it has written, it lets the cache forget the name, and after that it asks
nothing more. A program obeys the protocol if all its calls do whatever answers it is given, and a
program that obeys it keeps to it in any company, which is what makes interleavings tractable.
-/

namespace DocumentGateway.Flow

open Store (DatabaseError WriteResult Write)

/-- Where a request stands. -/
inductive Phase where
  /-- It has nothing at hand and has written nothing. -/
  | idle
  /-- It has noted a generation. -/
  | noted (generation : Nat)
  /-- It has read properties after noting a generation. -/
  | holding (generation : Nat) (props : Document)
  /-- It has written, and the cache has not yet forgotten the name. -/
  | written (result : WriteResult)
  /-- It has written, and the cache has forgotten the name since. -/
  | published (result : WriteResult)

/-- The moves of the protocol for a name: a call with its answer, from one phase to the next. Only
writes of a certain kind are made. -/
inductive Moves (db : String) (kind : Write → Prop) :
    Phase → (c : Call) → c.Answer → Phase → Prop where
  | room (answer : Except String Unit) : Moves db kind .idle .reserve answer .idle
  | look (answer : Option Document) : Moves db kind .idle (.cached db) answer .idle
  | note (generation : Nat) :
      Moves db kind .idle (.generation db) generation (.noted generation)
  | unread (generation : Nat) (e : DatabaseError) :
      Moves db kind (.noted generation) (.load db) (Except.error e) .idle
  | absent (generation : Nat) :
      Moves db kind (.noted generation) (.load db) (Except.ok none) .idle
  | read (generation : Nat) (props : Document) :
      Moves db kind (.noted generation) (.load db) (Except.ok (some props))
        (.holding generation props)
  | share (generation : Nat) (props : Document) (answer : Bool) :
      Moves db kind (.holding generation props) (.remember db generation props) answer .idle
  | unwritten {w : Write} (ofKind : kind w) (e : DatabaseError) :
      Moves db kind .idle (.upsert db w) (Except.error e) .idle
  | refused {w : Write} (ofKind : kind w) {result : WriteResult}
      (failure : result.status.isSuccess = false) :
      Moves db kind .idle (.upsert db w) (Except.ok result) .idle
  | written {w : Write} (ofKind : kind w) {result : WriteResult}
      (success : result.status.isSuccess = true) :
      Moves db kind .idle (.upsert db w) (Except.ok result) (.written result)
  | forget (result : WriteResult) :
      Moves db kind (.written result) (.forget db) () (.published result)

variable {α β : Type} {db : String} {kind : Write → Prop} {φ : Phase}

/-- Whatever the answers are, all calls of a program are moves of the protocol, and the value it
ends with fits the phase that it has then reached. -/
def Program.Obeys (db : String) (kind : Write → Prop) (fits : Phase → α → Prop) :
    Program α → Phase → Prop
  | .done value, φ => fits φ value
  | .call c next, φ =>
    ∀ answer, ∃ ψ, Moves db kind φ c answer ψ ∧ (next answer).Obeys db kind fits ψ

/-- A program may go on from wherever another one has come to. -/
theorem Program.Obeys.bind {fits : Phase → α → Prop} {fits' : Phase → β → Prop} {p : Program α}
    {f : α → Program β} (h : p.Obeys db kind fits φ)
    (hf : ∀ ψ value, fits ψ value → (f value).Obeys db kind fits' ψ) :
    (p.bind f).Obeys db kind fits' φ := by
  induction p generalizing φ with
  | done value => exact hf φ value h
  | call c next ih =>
    intro answer
    obtain ⟨ψ, hmove, hrest⟩ := h answer
    exact ⟨ψ, hmove, ih answer hrest⟩

/-- Looking properties up leaves nothing at hand. -/
theorem obeys_currentProps (db : String) (kind : Write → Prop) :
    (currentProps db).Obeys db kind (fun ψ _ => ψ = .idle) .idle := by
  have hload : (loadProps db).Obeys db kind (fun ψ _ => ψ = .idle) .idle := by
    intro generation
    refine ⟨.noted generation, .note generation, fun answer => ?_⟩
    match answer with
    | .error e => exact ⟨.idle, .unread generation e, rfl⟩
    | .ok none => exact ⟨.idle, .absent generation, rfl⟩
    | .ok (some props) =>
      exact ⟨.holding generation props, .read generation props, fun shared =>
        ⟨.idle, .share generation props shared, rfl⟩⟩
  intro answer
  refine ⟨.idle, .look answer, ?_⟩
  match answer with
  | none => exact hload
  | some props => exact rfl

end DocumentGateway.Flow

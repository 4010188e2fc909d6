import DocumentGateway.Proofs.Gateway.AllOrNothing
import DocumentGateway.Proofs.Gateway.Transparency
import DocumentGateway.Proofs.Json.Exact

/-!
# What is stored is legible

What clients send is stored as it was read, apart from keys that are dropped, versions that are
added and documents that are laid over each other. None of this makes a document illegible, so a
session that begins with nothing stored keeps all documents legible, besides keeping the cache in
step with them.
-/

namespace DocumentGateway

namespace Store.Database

open DocumentGateway.Json (Legible)

/-- Every document that is stored is legible. -/
def AllLegible (databases : Database) : Prop :=
  ∀ db d, databases.get? db = some d → Legible d

variable {databases : Database} {d : Document}

theorem legible_stamped (h : Legible d) (fresh : String) : Legible (stamped d fresh) :=
  (h.filterKeys fun key => key ≠ idField).insert etagField (.string fresh)

theorem AllLegible.insert (h : AllLegible databases) (db : String) (hd : Legible d) :
    AllLegible (Keyed.insert databases db d) := by
  intro name found hfound
  rw [Keyed.get?_insert] at hfound
  split at hfound
  · cases hfound
    exact hd
  · exact h name found hfound

/-- A write keeps all documents legible. -/
theorem AllLegible.upsert (h : AllLegible databases) (db : String) {w : Write}
    (hw : Legible w.content) (fresh : String) : AllLegible (databases.upsert db w fresh).2 := by
  have hstamped := legible_stamped hw fresh
  have hu := upserted databases db w fresh
  generalize Database.upsert databases db w fresh = outcome at hu ⊢
  cases hu with
  | missing | conflict => exact h
  | created | replaced => exact h.insert db hstamped
  | merged found => exact h.insert db ((h db _ found).overlay hstamped)

end Store.Database

namespace Gateway

open DocumentGateway.Json (Legible)

/-- The cache is in step with the databases, and every document in them is legible. -/
structure State.Presentable (s : State) : Prop where
  coherent : s.Coherent
  legible : s.databases.AllLegible

theorem State.presentable_initial (enabled : Bool) (ttl : Nat) :
    (State.initial enabled ttl).Presentable :=
  ⟨State.coherent_initial enabled ttl, nofun⟩

theorem legible_sentDocument (r : Http.Request) : Legible (sentDocument r) := by
  unfold sentDocument Flow.spelledDocument
  split
  · exact Json.Value.Legible.object_nil
  · split
    · rename_i fields hread
      exact Json.legible_of_read hread
    · exact Json.Value.Legible.object_nil

theorem WrittenFor.legible {settings : Setup} {r : Http.Request} {w : Store.Write}
    (h : WrittenFor settings r w) : Legible w.content := by
  rw [h.content]
  exact (legible_sentDocument r).filterKeys _

/-- Serving a request leaves the cache in step with the databases. -/
theorem coherent_serve (settings : Setup) (clock : Nat → Nat) (v : Visit) {s : Clocked}
    (h : s.state.Coherent) : (v.serve settings clock s).2.state.Coherent :=
  (transparent_serve settings v.fresh v.request v clock clock s s ⟨rfl, h, h⟩).2.left

/-- Serving a request keeps all documents legible. -/
theorem allLegible_serve (settings : Setup) (clock : Nat → Nat) (v : Visit) {s : Clocked}
    (h : s.state.databases.AllLegible) :
    (v.serve settings clock s).2.state.databases.AllLegible := by
  rcases serve_cases settings clock v s with ⟨-, hsame⟩ | ⟨-, -, -, result, hwrote⟩
  · rwa [hsame]
  · obtain ⟨w, hw, -, hdatabases⟩ := hwrote.write
    rw [← hdatabases]
    exact h.upsert _ hw.legible _

theorem presentable_serve (settings : Setup) (clock : Nat → Nat) (v : Visit) {s : Clocked}
    (h : s.state.Presentable) : (v.serve settings clock s).2.state.Presentable :=
  ⟨coherent_serve settings clock v h.coherent, allLegible_serve settings clock v h.legible⟩

theorem presentable_session (settings : Setup) (clock : Nat → Nat) (visits : List Visit)
    {s : Clocked} (h : s.state.Presentable) :
    (session settings clock visits s).2.state.Presentable := by
  induction visits generalizing s with
  | nil => exact h
  | cons v rest ih => exact ih (presentable_serve settings clock v h)

/-- After every session that begins with nothing stored, what is stored can be sent. -/
theorem presentable_sessionFromStart (settings : Setup) (clock : Nat → Nat) (visits : List Visit) :
    (sessionFromStart settings clock visits).2.state.Presentable :=
  presentable_session settings clock visits (s := ⟨.ofSettings settings, 0⟩)
    (State.presentable_initial _ _)

end Gateway

end DocumentGateway

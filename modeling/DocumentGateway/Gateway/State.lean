import DocumentGateway.Flow.Program
import DocumentGateway.Store.Cache

/-!
# The state of the gateway

What the gateway keeps between requests is the database and the cache. Each call of a program is
answered from them in one step, with what the occasion brings: the clock, a version token that was
never used before, and whether files can be stored.
-/

namespace DocumentGateway.Gateway

/-- What the gateway keeps between requests. -/
structure State where
  /-- The databases. -/
  databases : Store.Database
  /-- The cache of their properties. -/
  cache : Store.Cache

/-- What the surroundings contribute to a call. -/
structure Occasion where
  /-- The clock, in nanoseconds. -/
  now : Nat
  /-- The version token of a write. -/
  etag : String
  /-- Whether files can be stored, or why not. -/
  storage : Except String Unit

namespace State

/-- The state in which nothing is stored. -/
def initial (enabled : Bool) (ttl : Nat) : State := ⟨[], Store.Cache.empty enabled ttl⟩

/-- Answer a call. No stage stands at an outlet, so that a request handed over there is handled. -/
def answer (o : Occasion) : (c : Flow.Call) → State → c.Answer × State
  | .cached db, s => ((s.cache.get db o.now).1, { s with cache := (s.cache.get db o.now).2 })
  | .generation db, s => (s.cache.generation db, s)
  | .remember db generation props, s =>
    ((s.cache.put db generation props o.now).1,
      { s with cache := (s.cache.put db generation props o.now).2 })
  | .forget db, s => ((), { s with cache := s.cache.invalidate db })
  | .load db, s => (.ok (s.databases.get? db), s)
  | .upsert db w, s =>
    (.ok (Store.Database.upsert s.databases db w o.etag).1,
      { s with databases := (Store.Database.upsert s.databases db w o.etag).2 })
  | .reserve, s => (o.storage, s)
  | .handOver _ p, s => (⟨.ok (), p⟩, s)

end State

end DocumentGateway.Gateway

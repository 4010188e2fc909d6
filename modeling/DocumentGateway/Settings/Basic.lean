import DocumentGateway.Access.Admission
import DocumentGateway.Flow.Context

/-!
# Settings

What an operator may choose, with the values that hold where nothing is chosen.
-/

namespace DocumentGateway

namespace Settings

/-- Where requests arrive. -/
structure Listener where
  /-- The address listened on. -/
  bindAddress : String
  deriving DecidableEq, Repr

/-- How long things may take. -/
structure Timeouts where
  /-- The seconds a request may take. -/
  requestSecs : Nat
  deriving DecidableEq, Repr

/-- Who is known and what is allowed. -/
structure Security where
  /-- The realm, the users and the permissions. -/
  rules : Access.Rules
  /-- How many bytes a body may have. -/
  maxBodySize : Nat
  deriving DecidableEq, Repr

/-- How properties are cached. -/
structure Caching where
  /-- Whether they are cached at all. -/
  enabled : Bool
  /-- For how many seconds a copy is good. -/
  ttlSecs : Nat
  deriving DecidableEq, Repr

/-- When version tokens are required. -/
structure EtagCheck where
  /-- The policy for databases. -/
  db : EtagPolicy
  deriving DecidableEq, Repr

/-- What is told about the gateway while it runs. -/
structure Observability where
  /-- The level of the log. -/
  logLevel : String
  /-- Whether metrics are served. -/
  metricsEnabled : Bool
  /-- The address at which metrics are served. -/
  metricsAddress : String
  deriving DecidableEq, Repr

end Settings

open Settings in
/-- All settings. -/
structure Settings where
  /-- Where requests arrive. -/
  listener : Listener
  /-- How long things may take. -/
  timeouts : Timeouts
  /-- Who is known and what is allowed. -/
  security : Security
  /-- How properties are cached. -/
  cache : Caching
  /-- When version tokens are required. -/
  etagCheck : EtagCheck
  /-- What is told about the gateway while it runs. -/
  observability : Observability
  deriving DecidableEq, Repr

namespace Settings

instance : Inhabited Listener := ⟨⟨"0.0.0.0:8080"⟩⟩

instance : Inhabited Timeouts := ⟨⟨30⟩⟩

instance : Inhabited Security := ⟨⟨⟨"docgate", [], []⟩, 16 * 1024 * 1024⟩⟩

instance : Inhabited Caching := ⟨⟨true, 60⟩⟩

instance : Inhabited EtagCheck := ⟨⟨.requiredForDelete⟩⟩

instance : Inhabited Observability := ⟨⟨"info", false, "0.0.0.0:9090"⟩⟩

instance : Inhabited Settings := ⟨⟨default, default, default, default, default, default⟩⟩

/-- What is logged where nothing else is chosen: the gateway and its server from a level on. -/
def Observability.logFilter (o : Observability) : String :=
  s!"docgate={o.logLevel},tower_http={o.logLevel}"

end Settings

end DocumentGateway

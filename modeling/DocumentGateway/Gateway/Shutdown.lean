/-!
# The shutdown signal

Whoever has to stop subscribes, and one trigger reaches all subscribers. Only the latest signal is
held: a subscriber who missed earlier ones is told once how many, and then receives the latest. A
trigger that nobody listens to is lost.
-/

namespace DocumentGateway.Gateway

/-- The signal and its subscribers. -/
structure Shutdown where
  /-- How many signals were sent while somebody listened. -/
  sent : Nat
  /-- For each subscriber how many of the signals are behind it, unless it has left. -/
  subscribers : List (Option Nat)
  deriving DecidableEq, Repr

/-- What a subscriber finds. -/
inductive Shutdown.Notice where
  /-- A signal. -/
  | received
  /-- No signal since the last one. -/
  | empty
  /-- Signals that are no longer held. -/
  | lagged (missed : Nat)
  deriving DecidableEq, Repr

/-- Whether a subscriber found that there was a signal, held or not. -/
def Shutdown.Notice.isSignal : Shutdown.Notice → Bool
  | .empty => false
  | .received | .lagged _ => true

namespace Shutdown

/-- The signal that was never sent, without subscribers. -/
def initial : Shutdown := ⟨0, []⟩

/-- Add a subscriber, who sees only later signals. -/
def subscribe (s : Shutdown) : Shutdown := { s with subscribers := s.subscribers ++ [some s.sent] }

/-- How many subscribers are listening. -/
def listening (s : Shutdown) : Nat := (s.subscribers.filter Option.isSome).length

/-- Send the signal. -/
def trigger (s : Shutdown) : Shutdown :=
  if s.listening = 0 then s else { s with sent := s.sent + 1 }

/-- Let a subscriber leave. -/
def leave (s : Shutdown) (index : Nat) : Shutdown :=
  { s with subscribers := s.subscribers.set index none }

/-- How many signals are behind a subscriber that is listening. -/
def seen? (s : Shutdown) (index : Nat) : Option Nat := s.subscribers[index]?.join

/-- Let a subscriber look for a signal; one that is not listening finds nothing. -/
def poll (s : Shutdown) (index : Nat) : Option Notice × Shutdown :=
  match s.seen? index with
  | none => (none, s)
  | some seen =>
    if seen = s.sent then (some .empty, s)
    else if seen + 1 = s.sent then
      (some .received, { s with subscribers := s.subscribers.set index (some s.sent) })
    else
      (some (.lagged (s.sent - 1 - seen)),
        { s with subscribers := s.subscribers.set index (some (s.sent - 1)) })

end Shutdown

end DocumentGateway.Gateway

import DocumentGateway.Json.Basic

/-!
# The properties cache

Copies of database properties. Each name has a generation, which every invalidation raises. A reader
notes the generation before it goes to the database and hands it back with what it read, so that a
value read before a write cannot be stored after that write's invalidation. A copy expires some time
after it was stored; clock readings are in nanoseconds.
-/

namespace DocumentGateway.Store

/-- A copy of a database's properties. -/
structure Copy where
  /-- The properties. -/
  props : Document
  /-- The clock when the copy was stored. -/
  since : Nat

/-- What the cache keeps for a name. -/
structure Slot where
  /-- How often the name was invalidated. -/
  generation : Nat
  /-- The copy, if one is held. -/
  copy : Option Copy

/-- A cache of database properties. -/
structure Cache where
  /-- Whether copies are kept at all. -/
  enabled : Bool
  /-- For how many seconds a copy is good. -/
  ttl : Nat
  /-- What is kept for each name. -/
  slots : Keyed Slot

namespace Cache

/-- The cache that holds nothing. -/
def empty (enabled : Bool) (ttl : Nat) : Cache := ⟨enabled, ttl, []⟩

/-- The slot of a name; a name never seen has generation zero and no copy. -/
def slot (c : Cache) (db : String) : Slot := (c.slots.get? db).getD ⟨0, none⟩

/-- Whether a copy is still good. -/
def isFresh (c : Cache) (copy : Copy) (now : Nat) : Bool := now - copy.since < c.ttl * 1000000000

/-- Look a name up; a copy that has expired is dropped. -/
def get (c : Cache) (db : String) (now : Nat) : Option Document × Cache :=
  if !c.enabled then (none, c)
  else match (c.slot db).copy with
    | none => (none, c)
    | some copy =>
      if c.isFresh copy now then (some copy.props, c)
      else (none, { c with slots := c.slots.insert db ⟨(c.slot db).generation, none⟩ })

/-- How often a name was invalidated. -/
def generation (c : Cache) (db : String) : Nat := (c.slot db).generation

/-- Store a copy that was read at a generation, unless the name was invalidated since. -/
def put (c : Cache) (db : String) (generation : Nat) (props : Document) (now : Nat) :
    Bool × Cache :=
  if c.enabled && c.generation db = generation then
    (true, { c with slots := c.slots.insert db ⟨generation, some ⟨props, now⟩⟩ })
  else (false, c)

/-- Drop the copy of a name and raise its generation. -/
def invalidate (c : Cache) (db : String) : Cache :=
  { c with slots := c.slots.insert db ⟨c.generation db + 1, none⟩ }

/-- How many copies are held, expired or not. -/
def count (c : Cache) : Nat := (c.slots.filter fun entry => entry.2.copy.isSome).length

/-- Whether no copy is held. -/
def isEmpty (c : Cache) : Bool := c.count == 0

/-- All that a look-up can come to, each with its guard: no copy is kept under the name, the copy is
good, or it has expired and is dropped. -/
inductive LookedUp (c : Cache) (db : String) (now : Nat) : Option Document × Cache → Prop where
  | missed (absent : c.enabled = false ∨ (c.slot db).copy = none) : LookedUp c db now (none, c)
  | found {copy : Copy} (enabled : c.enabled = true) (held : (c.slot db).copy = some copy)
      (fresh : c.isFresh copy now = true) : LookedUp c db now (some copy.props, c)
  | expired {copy : Copy} (enabled : c.enabled = true) (held : (c.slot db).copy = some copy)
      (stale : c.isFresh copy now = false) :
      LookedUp c db now (none, { c with slots := c.slots.insert db ⟨c.generation db, none⟩ })

/-- The list is complete. -/
theorem lookedUp (c : Cache) (db : String) (now : Nat) : LookedUp c db now (c.get db now) := by
  rw [get]
  split
  · rename_i hoff
    exact .missed (.inl (by simpa using hoff))
  · rename_i hon
    have henabled : c.enabled = true := by simpa using hon
    split
    · rename_i hnone
      exact .missed (.inr hnone)
    · rename_i copy hheld
      split
      · rename_i hfresh
        exact .found henabled hheld hfresh
      · rename_i hstale
        exact .expired henabled hheld (Bool.eq_false_iff.mpr hstale)

/-- Invalidating a name empties its slot and leaves all others. -/
theorem slot_invalidate (c : Cache) (db other : String) :
    (c.invalidate db).slot other =
      if db = other then ⟨c.generation db + 1, none⟩ else c.slot other := by
  by_cases h : db = other <;> simp [invalidate, slot, Keyed.get?_insert, h]

/-- Storing a copy fills the slot of its name, if it is stored, and leaves all others. -/
theorem slot_put (c : Cache) (db : String) (generation : Nat) (props : Document) (now : Nat)
    (other : String) :
    (c.put db generation props now).2.slot other =
      if (c.enabled && c.generation db = generation) = true ∧ db = other then
        ⟨generation, some ⟨props, now⟩⟩
      else c.slot other := by
  rw [put]
  by_cases h : (c.enabled && c.generation db = generation) = true
  · rw [if_pos h]
    by_cases ho : db = other
    · rw [if_pos ⟨h, ho⟩, ho]
      simp [slot]
    · rw [if_neg fun hc => ho hc.2]
      simp [slot, Keyed.get?_insert, ho]
  · rw [if_neg h, if_neg fun hc => h hc.1]

/-- Looking a name up leaves the slots of all others. -/
theorem slot_get_of_ne (c : Cache) {db other : String} (now : Nat) (h : db ≠ other) :
    (c.get db now).2.slot other = c.slot other := by
  have hl := lookedUp c db now
  generalize c.get db now = outcome at hl ⊢
  cases hl with
  | missed | found => rfl
  | expired => simp [slot, Keyed.get?_insert, h]

/-- Looking a name up does not raise its generation. -/
@[simp] theorem generation_get (c : Cache) (db : String) (now : Nat) (other : String) :
    (c.get db now).2.generation other = c.generation other := by
  have hl := lookedUp c db now
  generalize c.get db now = outcome at hl ⊢
  cases hl with
  | missed | found => rfl
  | expired =>
    by_cases h : db = other
    · subst h
      simp [generation, slot]
    · simp [generation, slot, Keyed.get?_insert, h]

/-- Storing a copy does not raise the generation of its name. -/
@[simp] theorem generation_put (c : Cache) (db : String) (generation : Nat) (props : Document)
    (now : Nat) (other : String) :
    (c.put db generation props now).2.generation other = c.generation other := by
  rw [Cache.generation, slot_put]
  split
  · rename_i h
    obtain ⟨h, rfl⟩ := h
    simp only [Bool.and_eq_true, decide_eq_true_eq] at h
    exact h.2.symm
  · rfl

/-- Invalidating a name raises its generation by one. -/
theorem generation_invalidate (c : Cache) (db other : String) :
    (c.invalidate db).generation other =
      if db = other then c.generation db + 1 else c.generation other := by
  rw [Cache.generation, slot_invalidate]
  split <;> rfl

end Cache

end DocumentGateway.Store

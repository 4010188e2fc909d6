import DocumentGateway.Store.Cache

/-!
# What the cache holds after a call

A copy that is held after a call was held before it, or has just been stored at the generation its
reader had noted. These are the only two ways, so whatever is true of the one and of the other is
true of every copy. A look-up answers the copy that is held, or drops it, by how long it has been
there.
-/

namespace DocumentGateway.Store

/-- A copy was stored fewer seconds ago than copies are good for. -/
def Copy.FreshAt (ttl : Nat) (copy : Copy) (now : Nat) : Prop :=
  now - copy.since < ttl * 1000000000

instance (ttl : Nat) (copy : Copy) (now : Nat) : Decidable (copy.FreshAt ttl now) :=
  inferInstanceAs (Decidable (_ < _))

namespace Cache

variable {c : Cache} {db : String} {now : Nat}

/-- What a look-up answers is the copy that is held. -/
theorem exists_copy_of_get {c : Cache} {db : String} {now : Nat} {props : Document}
    (h : (c.get db now).1 = some props) :
    ∃ copy, (c.slot db).copy = some copy ∧ copy.props = props := by
  have hl := lookedUp c db now
  generalize c.get db now = outcome at hl h
  cases hl with
  | missed | expired => cases h
  | found _ held => exact ⟨_, held, Option.some.inj h⟩

/-- A look-up drops copies and never adds one. -/
theorem copy_of_get {c : Cache} {db other : String} {now : Nat} {copy : Copy}
    (h : ((c.get db now).2.slot other).copy = some copy) :
    (c.slot other).copy = some copy := by
  by_cases ho : db = other
  · subst ho
    have hl := lookedUp c db now
    generalize c.get db now = outcome at hl h
    cases hl with
    | missed | found => exact h
    | expired => simp [slot] at h
  · rwa [slot_get_of_ne c now ho] at h

/-- A copy held after storing was held before, or is the one just stored at the current
generation. -/
theorem copy_of_put {c : Cache} {db other : String} {generation now : Nat} {props : Document}
    {copy : Copy} (h : ((c.put db generation props now).2.slot other).copy = some copy) :
    (c.slot other).copy = some copy ∨
      db = other ∧ c.generation db = generation ∧ copy.props = props := by
  rw [slot_put] at h
  split at h
  · rename_i hs
    simp only [Bool.and_eq_true, decide_eq_true_eq] at hs
    exact .inr ⟨hs.2, hs.1.2, congrArg Copy.props (Option.some.inj h).symm⟩
  · exact .inl h

/-- A name that has just been invalidated has no copy. -/
theorem copy_of_invalidate {c : Cache} {db other : String} {copy : Copy}
    (h : ((c.invalidate db).slot other).copy = some copy) :
    db ≠ other ∧ (c.slot other).copy = some copy := by
  rw [slot_invalidate] at h
  split at h
  · cases h
  · rename_i ho
    exact ⟨ho, h⟩

/-- Only a cache that keeps copies answers a look-up. -/
theorem enabled_of_get {c : Cache} {db : String} {now : Nat} {props : Document}
    (h : (c.get db now).1 = some props) : c.enabled = true := by
  have hl := lookedUp c db now
  generalize c.get db now = outcome at hl h
  cases hl with
  | missed | expired => cases h
  | found enabled => exact enabled

@[simp] theorem enabled_get (c : Cache) (db : String) (now : Nat) :
    (c.get db now).2.enabled = c.enabled := by
  have hl := lookedUp c db now
  generalize c.get db now = outcome at hl ⊢
  cases hl <;> rfl

@[simp] theorem enabled_put (c : Cache) (db : String) (generation : Nat) (props : Document)
    (now : Nat) : (c.put db generation props now).2.enabled = c.enabled := by
  rw [put]
  split <;> rfl

@[simp] theorem ttl_get (c : Cache) (db : String) (now : Nat) : (c.get db now).2.ttl = c.ttl := by
  have hl := lookedUp c db now
  generalize c.get db now = outcome at hl ⊢
  cases hl <;> rfl

@[simp] theorem ttl_put (c : Cache) (db : String) (generation : Nat) (props : Document)
    (now : Nat) : (c.put db generation props now).2.ttl = c.ttl := by
  rw [put]
  split <;> rfl

/-- Looking a name up keeps the slots in the order of their names. -/
theorem ordered_get {c : Cache} (h : Keyed.Ordered c.slots) (db : String) (now : Nat) :
    Keyed.Ordered (c.get db now).2.slots := by
  have hl := lookedUp c db now
  generalize c.get db now = outcome at hl ⊢
  cases hl with
  | missed | found => exact h
  | expired => exact h.insert _ _

/-- Storing a copy keeps the slots in the order of their names. -/
theorem ordered_put {c : Cache} (h : Keyed.Ordered c.slots) (db : String) (generation : Nat)
    (props : Document) (now : Nat) : Keyed.Ordered (c.put db generation props now).2.slots := by
  rw [put]
  split
  · exact h.insert _ _
  · exact h

theorem get_of_disabled (henabled : c.enabled = false) : c.get db now = (none, c) := by
  rw [get, henabled]
  rfl

theorem get_of_none (hcopy : (c.slot db).copy = none) : c.get db now = (none, c) := by
  rw [get, hcopy]
  split <;> rfl

theorem get_of_fresh {copy : Copy} (henabled : c.enabled = true)
    (hcopy : (c.slot db).copy = some copy) (hfresh : copy.FreshAt c.ttl now) :
    c.get db now = (some copy.props, c) := by
  have htest : c.isFresh copy now = true := decide_eq_true hfresh
  simp [get, henabled, hcopy, htest]

theorem get_of_expired {copy : Copy} (henabled : c.enabled = true)
    (hcopy : (c.slot db).copy = some copy) (hexpired : ¬copy.FreshAt c.ttl now) :
    c.get db now =
      (none, { c with slots := c.slots.insert db ⟨c.generation db, none⟩ }) := by
  have htest : c.isFresh copy now = false := decide_eq_false hexpired
  simp [get, henabled, hcopy, htest, generation]

/-- A look-up answers the copy that is held and good. -/
theorem get_eq_some_iff {props : Document} :
    (c.get db now).1 = some props ↔
      c.enabled = true ∧ ∃ copy, (c.slot db).copy = some copy ∧ copy.FreshAt c.ttl now ∧
        copy.props = props := by
  cases henabled : c.enabled with
  | false => simp [get_of_disabled henabled]
  | true =>
    cases hcopy : (c.slot db).copy with
    | none => simp [get_of_none hcopy]
    | some copy =>
      by_cases hfresh : copy.FreshAt c.ttl now
      · simp [get_of_fresh henabled hcopy hfresh, hfresh]
      · simp [get_of_expired henabled hcopy hfresh, hfresh]

/-- Looking a name up drops the copy that is too old and leaves one that is not. -/
theorem copy_get (henabled : c.enabled = true) :
    ((c.get db now).2.slot db).copy =
      (c.slot db).copy.filter fun copy => copy.FreshAt c.ttl now := by
  cases hcopy : (c.slot db).copy with
  | none => simp [get_of_none hcopy, hcopy]
  | some copy =>
    by_cases hfresh : copy.FreshAt c.ttl now
    · simp [get_of_fresh henabled hcopy hfresh, hcopy, hfresh, Option.filter]
    · simp [get_of_expired henabled hcopy hfresh, slot, hfresh, Option.filter]

/-- A copy is stored at the generation of its name, in a cache that keeps copies. -/
theorem put_iff {generation : Nat} {props : Document} :
    (c.put db generation props now).1 = true ↔
      c.enabled = true ∧ generation = c.generation db := by
  rw [put]
  by_cases h : (c.enabled && c.generation db = generation) = true
  · rw [if_pos h]
    simp only [Bool.and_eq_true, decide_eq_true_eq] at h
    exact iff_of_true rfl ⟨h.1, h.2.symm⟩
  · rw [if_neg h]
    simp only [Bool.and_eq_true, decide_eq_true_eq] at h
    exact iff_of_false Bool.false_ne_true fun hc => h ⟨hc.1, hc.2.symm⟩

@[simp] theorem slot_empty (enabled : Bool) (ttl : Nat) (db : String) :
    (empty enabled ttl).slot db = ⟨0, none⟩ := rfl

end Cache

end DocumentGateway.Store

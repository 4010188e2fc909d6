import DocumentGateway.Gateway.Crowd
import DocumentGateway.Proofs.Store.Cache
import DocumentGateway.Proofs.Store.Database

/-!
# What a call does to the state

Only a write that succeeds changes a database, only an invalidation raises a generation, and a copy
is held after a call only if it was held before or has just been stored at the generation that its
reader had noted.
-/

namespace DocumentGateway.Gateway

open DocumentGateway.Flow (Call)

namespace State

variable {db : String} {c : Call}

/-- A call that does not write a database leaves it as it is. -/
theorem get?_answer_of_not_wrote (o : Occasion) (s : State)
    (h : wrote db c (answer o c s).1 = false) :
    (answer o c s).2.databases.get? db = s.databases.get? db := by
  cases c with
  | upsert name w =>
    by_cases hname : name = db
    · have hfailure : (s.databases.upsert name w o.etag).1.status.isSuccess = false := by
        simpa [wrote, answer, hname] using h
      change Keyed.get? (s.databases.upsert name w o.etag).2 db = s.databases.get? db
      rw [Store.Database.upsert_of_not_success hfailure]
    · exact Store.Database.get?_upsert_of_ne w o.etag hname
  | _ => rfl

/-- A call that does not make the cache forget a database leaves its generation as it is. -/
theorem generation_answer_of_not_forgot (o : Occasion) (s : State) (h : forgot db c = false) :
    (answer o c s).2.cache.generation db = s.cache.generation db := by
  cases c with
  | cached name => exact Store.Cache.generation_get _ _ _ _
  | remember name generation props => exact Store.Cache.generation_put _ _ _ _ _ _
  | forget name =>
    have hname : name ≠ db := by simpa [forgot] using h
    change (s.cache.invalidate name).generation db = _
    rw [Store.Cache.generation_invalidate, if_neg hname]
  | _ => rfl

/-- A call that makes the cache forget a database raises its generation. -/
theorem generation_answer_of_forgot (o : Occasion) (s : State) (h : forgot db c = true) :
    (answer o c s).2.cache.generation db = s.cache.generation db + 1 := by
  cases c with
  | forget name =>
    obtain rfl : name = db := by simpa [forgot] using h
    change (s.cache.invalidate name).generation name = _
    rw [Store.Cache.generation_invalidate, if_pos rfl]
  | _ => cases h

/-- A copy held after a call was held before it, or has been stored by it. -/
theorem copy_of_answer {o : Occasion} {s : State} {copy : Store.Copy}
    (h : ((answer o c s).2.cache.slot db).copy = some copy) :
    (s.cache.slot db).copy = some copy ∨
      c = .remember db (s.cache.generation db) copy.props := by
  cases c with
  | cached name => exact .inl (Store.Cache.copy_of_get h)
  | remember name generation props =>
    rcases Store.Cache.copy_of_put h with hold | ⟨rfl, rfl, rfl⟩
    · exact .inl hold
    · exact .inr rfl
  | forget name => exact .inl (Store.Cache.copy_of_invalidate h).2
  | _ => exact .inl h

/-- No copy is held of a database that the cache has just forgotten. -/
theorem copy_answer_of_forgot {o : Occasion} {s : State} {copy : Store.Copy}
    (hc : forgot db c = true) : ((answer o c s).2.cache.slot db).copy ≠ some copy := by
  intro h
  cases c with
  | forget name =>
    obtain rfl : name = db := by simpa [forgot] using hc
    exact (Store.Cache.copy_of_invalidate h).1 rfl
  | _ => cases hc

/-- Whether the cache keeps copies at all is settled from the start. -/
theorem enabled_answer (o : Occasion) (c : Call) (s : State) :
    (answer o c s).2.cache.enabled = s.cache.enabled := by
  cases c with
  | cached name => exact Store.Cache.enabled_get _ _ _
  | remember name generation props => exact Store.Cache.enabled_put _ _ _ _ _
  | _ => rfl

/-- The properties that a call brings are those of a copy that it has asked for, or what the
database holds. -/
theorem obtained_answer {o : Occasion} {s : State} {props : Option Document}
    (h : obtained? db c (answer o c s).1 = some props) :
    (s.cache.enabled = true ∧ c = .cached db ∧
      ∃ copy, (s.cache.slot db).copy = some copy ∧ props = some copy.props) ∨
      s.databases.get? db = props := by
  cases c with
  | cached name =>
    cases hget : (s.cache.get name o.now).1 with
    | none => simp [obtained?, answer, hget] at h
    | some found =>
      obtain ⟨rfl, rfl⟩ : name = db ∧ some found = props := by
        simpa [obtained?, answer, hget] using h
      obtain ⟨copy, hcopy, rfl⟩ := Store.Cache.exists_copy_of_get hget
      exact .inl ⟨Store.Cache.enabled_of_get hget, rfl, copy, hcopy, rfl⟩
  | load name =>
    obtain ⟨rfl, hprops⟩ : name = db ∧ s.databases.get? name = props := by
      simpa [obtained?, answer] using h
    exact .inr hprops
  | _ => cases h

end State

end DocumentGateway.Gateway

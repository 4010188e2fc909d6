import DocumentGateway.Flow.Lookup

/-!
# What a program hears

A program knows of the world only what it is answered. Its record is the list of its calls with
their answers, and a program ends well if, whatever the answers are, its value fits the record that
led to it. Unlike the phases of the protocol the record forgets nothing, so that a value can be
traced to the answer it was made from.
-/

namespace DocumentGateway.Flow

/-- A call with the answer that was given to it. -/
structure Reply where
  /-- The call. -/
  call : Call
  /-- Its answer. -/
  answer : call.Answer

namespace Program

variable {α β σ : Type}

/-- The calls of a run with their answers, in order. -/
def record (answer : (c : Call) → σ → c.Answer × σ) : Program α → σ → List Reply
  | .done _, _ => []
  | .call c next, s => ⟨c, (answer c s).1⟩ :: (next (answer c s).1).record answer (answer c s).2

/-- Whatever the answers are, a program ends with a value that fits all that was heard, some of it
before the program began. -/
def Ends (fits : List Reply → α → Prop) : Program α → List Reply → Prop
  | .done value, heard => fits heard value
  | .call c next, heard => ∀ answer, (next answer).Ends fits (heard ++ [⟨c, answer⟩])

/-- What was answered in a run was answered in some state. -/
theorem exists_state_of_mem_record {answer : (c : Call) → σ → c.Answer × σ} {p : Program α} {s : σ}
    {reply : Reply} (h : reply ∈ p.record answer s) :
    ∃ s', reply.answer = (answer reply.call s').1 := by
  induction p generalizing s with
  | done value => cases h
  | call c next ih =>
    rcases List.mem_cons.mp h with rfl | hrest
    · exact ⟨s, rfl⟩
    · exact ih _ hrest

namespace Ends

variable {fits : List Reply → α → Prop} {fits' : List Reply → β → Prop} {p : Program α}
  {heard : List Reply}

/-- Every program ends with some value. -/
theorem trivial (p : Program α) (heard : List Reply) : p.Ends (fun _ _ => True) heard := by
  induction p generalizing heard with
  | done value => exact True.intro
  | call c next ih => exact fun answer => ih answer _

/-- A program may go on from whatever another one has heard. -/
theorem bind {f : α → Program β} (h : p.Ends fits heard)
    (hf : ∀ more value, heard ⊆ more → fits more value → (f value).Ends fits' more) :
    (p.bind f).Ends fits' heard := by
  induction p generalizing heard with
  | done value => exact hf heard value (List.Subset.refl _) h
  | call c next ih =>
    intro answer
    refine ih answer (h answer) fun more value hmore => ?_
    exact hf more value (List.Subset.trans (List.subset_append_left _ _) hmore)

/-- A run ends with a value that fits its record. -/
theorem run (h : p.Ends fits heard) (answer : (c : Call) → σ → c.Answer × σ) (s : σ) :
    fits (heard ++ p.record answer s) (p.run answer s).1 := by
  induction p generalizing heard s with
  | done value =>
    rw [record, List.append_nil]
    exact h
  | call c next ih =>
    have hrest := ih _ (h (answer c s).1) (answer c s).2
    rwa [List.append_assoc] at hrest

end Ends

end Program

/-- Some properties of a database were found, in the cache or past it. -/
def Found (db : String) (heard : List Reply) (props : Document) : Prop :=
  (⟨.cached db, some props⟩ : Reply) ∈ heard ∨ (⟨.load db, .ok (some props)⟩ : Reply) ∈ heard

theorem Found.mono {db : String} {heard more : List Reply} {props : Document}
    (h : Found db heard props) (hmore : heard ⊆ more) : Found db more props :=
  h.imp (fun hmem => hmore hmem) (fun hmem => hmore hmem)

/-- The properties that a lookup ends with were found. -/
theorem ends_currentProps (db : String) (heard : List Reply) :
    (currentProps db).Ends (fun more read => ∀ props, read = .ok (some props) → Found db more props)
      heard := by
  intro copy
  match copy with
  | some props =>
    intro found hfound
    cases hfound
    exact .inl (List.mem_append_right _ List.mem_cons_self)
  | none =>
    intro generation read
    match read with
    | .error e => exact fun _ h => nomatch h
    | .ok none => exact fun _ h => nomatch h
    | .ok (some props) =>
      intro shared found hfound
      cases hfound
      exact .inr (List.mem_append_left _ (List.mem_append_right _ List.mem_cons_self))

end DocumentGateway.Flow

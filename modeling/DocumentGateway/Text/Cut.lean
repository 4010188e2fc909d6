/-!
# Cutting lists

Splitting at separators, looking for a run of elements, and trimming. Nothing is lost by a cut: what
`splitFirst` and `breakOn` return, put together around what they cut at, is the input.
-/

namespace DocumentGateway.Text

variable {α : Type}

/-- The pieces between the elements that pass a test; always at least one piece. -/
def splitAll (isSeparator : α → Bool) (s : List α) : List (List α) :=
  s.foldr
    (fun c pieces =>
      if isSeparator c then [] :: pieces
      else match pieces with
        | [] => [[c]]
        | piece :: rest => (c :: piece) :: rest)
    [[]]

/-- What stands before and after the first element that passes a test. -/
def splitFirst (isSeparator : α → Bool) (s : List α) : Option (List α × List α) :=
  match s.dropWhile fun c => !isSeparator c with
  | _ :: after => some (s.takeWhile fun c => !isSeparator c, after)
  | [] => none

/-- What follows a given beginning. -/
def dropStart? [DecidableEq α] : List α → List α → Option (List α)
  | [], s => some s
  | _ :: _, [] => none
  | p :: ps, c :: s => if p = c then dropStart? ps s else none

/-- Look for a run in what is left of a list; `passed` holds, last first, what was passed over. -/
def breakFrom [DecidableEq α] (run passed : List α) : List α → Option (List α × List α)
  | [] => if run.isEmpty then some (passed.reverse, []) else none
  | c :: s =>
    match dropStart? run (c :: s) with
    | some after => some (passed.reverse, after)
    | none => breakFrom run (c :: passed) s

/-- What stands before and after the first occurrence of a run. -/
def breakOn [DecidableEq α] (run s : List α) : Option (List α × List α) := breakFrom run [] s

/-- Drop the elements at the end that pass a test. -/
def trimEnd (drop : α → Bool) (s : List α) : List α := (s.reverse.dropWhile drop).reverse

/-- Drop the elements at both ends that pass a test. -/
def trim (drop : α → Bool) (s : List α) : List α := trimEnd drop (s.dropWhile drop)

theorem dropStart?_eq_some [DecidableEq α] {start s rest : List α}
    (h : dropStart? start s = some rest) : s = start ++ rest := by
  induction start generalizing s with
  | nil => simpa [dropStart?] using h
  | cons p ps ih =>
    cases s with
    | nil => simp [dropStart?] at h
    | cons c s =>
      rw [dropStart?] at h
      split at h
      · rename_i hp
        rw [ih h, hp]
        rfl
      · cases h

@[simp] theorem dropStart?_append [DecidableEq α] (start rest : List α) :
    dropStart? start (start ++ rest) = some rest := by
  induction start with
  | nil => rfl
  | cons p ps ih => simpa [dropStart?] using ih

/-- A split loses nothing, and no separator stands before it. -/
theorem splitFirst_eq_some {isSeparator : α → Bool} {s before after : List α}
    (h : splitFirst isSeparator s = some (before, after)) :
    ∃ c, isSeparator c = true ∧ s = before ++ c :: after ∧ ∀ x ∈ before, isSeparator x = false := by
  rw [splitFirst] at h
  split at h
  · rename_i c a ha
    cases h
    have hc := List.head?_dropWhile_not (fun c => !isSeparator c) s
    refine ⟨c, by simpa [ha] using hc, ?_, fun x hx => ?_⟩
    · rw [← ha, List.takeWhile_append_dropWhile]
    · simpa using List.all_eq_true.1 List.all_takeWhile x hx
  · cases h

end DocumentGateway.Text

import DocumentGateway.Text.Bytes

/-!
# Request bodies

A body arrives in chunks and may break off with an error instead of ending. Reading it whole fails
on an error and as soon as a chunk goes beyond the bytes that are allowed, which makes no difference
to where the chunks are cut.
-/

namespace DocumentGateway.Http

/-- The body of a request. -/
structure Body where
  /-- The chunks, in order. -/
  chunks : List Bytes
  /-- Whether an error follows the chunks. -/
  fails : Bool
  deriving DecidableEq

namespace Body

/-- The body without an error that holds some bytes. -/
def ofBytes (bytes : Bytes) : Body := ⟨[bytes], false⟩

/-- All bytes that arrive. -/
def bytes (b : Body) : Bytes := b.chunks.flatten

/-- Read chunk after chunk while some bytes are left of a limit, and then what follows them. -/
def gather (fails : Bool) : List Bytes → Nat → Option Bytes
  | [], _ => if fails then none else some []
  | chunk :: rest, left =>
    if left < chunk.length then none
    else (gather fails rest (left - chunk.length)).map (chunk ++ ·)

/-- All bytes, unless the body fails or is longer than a limit. -/
def read? (b : Body) (limit : Nat) : Option Bytes := gather b.fails b.chunks limit

/-- However bytes are cut into chunks, no more of them are read than the limit. -/
theorem gather_eq (fails : Bool) (chunks : List Bytes) (limit : Nat) :
    gather fails chunks limit =
      if fails = true ∨ limit < chunks.flatten.length then none else some chunks.flatten := by
  induction chunks generalizing limit with
  | nil => cases fails <;> rfl
  | cons chunk rest ih =>
    have hlength : (chunk :: rest).flatten.length = chunk.length + rest.flatten.length := by
      simp
    rw [gather, ih, hlength]
    by_cases hchunk : limit < chunk.length
    · rw [if_pos hchunk, if_pos (.inr (Nat.lt_add_right _ hchunk))]
    · rw [if_neg hchunk]
      have hrest : limit - chunk.length < rest.flatten.length ↔
          limit < chunk.length + rest.flatten.length := by omega
      simp only [hrest]
      split <;> rfl

/-- A body is read exactly if it does not fail and keeps to the limit, and then as a whole. -/
theorem read?_eq_some_iff {b : Body} {limit : Nat} {bytes : Bytes} :
    b.read? limit = some bytes ↔
      b.fails = false ∧ b.bytes.length ≤ limit ∧ b.bytes = bytes := by
  rw [read?, gather_eq, Body.bytes]
  generalize b.chunks.flatten = all
  by_cases hl : limit < all.length
  · simp [hl, Nat.not_le.2 hl]
  · cases b.fails <;> simp [hl, Nat.not_lt.1 hl]

/-- A body is not read if it fails or is longer than the limit. -/
theorem read?_eq_none_iff {b : Body} {limit : Nat} :
    b.read? limit = none ↔ b.fails = true ∨ limit < b.bytes.length := by
  rw [read?, gather_eq, Body.bytes]
  split
  · rename_i h
    exact iff_of_true rfl h
  · rename_i h
    exact iff_of_false (Option.some_ne_none _) h

end Body

end DocumentGateway.Http

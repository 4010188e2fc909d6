import DocumentGateway.Flow.Address
import DocumentGateway.Proofs.Text.Cut
import Mathlib.Data.List.Basic

/-!
# Segments and the paths they make

A path is joined from its segments with a slash before each. What a slash cuts in the joined path
are not the segments but their pieces: an escaped slash does not cut a path, and once it is
unescaped nothing tells it from one that does.
-/

namespace DocumentGateway.Flow

/-- The pieces of a segment between the slashes that it holds. -/
def slashPieces (segment : String) : List (List Char) :=
  Text.splitAll (· = '/') segment.toList

/-- A segment without a slash is its only piece. -/
theorem slashPieces_of_not_mem {segment : String} (h : '/' ∉ segment.toList) :
    slashPieces segment = [segment.toList] := Text.splitAll_of_not_mem h

theorem flatMap_slashPieces_of_not_mem {segments : List String}
    (h : ∀ s ∈ segments, '/' ∉ s.toList) :
    segments.flatMap slashPieces = segments.map String.toList := by
  rw [List.map_eq_flatMap]
  exact List.flatMap_congr fun s hs => slashPieces_of_not_mem (h s hs)

/-- A path that is not the root is its pieces with a slash before each. -/
theorem toList_joinPath {segments : List String} (h : segments ≠ []) :
    (joinPath segments).toList = Text.separated '/' (segments.flatMap slashPieces) := by
  have hjoin : joinPath segments = String.ofList (segments.flatMap fun s => '/' :: s.toList) := by
    cases segments with
    | nil => exact absurd rfl h
    | cons => rfl
  rw [hjoin, String.toList_ofList, Text.separated, List.flatMap_assoc]
  exact List.flatMap_congr fun s _ => (Text.separated_splitAll s.toList).symm

/-- No piece of a segment holds a slash. -/
theorem not_mem_of_mem_slashPieces {segments : List String} {piece : List Char}
    (h : piece ∈ segments.flatMap slashPieces) : '/' ∉ piece := by
  obtain ⟨s, _, hpiece⟩ := List.mem_flatMap.mp h
  exact Text.not_mem_of_mem_splitAll hpiece

end DocumentGateway.Flow

import DocumentGateway.Flow.Present
import DocumentGateway.Proofs.Json.Blank
import DocumentGateway.Proofs.Json.Exact

/-!
# Hypertext is read back

The bytes that the gateway sends of a legible document are read as that document. Links and warnings
are texts, so a document stays legible when a link is added to it, and the document of the warnings
is legible in any case.
-/

namespace DocumentGateway.Flow

open DocumentGateway.Json (Number Value)

variable {legal : Number → Prop} {depth : Nat}

/-- The document that is sent is what its bytes are read as. -/
theorem readExactly?_bodyOf {d : Document} (h : Json.Legible d) :
    Json.readExactly? (bodyOf d) = some (.object d) := Json.readExactly?_render h

theorem legible_selfLinks (path : String) : (selfLinks path).Legible legal (depth + 2) := by
  refine .object (List.pairwise_singleton _ _) fun field hm => ?_
  obtain rfl := List.mem_singleton.mp hm
  refine .object (List.pairwise_singleton _ _) fun field hm => ?_
  obtain rfl := List.mem_singleton.mp hm
  exact .string path

theorem legible_shownDocument {props : Document} (path : String) (h : Json.Legible props) :
    Json.Legible (shownDocument path props) := h.insert linksField (legible_selfLinks path)

theorem legible_warningsDocument (path : String) (warnings : List String) :
    (Value.object (warningsDocument path warnings)).Legible legal (depth + 3) := by
  have hlast : linksField < warningsField := by decide
  have hordered : Keyed.Ordered (warningsDocument path warnings) := List.pairwise_pair.mpr hlast
  refine .object hordered fun field hm => ?_
  rcases List.mem_pair.mp hm with rfl | rfl
  · exact legible_selfLinks _
  · refine .array fun item hm => ?_
    obtain ⟨warning, -, rfl⟩ := List.mem_map.mp hm
    exact .string warning

/-- Warnings hold no numbers, so they are read back however numbers are read. -/
theorem spelled?_bodyOf_warningsDocument (path : String) (warnings : List String) :
    Json.spelled? (bodyOf (warningsDocument path warnings)) =
      some (.object (warningsDocument path warnings)) := by
  have hlegible : (Value.object (warningsDocument path warnings)).Legible (fun _ => False)
      Json.Reader.maxDepth := legible_warningsDocument path warnings
  exact Json.readBy_bytes_render nofun hlegible

end DocumentGateway.Flow

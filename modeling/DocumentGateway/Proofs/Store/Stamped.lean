import DocumentGateway.Document.ReservedKey
import DocumentGateway.Proofs.Store.Database

/-!
# What a stored document is made of

A document is stored without all keys that belong to the gateway, under a version of its own. Laid
over a stored document it changes the version and the keys that it has, and nothing else.
-/

namespace DocumentGateway

namespace Keyed

/-- A key of both sides has its value on the right one after overlaying. -/
theorem overlay_insert {α : Type} {base changes : Keyed α} (hb : Ordered base)
    (hc : Ordered changes) (key : String) (old new : α) :
    overlay (base.insert key old) (changes.insert key new) =
      (overlay base changes).insert key new := by
  refine Ordered.ext ((hb.insert _ _).overlay _) ((hb.overlay _).insert _ _) fun other => ?_
  rw [get?_overlay (hc.insert _ _), get?_insert, get?_insert, get?_insert, get?_overlay hc]
  split <;> rfl

/-- A document without the keys that begin with an underscore. -/
def unmarked (d : Document) : Document := d.filterKeys fun key => key.toList.head? != some '_'

theorem Ordered.unmarked {d : Document} (h : Ordered d) : Ordered d.unmarked := h.filterKeys _

/-- The reserved keys and the identifier's are all keys that begin with an underscore. -/
theorem erase_withoutReserved (d : Document) : d.withoutReserved.erase idField = d.unmarked := by
  unfold erase withoutReserved unmarked filterKeys
  rw [List.filter_filter]
  refine List.filter_congr fun entry _ => ?_
  by_cases h : entry.1 = idField
  · rw [h]
    decide
  · simp [isReservedKey, h, bne]

end Keyed

namespace Store.Database

/-- What is stored of a document. -/
theorem stamped_withoutReserved (d : Document) (fresh : String) :
    stamped d.withoutReserved fresh = d.unmarked.insert etagField (.string fresh) := by
  rw [stamped, Keyed.erase_withoutReserved]

/-- What is stored of a document that is laid over a stored one. -/
theorem overlay_stamped {base d : Document} (hb : Keyed.Ordered base) (hd : Keyed.Ordered d)
    (old fresh : String) :
    Keyed.overlay (base.insert etagField (.string old)) (stamped d.withoutReserved fresh) =
      (Keyed.overlay base d.unmarked).insert etagField (.string fresh) := by
  rw [stamped_withoutReserved, Keyed.overlay_insert hb hd.unmarked]

end Store.Database

end DocumentGateway

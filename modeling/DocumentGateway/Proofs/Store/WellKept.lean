import DocumentGateway.Document.Transform
import DocumentGateway.Proofs.Store.Stamped

/-!
# Well-kept entries

A client's document becomes a well-kept entry when it is stored, and laying one over another keeps
the entry so: the checks are made on what the client sent and not on what results, but a key of the
result is on one of the two sides, and its value comes whole from there.
-/

namespace DocumentGateway.Store

/-- An entry of the database is well kept: it has a name that does not begin with an underscore, its
document has its keys in order and each once, its version is its only key that begins with an
underscore and is not empty, and the transforms that it defines are well-formed. -/
structure WellKept (name : String) (d : Document) : Prop where
  named : name ≠ "" ∧ name.toList.head? ≠ some '_'
  ordered : Keyed.Ordered d
  version : ∃ version, version ≠ "" ∧ d.get? etagField = some (.string version)
  unmarked : ∀ field ∈ d, field.1.toList.head? = some '_' → field.1 = etagField
  transforms : ∃ transforms, Transform.ofDocument d = .ok transforms

/-- The transforms that are stored are those of the document that was sent. -/
theorem ofDocument_stamped (d : Document) (fresh : String) :
    Transform.ofDocument (Database.stamped d fresh) = Transform.ofDocument d := by
  have hetag : etagField ≠ Transform.field := by decide
  have hid : idField ≠ Transform.field := by decide
  refine Transform.ofDocument_congr ?_
  rw [Database.stamped, Keyed.get?_insert_of_ne _ _ hetag, Keyed.get?_erase, if_neg hid]

/-- A client's document is well kept under a fresh version. -/
theorem wellKept_stamped {name : String} (hname : name ≠ "" ∧ name.toList.head? ≠ some '_')
    {d : Document} (hordered : Keyed.Ordered d)
    (htransforms : ∃ transforms, Transform.ofDocument d.withoutReserved = .ok transforms)
    {fresh : String} (hfresh : fresh ≠ "") :
    WellKept name (Database.stamped d.withoutReserved fresh) where
  named := hname
  ordered := Database.ordered_stamped (hordered.filterKeys _) fresh
  version := ⟨fresh, hfresh, Keyed.get?_insert_self _ _ _⟩
  unmarked := by
    intro field hfield hmark
    rw [Database.stamped_withoutReserved] at hfield
    rcases Keyed.mem_insert hfield with rfl | hold
    · rfl
    · have hplain : (field.1.toList.head? != some '_') = true := (List.mem_filter.mp hold).2
      rw [hmark] at hplain
      cases hplain
  transforms := by rwa [ofDocument_stamped]

namespace WellKept

variable {name : String} {stored changes : Document}

/-- The transforms of an overlaid document are those of one of the two. -/
theorem ofDocument_overlay (stored : Document) (hordered : Keyed.Ordered changes) :
    Transform.ofDocument (Keyed.overlay stored changes) = Transform.ofDocument changes ∨
      Transform.ofDocument (Keyed.overlay stored changes) = Transform.ofDocument stored := by
  have hget := Keyed.get?_overlay hordered stored Transform.field
  cases hchanged : Keyed.get? changes Transform.field with
  | none =>
    rw [hchanged, Option.none_or] at hget
    exact .inr (Transform.ofDocument_congr hget)
  | some value =>
    rw [hchanged, Option.some_or, ← hchanged] at hget
    exact .inl (Transform.ofDocument_congr hget)

/-- A well-kept document laid over another one is well kept. -/
theorem overlay (h : WellKept name stored) (hc : WellKept name changes) :
    WellKept name (Keyed.overlay stored changes) where
  named := h.named
  ordered := h.ordered.overlay _
  version := by
    obtain ⟨version, hne, hversion⟩ := hc.version
    refine ⟨version, hne, ?_⟩
    rw [Keyed.get?_overlay hc.ordered, hversion, Option.some_or]
  unmarked := by
    intro field hfield
    rcases Keyed.mem_overlay hfield with hnew | hold
    · exact hc.unmarked field hnew
    · exact h.unmarked field hold
  transforms := by
    rcases ofDocument_overlay stored hc.ordered with hsame | hsame
    · exact hsame ▸ hc.transforms
    · exact hsame ▸ h.transforms

/-- A write of what is well kept keeps all entries so. -/
theorem upsert {databases : Database} {db : String} {w : Write} {fresh : String}
    (h : ∀ entry ∈ databases, WellKept entry.1 entry.2)
    (hw : WellKept db (Database.stamped w.content fresh)) :
    ∀ entry ∈ (databases.upsert db w fresh).2, WellKept entry.1 entry.2 := by
  have hu := Database.upserted databases db w fresh
  generalize databases.upsert db w fresh = outcome at hu ⊢
  cases hu with
  | missing | conflict => exact h
  | created | replaced =>
    intro entry hm
    rcases Keyed.mem_insert hm with rfl | hold
    · exact hw
    · exact h entry hold
  | merged found =>
    intro entry hm
    rcases Keyed.mem_insert hm with rfl | hold
    · exact (h _ (Keyed.mem_of_get? found)).overlay hw
    · exact h entry hold

end WellKept

end DocumentGateway.Store

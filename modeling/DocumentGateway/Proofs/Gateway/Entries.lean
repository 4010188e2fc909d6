import DocumentGateway.Proofs.Gateway.History
import DocumentGateway.Proofs.Store.WellKept

/-!
# The entries that requests leave

Whatever requests come, every entry of the database is well kept: a request that writes has a name
and a document that may be stored, and what it writes is stored under a fresh version. This holds
where nothing is stored and every request keeps it.
-/

namespace DocumentGateway.Gateway

/-- A version token has two digits for each byte. -/
theorem length_versionToken (bytes : Bytes) :
    (versionToken bytes).toList.length = 2 * bytes.length := by
  have hdigits : ∀ bytes, (hexDigits bytes).length = 2 * bytes.length := by
    intro bytes
    induction bytes with
    | nil => rfl
    | cons b rest ih =>
      rw [hexDigits, List.flatMap_cons, List.length_append]
      rw [hexDigits] at ih
      rw [ih, List.length_cons]
      simp only [List.length_cons, List.length_nil]
      omega
  rw [versionToken, String.toList_ofList, hdigits, marked, List.length_modify, List.length_modify]

theorem versionToken_ne_empty {bytes : Bytes} (h : bytes.length = 16) :
    versionToken bytes ≠ "" := by
  intro hempty
  have hlength := length_versionToken bytes
  rw [hempty, h] at hlength
  cases hlength

/-- What a request asks for is well kept once it is stored. -/
theorem WrittenFor.wellKept {settings : Setup} {r : Http.Request} {w : Store.Write}
    (h : WrittenFor settings r w) {fresh : String} (hfresh : fresh ≠ "") :
    Store.WellKept (addressedDb r) (Store.Database.stamped w.content fresh) := by
  have htransforms := h.transforms
  rw [h.content] at htransforms ⊢
  exact Store.wellKept_stamped (Flow.isWritableName_iff.mp h.name) (ordered_sentDocument r)
    htransforms hfresh

/-- One more request that is served keeps all entries well kept. -/
theorem wellKept_serve (settings : Setup) (clock : Nat → Nat) {v : Visit} {s : Clocked}
    (h : ∀ entry ∈ s.state.databases, Store.WellKept entry.1 entry.2) (htoken : v.etag ≠ "") :
    ∀ entry ∈ (v.serve settings clock s).2.state.databases, Store.WellKept entry.1 entry.2 := by
  rcases serve_cases settings clock v s with ⟨_, hsame⟩ | ⟨_, _, _, result, hwrote⟩
  · rwa [hsame]
  · obtain ⟨w, hw, _, hdatabases⟩ := hwrote.write
    rw [← hdatabases]
    exact Store.WellKept.upsert h (hw.wellKept htoken)

theorem wellKept_session (settings : Setup) (clock : Nat → Nat) (visits : List Visit)
    {s : Clocked} (h : ∀ entry ∈ s.state.databases, Store.WellKept entry.1 entry.2)
    (htokens : ∀ v ∈ visits, v.etag ≠ "") :
    ∀ entry ∈ (session settings clock visits s).2.state.databases,
      Store.WellKept entry.1 entry.2 := by
  induction visits generalizing s with
  | nil => exact h
  | cons v rest ih =>
    exact ih (wellKept_serve settings clock h (htokens v List.mem_cons_self))
      fun w hw => htokens w (List.mem_cons_of_mem _ hw)

/-- After any session that begins with nothing stored, under any settings and whenever copies
expire, every entry of the database is well kept: its name is not empty and does not begin with an
underscore, its version is not empty and is its only key that begins with one, and the transforms
that it defines are well-formed. -/
theorem entries_wellKept (settings : Setup) (clock : Nat → Nat) (visits : List Visit)
    (htokens : ∀ v ∈ visits, ∃ bytes, bytes.length = 16 ∧ v.etag = versionToken bytes) :
    ∀ entry ∈ (sessionFromStart settings clock visits).2.state.databases,
      Store.WellKept entry.1 entry.2 := by
  refine wellKept_session settings clock visits (fun _ hm => nomatch hm) fun v hv => ?_
  obtain ⟨bytes, hlength, htoken⟩ := htokens v hv
  rw [htoken]
  exact versionToken_ne_empty hlength

/-- A visitor who stores a document with transforms, and one who lays over it what belongs to the
gateway. -/
def metadataVisits : List Visit :=
  [⟨shopRequest .put "\x7b\"_id\": 1, \"rts\": [], \"a\": 1\x7d", firstVersion,
      versionToken (List.replicate 16 0), .ok ()⟩,
    ⟨shopRequest .patch "\x7b\"_etag\": \"mine\", \"_b\": 2\x7d", firstVersion,
      versionToken (List.replicate 16 1), .ok ()⟩]

/-- The entry that two visitors leave. -/
theorem entries_wellKept_shop :
    let after := (sessionFromStart permissiveSettings (fun reading => reading) metadataVisits).2
    let databases := after.state.databases
    ∃ d, ("shop", d) ∈ databases ∧ Store.WellKept "shop" d := by
  intro after databases
  have htokens : ∀ v ∈ metadataVisits, ∃ bytes, bytes.length = 16 ∧
      v.etag = versionToken bytes := by
    intro v hv
    simp only [metadataVisits, List.mem_cons, List.not_mem_nil, or_false] at hv
    rcases hv with rfl | rfl
    · exact ⟨List.replicate 16 0, rfl, rfl⟩
    · exact ⟨List.replicate 16 1, rfl, rfl⟩
  have hstored : (databases.get? "shop").isSome = true := by decide +kernel
  obtain ⟨d, hd⟩ := Option.isSome_iff_exists.mp hstored
  have hmem := Keyed.mem_of_get? hd
  exact ⟨d, hmem, entries_wellKept _ _ metadataVisits htokens _ hmem⟩

end DocumentGateway.Gateway

import DocumentGateway.Gateway.Session
import DocumentGateway.Gateway.Token
import DocumentGateway.Proofs.Gateway.Conduct
import DocumentGateway.Proofs.Http.Header
import DocumentGateway.Proofs.Store.Database

/-!
# All or nothing

A request that is answered by itself either leaves the databases and all generations as they are, or
writes the one database that it addresses and raises its generation by one. Which of the two it did,
and which version it wrote, is what its response says. The effect of a request is followed along the
phases of the protocol, from the state in which it began.
-/

namespace DocumentGateway.Gateway

open DocumentGateway.Flow (Call Phase Program)

/-- Every character of a version token is a digit. -/
theorem exists_hexDigit_of_mem {bytes : Bytes} {c : Char}
    (h : c ∈ (versionToken bytes).toList) : ∃ n, n < 16 ∧ c = Text.hexDigit n := by
  rw [versionToken, String.toList_ofList] at h
  obtain ⟨b, _, hb⟩ := List.mem_flatMap.mp h
  have hlt : b.toNat < 256 := b.toNat_lt
  simp only [List.mem_cons, List.not_mem_nil, or_false] at hb
  rcases hb with rfl | rfl
  · exact ⟨_, by omega, rfl⟩
  · exact ⟨_, by omega, rfl⟩

/-- Every character of a version token may stand in a header. -/
theorem isTextChar_versionToken (bytes : Bytes) :
    (versionToken bytes).toList.all Http.isTextChar = true := by
  have hdigit : ∀ n < 16, Http.isTextChar (Text.hexDigit n) = true := by decide
  rw [List.all_eq_true]
  intro c hc
  obtain ⟨n, hn, rfl⟩ := exists_hexDigit_of_mem hc
  exact hdigit n hn

/-- A write under a fresh version leads from one state to the databases of another. -/
structure Wrote (db : String) (kind : Store.Write → Prop) (fresh : String) (s : State)
    (result : Store.WriteResult) (t : State) : Prop where
  success : result.status.isSuccess = true
  write : ∃ w, kind w ∧ (s.databases.upsert db w fresh).1 = result ∧
    (s.databases.upsert db w fresh).2 = t.databases

/-- What a request has made of a state when it stands at a phase. -/
def Effect (db : String) (kind : Store.Write → Prop) (fresh : String) (s : State) :
    Phase → State → Prop
  | .written result, t =>
    Wrote db kind fresh s result t ∧ ∀ name, t.cache.generation name = s.cache.generation name
  | .published result, t =>
    Wrote db kind fresh s result t ∧ ∀ name, t.cache.generation name =
      if db = name then s.cache.generation db + 1 else s.cache.generation name
  | _, t =>
    t.databases = s.databases ∧ ∀ name, t.cache.generation name = s.cache.generation name

variable {db : String} {kind : Store.Write → Prop} {fresh : String} {s t : State}

/-- Every move of the protocol has its effect. -/
theorem Effect.step {φ ψ : Phase} (h : Effect db kind fresh s φ t) {o : Occasion}
    (ho : o.etag = fresh) {c : Call}
    (hmove : Flow.Moves db kind φ c (State.answer o c t).1 ψ) :
    Effect db kind fresh s ψ (State.answer o c t).2 := by
  generalize ha : (State.answer o c t).1 = a at hmove
  cases hmove with
  | room | note | unread | absent | read => exact h
  | look => exact ⟨h.1, fun name => (Store.Cache.generation_get _ _ _ _).trans (h.2 name)⟩
  | share => exact ⟨h.1, fun name => (Store.Cache.generation_put _ _ _ _ _ _).trans (h.2 name)⟩
  | unwritten => cases ha
  | @refused w ofKind result failure =>
    have hresult : (Store.Database.upsert t.databases db w o.etag).1 = result := Except.ok.inj ha
    rw [← hresult] at failure
    exact ⟨(Store.Database.upsert_of_not_success failure).trans h.1, h.2⟩
  | @written w ofKind result success =>
    have hresult : (Store.Database.upsert t.databases db w o.etag).1 = result := Except.ok.inj ha
    rw [h.1, ho] at hresult
    refine ⟨⟨success, w, ofKind, hresult, ?_⟩, h.2⟩
    rw [← h.1, ← ho]
    rfl
  | forget result =>
    refine ⟨⟨h.1.success, h.1.write⟩, fun name => ?_⟩
    change (t.cache.invalidate db).generation name = _
    rw [Store.Cache.generation_invalidate, h.2 db, h.2 name]

/-- A program that obeys the protocol ends at a phase with its effect. -/
theorem Effect.run {α : Type} {fits : Phase → α → Prop} {p : Program α} {φ : Phase} (v : Visit)
    (clock : Nat → Nat) (c : Clocked) (hp : p.Obeys db kind fits φ)
    (h : Effect db kind v.etag s φ c.state) :
    ∃ ψ, fits ψ (p.run (v.answer clock) c).1 ∧
      Effect db kind v.etag s ψ (p.run (v.answer clock) c).2.state := by
  induction p generalizing φ c with
  | done value => exact ⟨φ, hp, h⟩
  | call call next ih =>
    obtain ⟨ψ, hmove, hrest⟩ := hp (v.answer clock call c).1
    exact ih _ (v.answer clock call c).2 hrest (h.step rfl hmove)

namespace Wrote

variable {result : Store.WriteResult} (h : Wrote db kind fresh s result t)

include h

/-- A write tells the fresh version. -/
theorem etag : result.etag = some fresh := by
  obtain ⟨w, _, hresult, _⟩ := h.write
  have hsuccess := h.success
  rw [← hresult] at hsuccess ⊢
  exact Store.Database.etag_upsert hsuccess

/-- A write stores the fresh version. -/
theorem version? (hkind : ∀ w, kind w → Keyed.Ordered w.content) :
    t.databases.version? db = some fresh := by
  obtain ⟨w, hw, hresult, hdatabases⟩ := h.write
  have hsuccess := h.success
  rw [← hresult] at hsuccess
  rw [← hdatabases]
  exact Store.Database.version?_upsert (hkind w hw) hsuccess

/-- A write leaves all other entries. -/
theorem get?_of_ne {name : String} (hname : name ≠ db) :
    t.databases.get? name = s.databases.get? name := by
  obtain ⟨w, _, _, hdatabases⟩ := h.write
  rw [← hdatabases]
  exact Store.Database.get?_upsert_of_ne w fresh (Ne.symm hname)

/-- A write changes the entry of its database, if it does not carry the fresh version already. -/
theorem get?_ne (hkind : ∀ w, kind w → Keyed.Ordered w.content)
    (hfresh : s.databases.version? db ≠ some fresh) :
    t.databases.get? db ≠ s.databases.get? db := by
  intro hsame
  refine hfresh ?_
  rw [← h.version? hkind, Store.Database.version?, Store.Database.version?, hsame]

end Wrote

/-- A request that is served ends at a phase that its response reports and that has its effect. -/
theorem exists_effect_serve (settings : Setup) (clock : Nat → Nat) (v : Visit) (s : Clocked) :
    ∃ ψ, Reports v.request ψ (v.serve settings clock s).1 ∧
      Effect (addressedDb v.request) (WrittenFor settings v.request) v.etag s.state ψ
        (v.serve settings clock s).2.state :=
  Effect.run v clock s (obeys_serve settings v.fresh v.request) ⟨rfl, fun _ => rfl⟩

/-- Serving a request either leaves the databases as they are, or is one write and tells so. -/
theorem serve_cases (settings : Setup) (clock : Nat → Nat) (v : Visit) (s : Clocked) :
    (¬(isWriting v.request = true ∧ (v.serve settings clock s).1.status.isSuccess = true) ∧
      (v.serve settings clock s).2.state.databases = s.state.databases) ∨
    (isWriting v.request = true ∧ (v.serve settings clock s).1.status.isSuccess = true ∧
      (v.serve settings clock s).1.headers.get? "etag" = Http.HeaderValue.ofText? v.etag ∧
      ∃ result, Wrote (addressedDb v.request) (WrittenFor settings v.request) v.etag s.state result
        (v.serve settings clock s).2.state) := by
  obtain ⟨ψ, hreports, heffect⟩ := exists_effect_serve settings clock v s
  cases ψ with
  | written result => exact hreports.elim
  | idle | noted | holding =>
    refine .inl ⟨?_, heffect.1⟩
    rintro ⟨hwriting, hsuccess⟩
    rw [hreports hwriting] at hsuccess
    cases hsuccess
  | published result =>
    obtain ⟨hwriting, hsuccess, hetag⟩ := hreports
    refine .inr ⟨hwriting, hsuccess, ?_, result, heffect.1⟩
    rw [hetag, heffect.1.etag]
    rfl

/-- A request answered by itself, in any state and whenever copies expire: if its method is one that
writes and its response is a success, the entry of the database that it addresses has changed and no
other, the entry carries the version that the response tells, and the generation of that database
has grown by one and no other; else all databases and generations are as before. That the entry has
changed presupposes that the token drawn for it is not the one that it carries. -/
theorem serve_all_or_nothing (settings : Setup) (clock : Nat → Nat) (visit : Visit)
    (bytes : Bytes) (s : Clocked) :
    let token := versionToken bytes
    let (response, after) := Visit.serve { visit with etag := token } settings clock s
    let db := addressedDb visit.request
    if isWriting visit.request ∧ response.status.isSuccess then
      (∀ name, name ≠ db → after.state.databases.get? name = s.state.databases.get? name) ∧
      (s.state.databases.version? db ≠ some token →
        after.state.databases.get? db ≠ s.state.databases.get? db) ∧
      (∃ value, response.headers.get? "etag" = some value ∧ value.text? = some token ∧
        after.state.databases.version? db = some token) ∧
      ∀ name, after.state.cache.generation name =
        if db = name then s.state.cache.generation db + 1 else s.state.cache.generation name
    else
      after.state.databases = s.state.databases ∧
      ∀ name, after.state.cache.generation name = s.state.cache.generation name := by
  intro token
  obtain ⟨ψ, hreports, heffect⟩ :=
    exists_effect_serve settings clock { visit with etag := token } s
  generalize Visit.serve { visit with etag := token } settings clock s = outcome
    at hreports heffect ⊢
  obtain ⟨response, after⟩ := outcome
  cases ψ with
  | written result => exact hreports.elim
  | idle | noted | holding =>
    have hnone : ¬(isWriting visit.request = true ∧ response.status.isSuccess = true) := by
      rintro ⟨hw, hs⟩
      rw [hreports hw] at hs
      cases hs
    simp only [hnone, if_false]
    exact heffect
  | published result =>
    obtain ⟨hwriting, hsuccess, hetag⟩ := hreports
    obtain ⟨hwrote, hgenerations⟩ := heffect
    have hordered : ∀ w, WrittenFor settings visit.request w → Keyed.Ordered w.content :=
      fun w hw => hw.ordered
    obtain ⟨value, hvalue, htext⟩ := Http.exists_value_of_text (isTextChar_versionToken bytes)
    have hheader : response.headers.get? "etag" = some value := by
      rw [hetag, hwrote.etag, Option.bind_some]
      exact hvalue
    simp only [hwriting, hsuccess, and_self, if_true]
    exact ⟨fun name => hwrote.get?_of_ne, hwrote.get?_ne hordered,
      ⟨value, hheader, htext, hwrote.version? hordered⟩, hgenerations⟩

/-- The first write to a database. -/
theorem serve_all_or_nothing_first :
    let token := versionToken (List.replicate 16 0)
    let (response, after) := Visit.serve ⟨putRequest "/shop" [], ⟨[], rfl⟩, token, .ok ()⟩
      permissiveSettings (fun reading => reading) ⟨.initial true 60, 0⟩
    (∀ name, name ≠ "shop" → after.state.databases.get? name = none) ∧
    after.state.databases.get? "shop" ≠ none ∧
    (∃ value, response.headers.get? "etag" = some value ∧ value.text? = some token ∧
      after.state.databases.version? "shop" = some token) ∧
    ∀ name, after.state.cache.generation name = if "shop" = name then 1 else 0 := by
  have hbranch := serve_all_or_nothing permissiveSettings (fun reading => reading)
    ⟨putRequest "/shop" [], ⟨[], rfl⟩, versionToken (List.replicate 16 0), .ok ()⟩
    (List.replicate 16 0) ⟨.initial true 60, 0⟩
  have hdb : addressedDb (putRequest "/shop" []) = "shop" := by decide
  have hsuccess : isWriting (putRequest "/shop" []) ∧
      (Visit.serve ⟨putRequest "/shop" [], ⟨[], rfl⟩, versionToken (List.replicate 16 0), .ok ()⟩
        permissiveSettings (fun reading => reading) ⟨.initial true 60, 0⟩).1.status.isSuccess := by
    decide +kernel
  dsimp only at hbranch ⊢
  generalize Visit.serve _ _ _ _ = outcome at hbranch hsuccess ⊢
  simp only [hsuccess, hdb, and_self, if_true] at hbranch
  obtain ⟨hothers, hchanged, hversion, hgenerations⟩ := hbranch
  refine ⟨hothers, hchanged ?_, hversion, hgenerations⟩
  intro hsame
  cases hsame

end DocumentGateway.Gateway

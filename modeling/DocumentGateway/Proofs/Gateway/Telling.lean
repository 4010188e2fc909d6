import DocumentGateway.Proofs.Gateway.AllOrNothing
import DocumentGateway.Proofs.Gateway.Ending
import DocumentGateway.Proofs.Gateway.Transparency

/-!
# Where the version in a response comes from

A response that tells a version of a database has it from the properties that were found, or from
the answer to a write that was refused for its version. A request that is answered by itself finds
and is answered nothing but what is stored, in the cache and past it, so what it tells is the
version of the database as it was before.
-/

namespace DocumentGateway.Gateway

open DocumentGateway.Flow (Call Found Phase Program Reply Result)

/-- A response tells a version: it is a success in answer to GET, or a conflict. -/
def Tells (r : Http.Request) (response : Http.Response) : Prop :=
  r.head.method.verb = .get ∧ response.status.isSuccess = true ∨ response.status = .conflict

/-- What a header tells was found with some properties, or was the answer to a write that met
another version. -/
inductive Sourced (db : String) (heard : List Reply) : Option Http.HeaderValue → Prop where
  | found {props : Document} (found : Found db heard props) :
      Sourced db heard ((props.text? etagField).bind Http.HeaderValue.ofText?)
  | conflict {w : Store.Write} {answer : Store.WriteResult}
      (asked : (⟨.upsert db w, .ok answer⟩ : Reply) ∈ heard)
      (conflict : answer.status = .conflict) :
      Sourced db heard (answer.etag.bind Http.HeaderValue.ofText?)

/-- A request that ends with a response that tells a version has it from what it has heard. -/
theorem Ending.sourced {r : Http.Request} {heard : List Reply} {result : Result}
    (h : Ending (addressedDb r) r.head.method.verb heard result)
    (htells : Tells r (responseOf result)) :
    Sourced (addressedDb r) heard ((responseOf result).headers.get? "etag") := by
  cases h with
  | @failed p e unended untouched =>
    have hresponse : (responseOf ⟨.error e, p⟩).status = .internalServerError :=
      Http.Exchange.status_conclude unended _ _
    rw [Tells, hresponse] at htells
    rcases htells with ⟨_, hsuccess⟩ | hconflict
    · cases hsuccess
    · cases hconflict
  | refused _ failure own =>
    rcases htells with ⟨_, hsuccess⟩ | hconflict
    · cases failure.symm.trans hsuccess
    · exact absurd hconflict own
  | @rejected p w answer asked failure _ status etag =>
    have hconflict : answer.status = .conflict := by
      rcases htells with ⟨_, hsuccess⟩ | hconflict
      · cases failure.symm.trans ((congrArg _ status).symm.trans hsuccess)
      · exact status.symm.trans hconflict
    change Sourced _ _ (p.exchange.response.headers.get? "etag")
    rw [etag]
    exact .conflict asked hconflict
  | written _ writing _ success =>
    rcases htells with ⟨hreading, _⟩ | hconflict
    · rw [hreading] at writing
      simp at writing
    · cases (congrArg Http.Status.isSuccess hconflict).symm.trans success
  | @shown p props found _ _ _ etag =>
    change Sourced _ _ (p.exchange.response.headers.get? "etag")
    rw [etag]
    exact .found found

/-- Every request whose response tells a version has it from what it has heard. -/
theorem ends_serve (settings : Setup) (fresh : Http.HeaderValue) (r : Http.Request) :
    (serve settings fresh r).Ends (fun heard response => Tells r response →
      Sourced (addressedDb r) heard (response.headers.get? "etag")) [] := by
  have hresponse : (if hasPath r.head.uri then respond settings r else .done unaddressed).Ends
      (fun heard response => Tells r response →
        Sourced (addressedDb r) heard (response.headers.get? "etag")) [] := by
    split
    · refine (ends_chain _ _ settings r).bind fun more result _ hending => ?_
      exact fun htells => hending.sourced htells
    · intro htells
      rcases htells with ⟨_, hsuccess⟩ | hconflict
      · cases hsuccess
      · cases hconflict
  refine hresponse.bind fun more response _ h htells => ?_
  have hetag : (dressed r fresh response).headers.get? "etag" = response.headers.get? "etag" :=
    Keyed.get?_insert_of_ne _ _ (by decide)
  rw [hetag]
  exact h htells

/-- As long as a request answered by itself has not written, the databases are as before and the
cache is in step with them; and so is what the request has at hand. -/
def Undisturbed (db : String) (s : State) : Phase → State → Prop
  | .idle, t | .noted _, t => t.databases = s.databases ∧ t.Coherent
  | .holding _ props, t =>
    (t.databases = s.databases ∧ t.Coherent) ∧ s.databases.get? db = some props
  | .written _, _ | .published _, _ => True

/-- An answer is made from what was stored at first. -/
def Honest (fresh : String) (s : State) : (c : Call) → c.Answer → Prop
  | .cached name, answer => ∀ props, answer = some props → s.databases.get? name = some props
  | .load name, answer => answer = .ok (s.databases.get? name)
  | .upsert name w, answer => answer = .ok (s.databases.upsert name w fresh).1
  | _, _ => True

section

variable {db : String} {kind : Store.Write → Prop} {s t : State}

/-- Every move of the protocol is answered honestly, and disturbs nothing before a write. -/
theorem Undisturbed.step {φ ψ : Phase} (h : Undisturbed db s φ t) {o : Occasion} {c : Call}
    (hmove : Flow.Moves db kind φ c (State.answer o c t).1 ψ) :
    Honest o.etag s c (State.answer o c t).1 ∧ Undisturbed db s ψ (State.answer o c t).2 := by
  generalize ha : (State.answer o c t).1 = a at hmove
  cases hmove with
  | room | note => exact ⟨trivial, h⟩
  | look answer =>
    subst ha
    obtain ⟨hsame, hcoherent⟩ := h
    refine ⟨fun props hprops => ?_, hsame, hcoherent.lookUp db o.now⟩
    obtain ⟨copy, hcopy, rfl⟩ := Store.Cache.exists_copy_of_get hprops
    rw [← hsame]
    exact hcoherent db copy hcopy
  | unread => cases ha
  | absent generation =>
    obtain ⟨hsame, hcoherent⟩ := h
    have hread : Except.ok (t.databases.get? db) = Except.ok none := ha
    refine ⟨?_, hsame, hcoherent⟩
    rw [hsame] at hread
    exact hread.symm
  | read generation props =>
    obtain ⟨hsame, hcoherent⟩ := h
    have hread : Except.ok (t.databases.get? db) = Except.ok (some props) := ha
    rw [hsame] at hread
    exact ⟨hread.symm, ⟨hsame, hcoherent⟩, Except.ok.inj hread⟩
  | share generation props answer =>
    obtain ⟨⟨hsame, hcoherent⟩, hprops⟩ := h
    refine ⟨trivial, hsame, hcoherent.remember ?_ _ _⟩
    rwa [hsame]
  | unwritten => cases ha
  | @refused w ofKind result failure =>
    obtain ⟨hsame, hcoherent⟩ := h
    have hresult : (t.databases.upsert db w o.etag).1 = result := Except.ok.inj ha
    rw [← hresult] at failure
    have hdatabases := Store.Database.upsert_of_not_success failure
    refine ⟨?_, hdatabases.trans hsame, ?_⟩
    · rw [hsame] at hresult
      exact congrArg Except.ok hresult.symm
    · intro name copy hcopy
      change Keyed.get? (t.databases.upsert db w o.etag).2 name = _
      rw [hdatabases]
      exact hcoherent name copy hcopy
  | @written w ofKind result success =>
    obtain ⟨hsame, _⟩ := h
    have hresult : (t.databases.upsert db w o.etag).1 = result := Except.ok.inj ha
    rw [hsame] at hresult
    exact ⟨congrArg Except.ok hresult.symm, trivial⟩
  | forget => exact ⟨trivial, trivial⟩

/-- All answers to a program that obeys the protocol are honest. -/
theorem Undisturbed.run {α : Type} {fits : Phase → α → Prop} {p : Program α} {φ : Phase}
    (v : Visit) (clock : Nat → Nat) (c : Clocked) (hp : p.Obeys db kind fits φ)
    (h : Undisturbed db s φ c.state) :
    ∀ reply ∈ p.record (v.answer clock) c, Honest v.etag s reply.call reply.answer := by
  induction p generalizing φ c with
  | done value => exact fun _ hm => nomatch hm
  | call call next ih =>
    obtain ⟨ψ, hmove, hrest⟩ := hp (v.answer clock call c).1
    obtain ⟨hhonest, hafter⟩ := h.step (o := v.occasion (clock c.readings)) hmove
    intro reply hreply
    rcases List.mem_cons.mp hreply with rfl | hlater
    · exact hhonest
    · exact ih _ (v.answer clock call c).2 hrest hafter reply hlater

/-- What honest answers are the source of is the version that is stored. -/
theorem Sourced.eq_version {fresh : String} {heard : List Reply}
    {header : Option Http.HeaderValue} (h : Sourced db heard header)
    (hhonest : ∀ reply ∈ heard, Honest fresh s reply.call reply.answer) :
    header = (s.databases.version? db).bind Http.HeaderValue.ofText? := by
  cases h with
  | @found props found =>
    have hstored : s.databases.get? db = some props := by
      rcases found with hcached | hloaded
      · exact hhonest _ hcached props rfl
      · exact (Except.ok.inj (hhonest _ hloaded)).symm
    rw [Store.Database.version?, hstored, Option.bind_some]
  | @conflict w answer asked conflict =>
    have hanswer : answer = (s.databases.upsert db w fresh).1 := Except.ok.inj (hhonest _ asked)
    have hu := Store.Database.upserted s.databases db w fresh
    generalize s.databases.upsert db w fresh = outcome at hanswer hu
    subst hanswer
    cases hu with
    | missing | created | replaced | merged => cases conflict
    | conflict found => rw [Store.Database.version?, found, Option.bind_some]

/-- In a coherent state and whenever copies expire, the version that a response tells of the
database addressed is the one that is stored. -/
theorem etag_of_tells (settings : Setup) (clock : Nat → Nat) (v : Visit) {s : Clocked}
    (hcoherent : s.state.Coherent)
    (htells : Tells v.request (v.serve settings clock s).1) :
    (v.serve settings clock s).1.headers.get? "etag" =
      (s.state.databases.version? (addressedDb v.request)).bind Http.HeaderValue.ofText? := by
  have hsourced := (ends_serve settings v.fresh v.request).run (v.answer clock) s htells
  exact hsourced.eq_version (Undisturbed.run v clock s
    (obeys_serve settings v.fresh v.request) ⟨rfl, hcoherent⟩)

end

end DocumentGateway.Gateway

import DocumentGateway.Gateway.Session
import DocumentGateway.Proofs.Gateway.Conduct

/-!
# Refused requests

Whether a request may go on is decided before its body is looked at and before anything is asked of
the cache or the database. So a request that is refused is answered alike in every state, leaves the
state as it is and keeps its body; and a request that goes on is one that its caller may make.
-/

namespace DocumentGateway.Access

/-- A request is refused with a status: its credentials cannot be read or do not verify, or no
permission grants it to its caller. Only a caller who is known is told that. -/
inductive Rules.Refuses (r : Rules) (headers : Http.Headers) (method : Http.Method)
    (path : String) : Http.Status → Prop where
  | unreadable {e : Credentials.Unreadable} (offered : Credentials.ofHeaders headers = .error e) :
      Refuses r headers method path .unauthorized
  | unverified {c : Credentials} (offered : Credentials.ofHeaders headers = .ok (some c))
      (unknown : verify r.users c = none) : Refuses r headers method path .unauthorized
  | anonymous (offered : Credentials.ofHeaders headers = .ok none)
      (denied : isAllowed r.permissions none method path = false) :
      Refuses r headers method path .unauthorized
  | known {c : Credentials} {account : Account}
      (offered : Credentials.ofHeaders headers = .ok (some c))
      (verified : verify r.users c = some account)
      (denied : isAllowed r.permissions (some account) method path = false) :
      Refuses r headers method path .forbidden

/-- The verdict on a request that is refused. -/
theorem Rules.Refuses.judge {r : Rules} {headers : Http.Headers} {method : Http.Method}
    {path : String} {status : Http.Status} (h : r.Refuses headers method path status) :
    r.judge headers method path = .unauthenticated ∧ status = .unauthorized ∨
      r.judge headers method path = .forbidden ∧ status = .forbidden := by
  cases h with
  | unreadable offered => exact .inl ⟨by simp [Rules.judge, offered], rfl⟩
  | unverified offered unknown => exact .inl ⟨by simp [Rules.judge, offered, unknown], rfl⟩
  | anonymous offered denied =>
    exact .inl ⟨by simp [Rules.judge, Rules.judgeCaller, offered, denied], rfl⟩
  | known offered verified denied =>
    exact .inr ⟨by simp [Rules.judge, Rules.judgeCaller, offered, verified, denied], rfl⟩

/-- Every request is admitted or refused. -/
theorem Rules.judge_cases (r : Rules) (headers : Http.Headers) (method : Http.Method)
    (path : String) :
    (∃ caller, r.judge headers method path = .admitted caller) ∨
      ∃ status, r.Refuses headers method path status := by
  cases hoffered : Credentials.ofHeaders headers with
  | error e => exact .inr ⟨_, .unreadable hoffered⟩
  | ok offered =>
    cases offered with
    | none =>
      cases hallowed : isAllowed r.permissions none method path with
      | true => exact .inl ⟨none, by simp [judge, judgeCaller, hoffered, hallowed]⟩
      | false => exact .inr ⟨_, .anonymous hoffered hallowed⟩
    | some c =>
      cases hverified : verify r.users c with
      | none => exact .inr ⟨_, .unverified hoffered hverified⟩
      | some account =>
        cases hallowed : isAllowed r.permissions (some account) method path with
        | true =>
          exact .inl ⟨some account, by simp [judge, judgeCaller, hoffered, hverified, hallowed]⟩
        | false => exact .inr ⟨_, .known hoffered hverified hallowed⟩

/-- The verdict that asks for credentials is that on a request refused with 401. -/
theorem Rules.judge_eq_unauthenticated_iff {r : Rules} {headers : Http.Headers}
    {method : Http.Method} {path : String} :
    r.judge headers method path = .unauthenticated ↔
      r.Refuses headers method path .unauthorized := by
  constructor
  · intro h
    rcases r.judge_cases headers method path with ⟨caller, hadmitted⟩ | ⟨status, hrefuses⟩
    · rw [h] at hadmitted
      cases hadmitted
    · rcases hrefuses.judge with ⟨-, rfl⟩ | ⟨hforbidden, -⟩
      · exact hrefuses
      · rw [h] at hforbidden
        cases hforbidden
  · intro h
    rcases h.judge with ⟨hverdict, -⟩ | ⟨-, hstatus⟩
    · exact hverdict
    · exact absurd hstatus (by decide)

end DocumentGateway.Access

namespace DocumentGateway.Flow

variable {rules : Access.Rules} {p : Passage}

@[simp] theorem body_challenged (rules : Access.Rules) (x : Http.Exchange) :
    (challenged rules x).body = x.body := by
  unfold challenged
  split
  · rfl
  · exact Http.Exchange.body_amend _ _

@[simp] theorem ended_challenged (rules : Access.Rules) (x : Http.Exchange) :
    (challenged rules x).ended = x.ended := by
  unfold challenged
  split
  · rfl
  · exact Http.Exchange.ended_amend _ _

/-- A request that is refused ends alike whatever stage comes next: with the status of the refusal
and with its body where it was. -/
theorem admission_of_refuses {status : Http.Status} (hopen : p.exchange.ended = false)
    (h : rules.Refuses p.exchange.request.headers p.exchange.request.method p.context.path status) :
    ∃ refused : Passage, (∀ next, admission rules next p = .done ⟨.ok (), refused⟩) ∧
      refused.exchange.response.status = status ∧ refused.exchange.body = p.exchange.body := by
  rcases h.judge with ⟨hverdict, rfl⟩ | ⟨hverdict, rfl⟩
  · refine ⟨⟨(challenged rules p.exchange).conclude .unauthorized "Unauthorized", p.context⟩,
      fun next => ?_, ?_, ?_⟩
    · simp only [admission, verdict, hverdict]
      rfl
    · exact Http.Exchange.status_conclude ((ended_challenged _ _).trans hopen) _ _
    · exact (Http.Exchange.body_conclude _ _ _).trans (body_challenged _ _)
  · refine ⟨⟨p.exchange.conclude .forbidden "Forbidden", p.context⟩, fun next => ?_, ?_, ?_⟩
    · simp only [admission, verdict, hverdict]
      rfl
    · exact Http.Exchange.status_conclude hopen _ _
    · exact Http.Exchange.body_conclude _ _ _

/-- What goes on after admission is the request as it was, for a caller who may make it. -/
theorem isAllowed_of_handOver {reached : Passage} {resume : Result → Program Result}
    (h : admission rules (Stage.outside .next) p = .call (.handOver .next reached) resume) :
    (∀ next, admission rules next p = next reached) ∧
      Access.isAllowed rules.permissions reached.context.account p.exchange.request.method
        p.context.path = true := by
  unfold admission at h
  split at h
  · rename_i caller hverdict
    cases h
    refine ⟨fun next => ?_, Access.Rules.isAllowed_of_judge hverdict⟩
    simp only [admission, hverdict]
  · cases h
  · cases h

/-- What is not refused goes on. -/
theorem exists_handOver
    (h : ∀ status, ¬rules.Refuses p.exchange.request.headers p.exchange.request.method
      p.context.path status) :
    ∃ reached resume,
      admission rules (Stage.outside .next) p = .call (.handOver .next reached) resume := by
  rcases rules.judge_cases p.exchange.request.headers p.exchange.request.method p.context.path with
    ⟨caller, hverdict⟩ | ⟨status, hrefuses⟩
  · refine ⟨{ p with context := { p.context with account := caller } }, .done, ?_⟩
    simp only [admission, verdict, hverdict]
    rfl
  · exact absurd hrefuses (h status)

end DocumentGateway.Flow

namespace DocumentGateway.Gateway

open DocumentGateway.Flow (Passage Stage)

/-- Under any settings, a request that the rules refuse, its target having a path, is answered with
the status of its refusal, alike in any two states and at any time. It leaves the state as it is,
without even reading the clock, and its body is not taken. All requests that are not refused go on
to the stages after admission, and whatever goes on to them has an account, or is anonymous, such
that the rules allow its method on its path. -/
theorem refusal_without_effect (settings : Setup) (r : Http.Request) :
    let rules := settings.security.rules
    let path := Flow.joinPath (Flow.segments r.head.uri.path)
    let reading := bodyReading settings
    let begun := passageOf settings r
    (∀ status, hasPath r.head.uri = true →
      rules.Refuses r.head.headers r.head.method path status →
      (∀ (v : Visit) (clock clock' : Nat → Nat) (s t : Clocked), v.request = r →
        (v.serve settings clock s).1 = (v.serve settings clock' t).1 ∧
        (v.serve settings clock s).1.status = status ∧
        (v.serve settings clock s).2 = s) ∧
      ∃ refused : Passage, Flow.chain rules reading begun = .done ⟨.ok (), refused⟩ ∧
        refused.exchange.body = some r.body) ∧
    ((∀ status, ¬rules.Refuses r.head.headers r.head.method path status) →
      ∃ reached resume, Flow.admission rules (Stage.outside .next) begun =
        .call (.handOver .next reached) resume) ∧
    ∀ (reached : Passage) resume,
      Flow.admission rules (Stage.outside .next) begun = .call (.handOver .next reached) resume →
        Flow.chain rules reading begun = Flow.afterAdmission reading reached ∧
        Access.isAllowed rules.permissions reached.context.account r.head.method path = true := by
  intro rules path reading begun
  refine ⟨fun status hpath hrefuses => ?_, fun hnone => Flow.exists_handOver hnone,
    fun reached resume hreached => ?_⟩
  · obtain ⟨refused, hrefused, hstatus, hbody⟩ :=
      Flow.admission_of_refuses (p := begun) rfl hrefuses
    have hchain : Flow.chain rules reading begun = .done ⟨.ok (), refused⟩ := hrefused _
    refine ⟨fun v clock clock' s t hrequest => ?_, refused, hchain, hbody⟩
    have hserve : serve settings v.fresh r =
        .done (dressed r v.fresh refused.exchange.response) := by
      rw [serve, if_pos hpath, respond, hchain]
      rfl
    subst hrequest
    simp only [Visit.serve, hserve, Flow.Program.run_done]
    exact ⟨trivial, hstatus, trivial⟩
  · obtain ⟨hnext, hallowed⟩ := Flow.isAllowed_of_handOver hreached
    exact ⟨hnext _, hallowed⟩

/-- A database that nobody may create, and the same one where everybody may. -/
theorem refusal_without_effect_shop :
    let visit : Visit := ⟨putRequest "/shop" [], firstVersion, "first", .ok ()⟩
    let begun := passageOf permissiveSettings (putRequest "/shop" [])
    (∀ s : Clocked, (visit.serve default (fun reading => reading) s).1.status = .unauthorized ∧
      (visit.serve default (fun reading => reading) s).2 = s) ∧
    ∃ reached resume,
      Flow.admission permissiveSettings.security.rules (Stage.outside .next) begun =
        .call (.handOver .next reached) resume ∧
      Access.isAllowed permissiveSettings.security.rules.permissions reached.context.account
        { token := "PUT" } "/shop" = true := by
  intro visit begun
  constructor
  · have hrefused := (refusal_without_effect default (putRequest "/shop" [])).1 .unauthorized
      (by decide) (.anonymous rfl (by decide +kernel))
    exact fun s => (hrefused.1 visit (fun reading => reading) (fun reading => reading) s s rfl).2
  · obtain ⟨_, hgoes, hallowed⟩ := refusal_without_effect permissiveSettings (putRequest "/shop" [])
    have hpermitted : ∀ status, ¬permissiveSettings.security.rules.Refuses
        (putRequest "/shop" []).head.headers (putRequest "/shop" []).head.method
        (Flow.joinPath (Flow.segments (putRequest "/shop" []).head.uri.path)) status := by
      intro status hrefuses
      have hadmitted : permissiveSettings.security.rules.judge [] { token := "PUT" } "/shop" =
          .admitted none := by
        decide +kernel
      rcases hrefuses.judge with ⟨hverdict, -⟩ | ⟨hverdict, -⟩
      · exact absurd (hadmitted.symm.trans hverdict) (by simp)
      · exact absurd (hadmitted.symm.trans hverdict) (by simp)
    obtain ⟨reached, resume, hreached⟩ := hgoes hpermitted
    exact ⟨reached, resume, hreached, (hallowed reached resume hreached).2⟩

end DocumentGateway.Gateway

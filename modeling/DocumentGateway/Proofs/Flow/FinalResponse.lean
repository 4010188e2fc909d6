import DocumentGateway.Flow.Hal

/-!
# The response of an exchange that has ended

The stages of the chain do eight things to an exchange. Six of them write to it or end it, and the
other two take the body. Whatever is done to an exchange that has ended leaves its response as it
is, and whatever is done to any exchange hands its body out at most once.
-/

namespace DocumentGateway.Flow

open Http (Exchange)

/-- What is done to an exchange. -/
inductive Operation where
  | setStatus (status : Http.Status)
  | setHeader (name : String) (value : Http.HeaderValue)
  | send (type : Http.HeaderValue) (body : Bytes)
  | finish
  | conclude (status : Http.Status) (message : String)
  | sendWarnings (context : Context) (status : Http.Status)
  | takeBody
  | takeRequest

namespace Operation

/-- Do it: what is handed out of the body, and the exchange afterwards. -/
def perform (x : Exchange) : Operation → Option Http.Body × Exchange
  | setStatus status => (none, x.setStatus status)
  | setHeader name value => (none, x.setHeader name value)
  | send type body => (none, x.sendAs type body)
  | finish => (none, x.finish)
  | conclude status message => (none, x.conclude status message)
  | sendWarnings context status => (none, Flow.sendWarnings x context status)
  | takeBody => x.takeBody
  | takeRequest => (x.takeRequest.1.map Http.Request.body, x.takeRequest.2)

/-- The exchange after some operations. -/
def after (x : Exchange) (ops : List Operation) : Exchange :=
  ops.foldl (fun x op => (op.perform x).2) x

/-- The bodies that some operations hand out, in order. -/
def handedOut (x : Exchange) : List Operation → List Http.Body
  | [] => []
  | op :: rest => (op.perform x).1.toList ++ handedOut (op.perform x).2 rest

/-- The operation ends the exchange. -/
def ends : Operation → Bool
  | finish | conclude _ _ => true
  | _ => false

/-- The operation takes the body, alone or with the request. -/
def takes : Operation → Bool
  | takeBody | takeRequest => true
  | _ => false

variable {x : Exchange} {op : Operation}

theorem after_cons (x : Exchange) (op : Operation) (ops : List Operation) :
    after x (op :: ops) = after (op.perform x).2 ops := rfl

theorem after_append (x : Exchange) (ops later : List Operation) :
    after x (ops ++ later) = after (after x ops) later := List.foldl_append

/-- An exchange has ended after an operation if it had ended or the operation ends it. -/
theorem ended_perform (x : Exchange) (op : Operation) :
    (op.perform x).2.ended = (x.ended || op.ends) := by
  cases op with
  | finish => exact (Bool.or_true _).symm
  | conclude status message => exact (Bool.or_true _).symm
  | setStatus status => simp [perform, ends, Exchange.setStatus]
  | setHeader name value => simp [perform, ends, Exchange.setHeader]
  | send type body => simp [perform, ends, Exchange.sendAs]
  | sendWarnings context status =>
    simp [perform, ends, Flow.sendWarnings, Exchange.setStatus, Exchange.send, Exchange.sendAs]
  | takeBody => exact (Bool.or_false _).symm
  | takeRequest => exact (Bool.or_false _).symm

/-- No operation changes the response of an exchange that has ended. -/
theorem response_perform (h : x.ended = true) (op : Operation) :
    (op.perform x).2.response = x.response := by
  cases op <;>
    simp [perform, Flow.sendWarnings, Exchange.conclude, Exchange.finish, Exchange.setStatus,
      Exchange.setHeader, Exchange.send, Exchange.sendAs, Exchange.amend_of_ended h,
      Exchange.takeBody, Exchange.takeRequest]

/-- An operation that takes the body hands it out and leaves none. -/
theorem perform_of_takes (h : op.takes = true) (x : Exchange) :
    (op.perform x).1 = x.body ∧ (op.perform x).2.body = none := by
  cases op <;> cases h
  · exact ⟨rfl, rfl⟩
  · exact ⟨by cases hbody : x.body <;> simp [perform, Exchange.takeRequest, hbody], rfl⟩

/-- Any other hands nothing out and leaves the body. -/
theorem perform_of_not_takes (h : op.takes = false) (x : Exchange) :
    (op.perform x).1 = none ∧ (op.perform x).2.body = x.body := by
  cases op <;> cases h <;>
    simp [perform, Flow.sendWarnings, Exchange.conclude, Exchange.finish, Exchange.setStatus,
      Exchange.setHeader, Exchange.send, Exchange.sendAs]

/-- An exchange has ended after operations if it had ended or one of them ends it. -/
theorem ended_after (x : Exchange) (ops : List Operation) :
    (after x ops).ended = (x.ended || ops.any ends) := by
  induction ops generalizing x with
  | nil => exact (Bool.or_false _).symm
  | cons op rest ih => rw [after_cons, ih, ended_perform, List.any_cons, Bool.or_assoc]

/-- No operations change the response of an exchange that has ended. -/
theorem response_after (h : x.ended = true) (ops : List Operation) :
    (after x ops).response = x.response := by
  induction ops generalizing x with
  | nil => rfl
  | cons op rest ih =>
    have hended : (op.perform x).2.ended = true := by rw [ended_perform, h, Bool.true_or]
    rw [after_cons, ih hended, response_perform h]

/-- What is handed out is the body that was there, if any of the operations takes it. -/
theorem handedOut_eq (x : Exchange) (ops : List Operation) :
    handedOut x ops = if ops.any takes then x.body.toList else [] := by
  induction ops generalizing x with
  | nil => rfl
  | cons op rest ih =>
    rw [handedOut, ih, List.any_cons]
    cases htakes : op.takes with
    | true =>
      obtain ⟨hgiven, hleft⟩ := perform_of_takes htakes x
      simp [hgiven, hleft]
    | false =>
      obtain ⟨hgiven, hleft⟩ := perform_of_not_takes htakes x
      simp [hgiven, hleft]

end Operation

open Operation

/-- Whatever is done to an exchange, from the first operation that ends it on the response is the
one at that moment and the exchange stays ended; an exchange ends with a refusal or if it is ended
outright, and in no other way. In the whole course, before and after the end, the body is handed out
at most once. -/
theorem ended_response_frozen (x : Exchange) (ops : List Operation) :
    ((after x ops).ended = true ↔ x.ended = true ∨ ∃ op ∈ ops, op.ends = true) ∧
      ((after x ops).ended = true → ∀ later, (after x (ops ++ later)).ended = true ∧
        (after x (ops ++ later)).response = (after x ops).response) ∧
      (handedOut x ops).length ≤ 1 ∧
      ∀ body, body ∈ handedOut x ops ↔ x.body = some body ∧ ∃ op ∈ ops, op.takes = true := by
  refine ⟨?_, fun h later => ?_, ?_, fun body => ?_⟩
  · rw [ended_after, Bool.or_eq_true, List.any_eq_true]
  · rw [after_append, ended_after, h]
    exact ⟨Bool.true_or _, response_after h later⟩
  · rw [handedOut_eq]
    split
    · cases x.body <;> simp
    · exact Nat.zero_le 1
  · rw [handedOut_eq, ← List.any_eq_true]
    cases ops.any takes <;> simp

/-- A refusal is final: what a later stage sends is dropped, and the body that it takes is the only
one. -/
theorem ended_response_frozen_refused :
    let x := Exchange.ofRequest ⟨⟨.get, ⟨none, none, "/shop", none⟩, []⟩, .ofBytes [1]⟩
    let refusal := [Operation.conclude .notFound "db does not exist"]
    let later := [.setStatus .ok, .send Http.MediaType.json.value [2], .takeRequest, .takeBody]
    (after x refusal).ended = true ∧
      (after x (refusal ++ later)).response = (after x refusal).response ∧
      (handedOut x (refusal ++ later)).length = 1 := by
  intro x refusal later
  obtain ⟨hended, hfrozen, -⟩ := ended_response_frozen x refusal
  obtain ⟨-, -, hatMost, hbody⟩ := ended_response_frozen x (refusal ++ later)
  have h : (after x refusal).ended = true := hended.mpr (.inr ⟨_, List.mem_singleton_self _, rfl⟩)
  refine ⟨h, (hfrozen h later).2, Nat.le_antisymm hatMost ?_⟩
  exact List.length_pos_of_mem
    ((hbody (.ofBytes [1])).mpr ⟨rfl, .takeRequest, by simp [later], rfl⟩)

end DocumentGateway.Flow

import DocumentGateway.Http.Exchange

/-!
# Requests to the gateway, and what a refusal leaves

Ending an exchange sets its status while the response is open, and never touches the request.
-/

namespace DocumentGateway.Http

/-- The method PUT. -/
def Method.put : Method := { token := "PUT" }

/-- The method PATCH. -/
def Method.patch : Method := { token := "PATCH" }

/-- A request that says its body is JSON. -/
def Request.ofJson (method : Method) (path : String) (body : Body) : Request :=
  ⟨⟨method, ⟨none, none, path, none⟩, [⟨{ text := "content-type" }, MediaType.json.value⟩]⟩, body⟩

/-- A request under another content type. -/
def Request.labelled (r : Request) (type : HeaderValue) : Request :=
  ⟨{ r.head with headers := r.head.headers.map fun header => ⟨header.name, type⟩ }, r.body⟩

namespace Exchange

variable {x : Exchange}

/-- While the response is open, a refusal sets its status and sends its message. -/
theorem response_conclude (h : x.ended = false) (status : Status) (message : String) :
    (x.conclude status message).response =
      ⟨status, x.response.headers.insert "content-type" MediaType.text.value,
        some (Text.Utf8.encode message)⟩ := by
  simp [conclude, setStatus, send, sendAs, amend, finish, h]

theorem status_conclude (h : x.ended = false) (status : Status) (message : String) :
    (x.conclude status message).response.status = status := by
  rw [response_conclude h]

theorem sent_conclude (h : x.ended = false) (status : Status) (message : String) :
    (x.conclude status message).response.body = some (Text.Utf8.encode message) := by
  rw [response_conclude h]

/-- A refusal leaves all headers but the type of its message. -/
theorem get?_conclude (x : Exchange) (status : Status) (message : String) {name : String}
    (h : name ≠ "content-type") :
    (x.conclude status message).response.headers.get? name = x.response.headers.get? name := by
  cases hended : x.ended with
  | true => simp [conclude, setStatus, send, sendAs, amend, finish, hended]
  | false =>
    simp [conclude, setStatus, send, sendAs, amend, finish, hended,
      Keyed.get?_insert_of_ne _ _ (Ne.symm h)]

/-- A refusal leaves the body where it is. -/
@[simp] theorem body_conclude (x : Exchange) (status : Status) (message : String) :
    (x.conclude status message).body = x.body := by
  simp [conclude, setStatus, send, sendAs, finish]

end Exchange

end DocumentGateway.Http

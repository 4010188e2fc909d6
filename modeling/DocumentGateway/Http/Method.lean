import DocumentGateway.Text.Bytes

/-!
# Request methods

A method is a token and its case counts. The gateway tells six of them apart.
-/

namespace DocumentGateway.Http

/-- A request method. -/
structure Method where
  /-- The method's name. -/
  token : String
  /-- The name is a token. -/
  isToken : Text.isToken token = true := by decide
  deriving DecidableEq

namespace Method

/-- The method with a name, if the name is a token. -/
def ofText? (s : String) : Option Method := if h : Text.isToken s then some ⟨s, h⟩ else none

/-- The method GET. -/
def get : Method := { token := "GET" }

/-- The method HEAD. -/
def head : Method := { token := "HEAD" }

end Method

/-- The methods that the gateway tells apart. -/
inductive Verb where
  | get
  | put
  | post
  | patch
  | delete
  | options
  | other
  deriving DecidableEq, Repr

/-- What the gateway takes a method for. -/
def Method.verb (m : Method) : Verb :=
  match m.token with
  | "GET" => .get
  | "PUT" => .put
  | "POST" => .post
  | "PATCH" => .patch
  | "DELETE" => .delete
  | "OPTIONS" => .options
  | _ => .other

end DocumentGateway.Http

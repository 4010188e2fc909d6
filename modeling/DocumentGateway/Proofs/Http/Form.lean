import DocumentGateway.Http.Exchange
import DocumentGateway.Proofs.Text.Cut

/-!
# Parameters of a query

A query that goes on after an ampersand has the parameters of both its parts. Whether a request has
a parameter depends on the names of these alone.
-/

namespace DocumentGateway.Http

namespace Form

theorem pairs_append (s t : Bytes) : pairs (s ++ 0x26 :: t) = pairs s ++ pairs t := by
  have hsplit : Text.splitAll (· == 0x26) (s ++ 0x26 :: t) =
      Text.splitAll (· == 0x26) s ++ Text.splitAll (· == 0x26) t :=
    Text.splitAll_append_cons (by decide) s t
  rw [pairs, pieces, hsplit, List.filter_append, List.map_append]
  rfl

end Form

/-- The parameters of a target. -/
def Uri.params (u : Uri) : List (String × String) :=
  match u.query with
  | some query => Form.pairs (Text.Utf8.encode query)
  | none => []

/-- What is appended to a query after an ampersand comes after its parameters. -/
theorem Uri.params_append (u : Uri) (query added : String) :
    Uri.params { u with query := some (query ++ "&" ++ added) } =
      Form.pairs (Text.Utf8.encode query) ++ Form.pairs (Text.Utf8.encode added) := by
  have hencode : Text.Utf8.encode (query ++ "&" ++ added) =
      Text.Utf8.encode query ++ 0x26 :: Text.Utf8.encode added := by
    simp only [Text.Utf8.encode, String.toList_append, List.flatMap_append, List.append_assoc]
    rfl
  change Form.pairs (Text.Utf8.encode (query ++ "&" ++ added)) = _
  rw [hencode, Form.pairs_append]

/-- A request has the parameters of its target. -/
theorem Exchange.hasParam_eq (x : Exchange) (name : String) :
    x.hasParam name = x.request.uri.params.any fun pair => pair.1 = name := by
  unfold hasParam Uri.params
  cases x.request.uri.query with
  | some | none => rfl

end DocumentGateway.Http

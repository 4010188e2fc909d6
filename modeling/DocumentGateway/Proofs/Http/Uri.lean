import DocumentGateway.Http.Uri
import Mathlib.Data.List.TakeWhile

/-!
# Targets that are paths

A target that begins with a slash is read as a path up to its query or its fragment. If it has
neither and all its characters may stand in a path, the path is the whole target, and only its
length can keep it from being read.
-/

namespace DocumentGateway.Http.Uri

/-- The characters of a path before the query and the fragment. -/
def isBeforeQuery (c : Char) : Bool := c != '?' && c != '#'

theorem isBeforeQuery_of_isPathChar {c : Char} (h : isPathChar c = true) :
    isBeforeQuery c = true := by
  simp only [isBeforeQuery, Bool.and_eq_true, bne_iff_ne]
  constructor
  · rintro rfl
    revert h
    decide
  · rintro rfl
    revert h
    decide

variable {s rest : List Char}

theorem pathAndQuery?_of_path (h : ∀ c ∈ s, isPathChar c = true) (hs : s ≠ []) :
    pathAndQuery? s = some (String.ofList s, none) := by
  have hbefore : ∀ c ∈ s, isBeforeQuery c = true := fun c hc =>
    isBeforeQuery_of_isPathChar (h c hc)
  have htake : s.takeWhile isBeforeQuery = s := List.takeWhile_eq_self_iff.mpr hbefore
  have hdrop : s.dropWhile isBeforeQuery = [] := List.dropWhile_eq_nil_iff.mpr hbefore
  have hall : s.all isPathChar = true := List.all_eq_true.mpr h
  have hempty : s.isEmpty = false := by simpa using hs
  unfold isBeforeQuery at htake hdrop
  simp only [pathAndQuery?, htake, hdrop, hall, hempty, Bool.not_true, Bool.false_eq_true, if_false]

/-- A target that begins with a slash and is not too long is a path and a query. -/
theorem ofText?_of_slash (rest : List Char) :
    ofText? (String.ofList ('/' :: rest)) =
      if maxBytes < (Text.Utf8.encode (String.ofList ('/' :: rest))).length then none
      else (pathAndQuery? ('/' :: rest)).map fun (path, query) => ⟨none, none, path, query⟩ := by
  rw [ofText?, String.toList_ofList]
  rfl

/-- A target of path characters is the path that it spells, unless it is too long. -/
theorem ofText?_of_path (h : ∀ c ∈ rest, isPathChar c = true) :
    ofText? (String.ofList ('/' :: rest)) =
      if maxBytes < (Text.Utf8.encode (String.ofList ('/' :: rest))).length then none
      else some ⟨none, none, String.ofList ('/' :: rest), none⟩ := by
  have hall : ∀ c ∈ '/' :: rest, isPathChar c = true := by
    intro c hc
    rcases List.mem_cons.mp hc with rfl | hc
    · decide
    · exact h c hc
  rw [ofText?_of_slash, pathAndQuery?_of_path hall (List.cons_ne_nil _ _)]
  rfl

/-- A path that is read ends before the query and the fragment, and holds path characters alone. -/
theorem of_pathAndQuery? {path : String} {query : Option String}
    (h : pathAndQuery? ('/' :: rest) = some (path, query)) :
    path.toList = '/' :: rest.takeWhile isBeforeQuery ∧
      ∀ c ∈ path.toList, isPathChar c = true := by
  have hbefore : ('/' :: rest).takeWhile (fun c => c != '?' && c != '#') =
      '/' :: rest.takeWhile isBeforeQuery := rfl
  simp only [pathAndQuery?, hbefore, List.isEmpty_cons, Bool.false_eq_true, if_false] at h
  split at h
  · cases h
  · rename_i hall
    rw [Bool.not_eq_true, Bool.not_eq_false'] at hall
    have hpath : path = String.ofList ('/' :: rest.takeWhile isBeforeQuery) := by
      split at h
      · split at h
        · exact (congrArg Prod.fst (Option.some.inj h)).symm
        · cases h
      · exact (congrArg Prod.fst (Option.some.inj h)).symm
    rw [hpath, String.toList_ofList]
    exact ⟨rfl, List.all_eq_true.mp hall⟩

/-- A target that begins with a slash gives the path before its query and its fragment, and is not
too long. -/
theorem of_ofText?_of_slash {uri : Uri} (h : ofText? (String.ofList ('/' :: rest)) = some uri) :
    uri.path.toList = '/' :: rest.takeWhile isBeforeQuery ∧
      (∀ c ∈ uri.path.toList, isPathChar c = true) ∧
      (Text.Utf8.encode (String.ofList ('/' :: rest))).length ≤ maxBytes := by
  rw [ofText?_of_slash] at h
  split at h
  · cases h
  · rename_i hlength
    obtain ⟨⟨path, query⟩, hread, rfl⟩ := Option.map_eq_some_iff.mp h
    obtain ⟨hpath, hall⟩ := of_pathAndQuery? hread
    exact ⟨hpath, hall, Nat.le_of_not_lt hlength⟩

end DocumentGateway.Http.Uri

import DocumentGateway.Access.Permission
import DocumentGateway.Proofs.Settings.Violation

/-!
# What a list of methods grants

A permission without methods grants all of them, and one with methods grants those that it lists, in
any case of their letters. What is listed but cannot be a method counts for nothing. So a list of
nothing else counts as empty, and its permission grants every method; settings without faults have
no such list.
-/

namespace DocumentGateway

namespace Http.Method

/-- The method with a name is the one whose token the name is. -/
theorem ofText?_eq_some_iff {s : String} {method : Method} :
    ofText? s = some method ↔ s = method.token := by
  obtain ⟨token, htoken⟩ := method
  simp only [ofText?]
  split
  · simp
  · rename_i h
    refine iff_of_false (Option.some_ne_none _ ∘ Eq.symm) fun hs => ?_
    exact h (hs ▸ htoken)

theorem ofText?_eq_none_iff {s : String} : ofText? s = none ↔ Text.isToken s = false := by
  simp [ofText?]

end Http.Method

namespace Access

namespace Permission

/-- A permission grants a caller a method on a path as it is written: the caller holds its role, the
path lies below its prefix, and it lists the method or none at all. -/
structure Grants (p : Permission) (caller : Option Account) (method : Http.Method)
    (path : String) : Prop where
  role : p.role ∈ rolesOf caller
  path : p.coversPath path = true
  method : p.methods = [] ∨ ∃ m ∈ p.methods, Text.upper m = method.token

/-- A permission lists something, but nothing that can be a method. -/
def ListsNoMethod (p : Permission) : Prop :=
  p.methods ≠ [] ∧ ∀ m ∈ p.methods, Text.isToken (Text.upper m) = false

variable {p : Permission}

theorem mem_knownMethods {method : Http.Method} :
    method ∈ p.knownMethods ↔ ∃ m ∈ p.methods, Text.upper m = method.token := by
  simp only [knownMethods, List.mem_filterMap, Http.Method.ofText?_eq_some_iff]

theorem knownMethods_eq_nil_iff :
    p.knownMethods = [] ↔ ∀ m ∈ p.methods, Text.isToken (Text.upper m) = false := by
  simp only [knownMethods, List.filterMap_eq_nil_iff, Http.Method.ofText?_eq_none_iff]

/-- The methods covered are those listed, or all if nothing listed can be a method. -/
theorem coversMethod_iff {method : Http.Method} :
    p.coversMethod method = true ↔
      (p.methods = [] ∨ ∃ m ∈ p.methods, Text.upper m = method.token) ∨ p.ListsNoMethod := by
  rw [coversMethod, Bool.or_eq_true, List.isEmpty_iff, List.contains_iff_mem, mem_knownMethods,
    knownMethods_eq_nil_iff, ListsNoMethod]
  by_cases h : p.methods = []
  · simp [h]
  · simp [h, or_comm]

end Permission

variable {permissions : List Permission} {caller : Option Account} {method : Http.Method}
  {path : String}

theorem isAllowed_iff :
    isAllowed permissions caller method path = true ↔
      ∃ p ∈ permissions, p.Grants caller method path ∨
        p.ListsNoMethod ∧ p.role ∈ rolesOf caller ∧ p.coversPath path = true := by
  simp only [isAllowed, List.any_eq_true, Bool.and_eq_true, List.contains_iff_mem,
    Permission.coversMethod_iff]
  refine exists_congr fun p => and_congr_right fun _ => ?_
  constructor
  · rintro ⟨⟨hrole, hpath⟩, hmethod | hnone⟩
    · exact .inl ⟨hrole, hpath, hmethod⟩
    · exact .inr ⟨hnone, hrole, hpath⟩
  · rintro (h | ⟨hnone, hrole, hpath⟩)
    · exact ⟨⟨h.role, h.path⟩, .inl h.method⟩
    · exact ⟨⟨hrole, hpath⟩, .inr hnone⟩

/-- Where every list of methods is empty or has a method on it, what is allowed is what is
granted. -/
theorem isAllowed_iff_of_lists (h : ∀ p ∈ permissions, ¬p.ListsNoMethod) :
    isAllowed permissions caller method path = true ↔
      ∃ p ∈ permissions, p.Grants caller method path := by
  rw [isAllowed_iff]
  refine exists_congr fun p => and_congr_right fun hp => ?_
  exact or_iff_left fun hnone => h p hp hnone.1

end Access

namespace Settings

/-- In settings without faults every list of methods is empty or has a method on it. -/
theorem lists_of_faults {s : Settings} (h : s.faults = []) :
    ∀ p ∈ s.security.rules.permissions, ¬p.ListsNoMethod := by
  have htokens : ∀ name ∈ knownMethods, Text.isToken name = true := by decide
  rintro p hp ⟨hne, hnone⟩
  obtain ⟨m, hm⟩ := List.exists_mem_of_ne_nil _ hne
  have htoken := htokens _ (known_of_faults h hp hm)
  rw [hnone m hm] at htoken
  cases htoken

end Settings

namespace Access

/-- A caller is allowed a method on a path if and only if some permission grants it as it is written
or covers it with a list of methods on which nothing can be a method. Where every list is empty or
has a method on it, as it is in settings without faults, only what is granted is allowed, so that no
permission with a list grants a method that is not on the list. -/
theorem allowed_iff_granted (permissions : List Permission) (caller : Option Account)
    (method : Http.Method) (path : String) :
    (isAllowed permissions caller method path = true ↔
      ∃ p ∈ permissions, p.Grants caller method path ∨
        p.ListsNoMethod ∧ p.role ∈ rolesOf caller ∧ p.coversPath path = true) ∧
    ((∀ p ∈ permissions, ¬p.ListsNoMethod) →
      (isAllowed permissions caller method path = true ↔
        ∃ p ∈ permissions, p.Grants caller method path)) ∧
    ∀ s : Settings, s.faults = [] →
      (isAllowed s.security.rules.permissions caller method path = true ↔
        ∃ p ∈ s.security.rules.permissions, p.Grants caller method path) := by
  refine ⟨isAllowed_iff, isAllowed_iff_of_lists, fun s hs => ?_⟩
  exact isAllowed_iff_of_lists (Settings.lists_of_faults hs)

/-- Settings in which everybody may use some methods below a path. -/
def openSettings (pathPrefix : String) (methods : List String) : Settings :=
  { (default : Settings) with
    security := ⟨⟨"docgate", [], [⟨anonymousRole, pathPrefix, methods⟩]⟩, 1000⟩ }

/-- Settings in which everybody may read some databases, and nothing else. -/
theorem allowed_iff_granted_read :
    let s := openSettings "/public" ["get"]
    s.faults = [] ∧ (∀ p ∈ s.security.rules.permissions, ¬p.ListsNoMethod) ∧
      isAllowed s.security.rules.permissions none .get "/public/coll" = true ∧
      ¬isAllowed s.security.rules.permissions none { token := "PUT" } "/public/coll" = true := by
  intro s
  have hfaults : s.faults = [] := by decide +kernel
  have hlists := Settings.lists_of_faults hfaults
  obtain ⟨-, hread, -⟩ := allowed_iff_granted s.security.rules.permissions none .get "/public/coll"
  obtain ⟨-, -, hwrite⟩ := allowed_iff_granted [] none { token := "PUT" } "/public/coll"
  refine ⟨hfaults, hlists, (hread hlists).mpr ?_, fun hallowed => ?_⟩
  · refine ⟨_, List.mem_singleton_self _, List.mem_singleton_self _, by decide +kernel, .inr ?_⟩
    exact ⟨"get", List.mem_singleton_self _, by decide +kernel⟩
  · obtain ⟨p, hp, hgrants⟩ := (hwrite s hfaults).mp hallowed
    obtain rfl := List.mem_singleton.mp hp
    rcases hgrants.method with hnil | ⟨m, hm, htoken⟩
    · cases hnil
    · obtain rfl := List.mem_singleton.mp hm
      exact absurd htoken (by decide +kernel)

/-- Two methods that were listed as one: no method has such a name, and so everything is allowed to
everybody. -/
theorem joined_methods_grant_all :
    let s := openSettings "/" ["GET,HEAD"]
    isAllowed s.security.rules.permissions none { token := "DELETE" } "/shop" = true ∧
      ¬∃ p ∈ s.security.rules.permissions, p.Grants none { token := "DELETE" } "/shop" := by
  refine ⟨by decide +kernel, ?_⟩
  rintro ⟨p, hp, hgrants⟩
  obtain rfl := List.mem_singleton.mp hp
  rcases hgrants.method with hnil | ⟨m, hm, htoken⟩
  · cases hnil
  · obtain rfl := List.mem_singleton.mp hm
    exact absurd htoken (by decide +kernel)

end Access

end DocumentGateway

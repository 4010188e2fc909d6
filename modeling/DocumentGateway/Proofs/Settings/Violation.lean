import DocumentGateway.Settings.Load
import Mathlib.Data.List.Basic
import Mathlib.Order.Basic

/-!
# The faults of settings are their violations

Each rule about settings may be violated at some place: at a user, at a permission, at a method that
a permission lists. The places are ordered like the settings, and the faults that are reported are
those of all violations in this order, each once. So settings are accepted exactly if they violate
no rule.
-/

namespace DocumentGateway.Settings

/-- A rule about settings that may be violated, with the place and what stands there. -/
inductive Violation where
  /-- The address listened on is no socket address. -/
  | bindAddress (address : String)
  /-- Requests may take no time. -/
  | requestTimeout
  /-- Bodies may have no bytes. -/
  | bodyLimit
  /-- Copies are kept, but for no time. -/
  | cacheTtl
  /-- A user has no name. -/
  | emptyUserid (user : Nat)
  /-- A user has the name of a user before. -/
  | duplicateUserid (user : Nat) (userid : String)
  /-- A permission is for a role that nobody holds. -/
  | unknownRole (permission : Nat) (role : String)
  /-- A permission is for paths that do not begin with a slash. -/
  | badPrefix (permission : Nat)
  /-- A permission lists a method that is not known. -/
  | unknownMethod (permission position : Nat) (method : String)
  /-- Metrics are served at something that is no socket address. -/
  | metricsAddress (address : String)
  deriving DecidableEq, Repr

namespace Violation

/-- Where a violation is, as the numbers that lead to its place. -/
def place : Violation → List Nat
  | bindAddress _ => [0]
  | requestTimeout => [1]
  | bodyLimit => [2]
  | cacheTtl => [3]
  | emptyUserid user => [4, user, 0]
  | duplicateUserid user _ => [4, user, 1]
  | unknownRole permission _ => [5, permission, 0]
  | badPrefix permission => [5, permission, 1]
  | unknownMethod permission position _ => [5, permission, 2, position]
  | metricsAddress _ => [6]

/-- What is reported of a violation. -/
def fault : Violation → Fault
  | bindAddress address => ⟨"listener.bind_address", s!"'{address}' is not a socket address"⟩
  | requestTimeout => ⟨"timeouts.request_secs", "must be greater than 0"⟩
  | bodyLimit => ⟨"security.max_body_size", "must be greater than 0"⟩
  | cacheTtl => ⟨"cache.ttl_secs", "must be greater than 0 when the cache is enabled"⟩
  | emptyUserid user => ⟨s!"security.users[{user}].userid", "must not be empty"⟩
  | duplicateUserid user userid =>
    ⟨s!"security.users[{user}].userid", s!"duplicate user '{userid}'"⟩
  | unknownRole permission role =>
    ⟨s!"security.permissions[{permission}].role", s!"role '{role}' is not granted to any user"⟩
  | badPrefix permission =>
    ⟨s!"security.permissions[{permission}].path_prefix", "must start with '/'"⟩
  | unknownMethod permission _ method =>
    ⟨s!"security.permissions[{permission}].methods", s!"unknown method '{method}'"⟩
  | metricsAddress address =>
    ⟨"observability.metrics_address", s!"'{address}' is not a socket address"⟩

end Violation

/-- Settings violate a rule. -/
def Violates (s : Settings) : Violation → Prop
  | .bindAddress address =>
    address = s.listener.bindAddress ∧ Net.SocketAddress.ofText? address = none
  | .requestTimeout => s.timeouts.requestSecs = 0
  | .bodyLimit => s.security.maxBodySize = 0
  | .cacheTtl => s.cache.enabled = true ∧ s.cache.ttlSecs = 0
  | .emptyUserid i => ∃ user, s.security.rules.users[i]? = some user ∧ user.userid = ""
  | .duplicateUserid i userid =>
    (∃ user, s.security.rules.users[i]? = some user ∧ user.userid = userid) ∧
      ∃ j < i, ∃ earlier, s.security.rules.users[j]? = some earlier ∧ earlier.userid = userid
  | .unknownRole i role =>
    (∃ p, s.security.rules.permissions[i]? = some p ∧ p.role = role) ∧
      role ≠ "$unauthenticated" ∧ ∀ user ∈ s.security.rules.users, role ∉ user.roles
  | .badPrefix i =>
    ∃ p, s.security.rules.permissions[i]? = some p ∧ p.pathPrefix.toList.head? ≠ some '/'
  | .unknownMethod i k method =>
    ∃ p, s.security.rules.permissions[i]? = some p ∧ p.methods[k]? = some method ∧
      Text.upper method ∉ ["GET", "PUT", "POST", "PATCH", "DELETE", "OPTIONS"]
  | .metricsAddress address =>
    s.observability.metricsEnabled = true ∧ address = s.observability.metricsAddress ∧
      Net.SocketAddress.ofText? address = none

/-- Violations in the order of their places, all that there are and each once. -/
structure Lists (holds : Violation → Prop) (violations : List Violation) : Prop where
  ordered : violations.Pairwise fun v w => v.place < w.place
  exact : ∀ v, v ∈ violations ↔ holds v

/-- Faults are those of all violations of a kind, in order. -/
def Reports (holds : Violation → Prop) (faults : List Fault) : Prop :=
  ∃ violations, Lists holds violations ∧ faults = violations.map Violation.fault

section

variable {holds holds' : Violation → Prop} {xs ys : List Fault}

/-- There is only one such list. -/
theorem Lists.unique {vs ws : List Violation} (hv : Lists holds vs) (hw : Lists holds ws) :
    vs = ws := by
  have hnodup : ∀ {us}, Lists holds us → us.Nodup := by
    intro us hu
    refine hu.ordered.imp fun {v w} hlt heq => ?_
    rw [heq] at hlt
    exact List.lt_irrefl _ hlt
  refine List.Perm.eq_of_pairwise (fun v w _ _ hvw hwv => ?_) hv.ordered hw.ordered ?_
  · exact absurd hwv (List.lt_asymm hvw)
  · refine (List.perm_ext_iff_of_nodup (hnodup hv) (hnodup hw)).mpr fun v => ?_
    exact (hv.exact v).trans (hw.exact v).symm

theorem Reports.congr (h : Reports holds xs) (hiff : ∀ v, holds v ↔ holds' v) :
    Reports holds' xs := by
  obtain ⟨vs, ⟨hordered, hexact⟩, hxs⟩ := h
  exact ⟨vs, ⟨hordered, fun v => (hexact v).trans (hiff v)⟩, hxs⟩

theorem reports_nil (h : ∀ v, ¬holds v) : Reports holds [] :=
  ⟨[], ⟨.nil, fun v => iff_of_false List.not_mem_nil (h v)⟩, rfl⟩

theorem Reports.append (h : Reports holds xs) (h' : Reports holds' ys)
    (hlt : ∀ v w, holds v → holds' w → v.place < w.place) :
    Reports (fun v => holds v ∨ holds' v) (xs ++ ys) := by
  obtain ⟨vs, hvs, rfl⟩ := h
  obtain ⟨ws, hws, rfl⟩ := h'
  refine ⟨vs ++ ws, ⟨?_, fun v => ?_⟩, List.map_append.symm⟩
  · refine List.pairwise_append.mpr ⟨hvs.ordered, hws.ordered, fun v hv w hw => ?_⟩
    exact hlt v w ((hvs.exact v).mp hv) ((hws.exact w).mp hw)
  · rw [List.mem_append, hvs.exact, hws.exact]

end

/-- Settings violate a rule at a place or below it. -/
def ViolatesAt (s : Settings) (place : List Nat) (v : Violation) : Prop :=
  Violates s v ∧ place <+: v.place

section

variable {s : Settings} {under : List Nat} {pieces : List (List Fault)}

/-- The fault of the one violation that there may be at its place. -/
theorem reports_faultIf {condition : Bool} (v : Violation)
    (honly : ∀ w, Violates s w → v.place <+: w.place → w = v)
    (h : Violates s v ↔ condition = true) :
    Reports (ViolatesAt s v.place) (faultIf condition v.fault.field v.fault.message) := by
  cases condition with
  | false => exact reports_nil fun w hw => nomatch h.mp (honly w hw.1 hw.2 ▸ hw.1)
  | true =>
    refine ⟨[v], ⟨List.pairwise_singleton _ v, fun w => List.mem_singleton.trans ?_⟩, rfl⟩
    constructor
    · rintro rfl
      exact ⟨h.mpr rfl, List.prefix_rfl⟩
    · exact fun hw => honly w hw.1 hw.2

/-- Under a place, what is below a lower number comes first. -/
theorem ViolatesAt.lt {k k' : Nat} {v w : Violation} (hv : ViolatesAt s (under ++ [k]) v)
    (hw : ViolatesAt s (under ++ [k']) w) (h : k < k') : v.place < w.place := by
  obtain ⟨-, rest, hv⟩ := hv
  obtain ⟨-, rest', hw⟩ := hw
  rw [← hv, ← hw, List.append_assoc, List.append_assoc]
  exact List.append_left_lt (List.cons_lt_cons_iff.mpr (.inl h))

private theorem Reports.flatten_from (first : Nat)
    (h : ∀ k piece, pieces[k]? = some piece → Reports (ViolatesAt s (under ++ [first + k])) piece) :
    Reports (fun v => ∃ k < pieces.length, ViolatesAt s (under ++ [first + k]) v)
      pieces.flatten := by
  induction pieces generalizing first with
  | nil =>
    refine reports_nil fun v hv => ?_
    obtain ⟨k, hk, -⟩ := hv
    exact absurd hk (Nat.not_lt_zero k)
  | cons piece rest ih =>
    have hnext : ∀ k, first + 1 + k = first + (k + 1) := by omega
    have hpiece := h 0 piece rfl
    have hrest := ih (first + 1) fun k other hother => by
      rw [hnext]
      exact h (k + 1) other hother
    refine (hpiece.append hrest fun v w hv hw => ?_).congr fun v => ?_
    · obtain ⟨k, -, hw⟩ := hw
      exact hv.lt hw (by omega)
    · constructor
      · rintro (hv | ⟨k, hk, hv⟩)
        · exact ⟨0, Nat.zero_lt_succ _, hv⟩
        · exact ⟨k + 1, Nat.succ_lt_succ hk, hnext k ▸ hv⟩
      · rintro ⟨k, hk, hv⟩
        cases k with
        | zero => exact .inl hv
        | succ k => exact .inr ⟨k, Nat.lt_of_succ_lt_succ hk, hnext k ▸ hv⟩

/-- Faults are reported piece by piece, each piece at the next of the places under a place. -/
theorem Reports.flatten (under : List Nat)
    (hplace : ∀ v, ViolatesAt s under v → ∃ k < pieces.length, under ++ [k] <+: v.place)
    (h : ∀ k piece, pieces[k]? = some piece → Reports (ViolatesAt s (under ++ [k])) piece) :
    Reports (ViolatesAt s under) pieces.flatten := by
  have hfrom := Reports.flatten_from 0 fun k piece hpiece => by
    rw [Nat.zero_add]
    exact h k piece hpiece
  refine hfrom.congr fun v => ⟨fun ⟨k, _, hv⟩ => ?_, fun hv => ?_⟩
  · exact ⟨hv.1, (List.prefix_append _ _).trans hv.2⟩
  · obtain ⟨k, hk, hunder⟩ := hplace v hv
    exact ⟨k, hk, hv.1, by rwa [Nat.zero_add]⟩

end

/-- The faults of the users are those of each, given the users before it. -/
theorem usersFaults_eq (index : Nat) (earlier users : List Access.User) :
    usersFaults index earlier users = (users.mapIdx fun i user =>
      userFaults (index + i) ((users.take i).reverse ++ earlier) user).flatten := by
  induction users generalizing index earlier with
  | nil => rfl
  | cons user rest ih =>
    rw [usersFaults, ih, List.mapIdx_cons, List.flatten_cons]
    simp [Nat.add_assoc, Nat.add_comm 1]

/-- The faults of the permissions are those of each. -/
theorem permissionsFaults_eq (users : List Access.User) (index : Nat)
    (permissions : List Access.Permission) :
    permissionsFaults users index permissions =
      (permissions.mapIdx fun i p => permissionFaults users (index + i) p).flatten := by
  induction permissions generalizing index with
  | nil => rfl
  | cons p rest ih =>
    rw [permissionsFaults, ih, List.mapIdx_cons, List.flatten_cons]
    simp [Nat.add_assoc, Nat.add_comm 1]

/-- The faults of what a test picks are those of each. -/
theorem map_filter_eq_flatten (isBad : String → Bool) (field : String) (message : String → String)
    (methods : List String) :
    (methods.filter isBad).map (fun m => (⟨field, message m⟩ : Fault)) =
      (methods.map fun m => faultIf (isBad m) field (message m)).flatten := by
  induction methods with
  | nil => rfl
  | cons m rest ih =>
    rw [List.map_cons, List.flatten_cons, ← ih, List.filter_cons]
    cases isBad m <;> rfl

/-- A user has the name of an earlier one. -/
theorem any_take_iff {users : List Access.User} {i : Nat} {userid : String} :
    ((users.take i).reverse.any fun u => u.userid = userid) = true ↔
      ∃ j < i, ∃ earlier, users[j]? = some earlier ∧ earlier.userid = userid := by
  simp only [List.any_eq_true, List.mem_reverse, List.mem_take_iff_getElem, decide_eq_true_eq]
  constructor
  · rintro ⟨_, ⟨j, hj, rfl⟩, hname⟩
    rw [Nat.lt_min] at hj
    exact ⟨j, hj.1, _, List.getElem?_eq_getElem hj.2, hname⟩
  · rintro ⟨j, hj, earlier, hearlier, hname⟩
    obtain ⟨hlt, rfl⟩ := List.getElem?_eq_some_iff.mp hearlier
    exact ⟨_, ⟨j, Nat.lt_min.mpr ⟨hj, hlt⟩, rfl⟩, hname⟩

/-- A role is unknown if no user holds it, and callers without an account do not either. -/
theorem isUnknownRole_iff {users : List Access.User} {role : String} :
    isUnknownRole users role = true ↔
      role ≠ "$unauthenticated" ∧ ∀ user ∈ users, role ∉ user.roles := by
  simp [isUnknownRole, Access.anonymousRole]

section

variable {s : Settings} {i : Nat}

/-- What is reported of a user. -/
theorem reports_userFaults {user : Access.User} (h : s.security.rules.users[i]? = some user) :
    Reports (ViolatesAt s [4, i])
      (userFaults i (s.security.rules.users.take i).reverse user) := by
  have hpieces : userFaults i (s.security.rules.users.take i).reverse user =
      [faultIf user.userid.isEmpty s!"security.users[{i}].userid" "must not be empty",
        faultIf ((s.security.rules.users.take i).reverse.any fun u => u.userid = user.userid)
          s!"security.users[{i}].userid" s!"duplicate user '{user.userid}'"].flatten := by
    simp [userFaults]
  rw [hpieces]
  refine Reports.flatten [4, i] ?_ ?_
  · rintro v ⟨-, rest, hplace⟩
    cases v <;> cases hplace
    · exact ⟨0, by simp, [], rfl⟩
    · exact ⟨1, by simp, [], rfl⟩
  · rintro (_ | _ | k) piece hpiece <;> cases hpiece
    · refine reports_faultIf (.emptyUserid i) ?_ ?_
      · rintro w - ⟨rest, hplace⟩
        cases w <;> cases hplace
        rfl
      · rw [String.isEmpty_iff]
        constructor
        · rintro ⟨other, hother, hname⟩
          cases h.symm.trans hother
          exact hname
        · exact fun hname => ⟨user, h, hname⟩
    · refine reports_faultIf (.duplicateUserid i user.userid) ?_ ?_
      · rintro w hw ⟨rest, hplace⟩
        cases w <;> cases hplace
        obtain ⟨⟨other, hother, rfl⟩, -⟩ := hw
        cases h.symm.trans hother
        rfl
      · rw [any_take_iff]
        exact ⟨And.right, fun hearlier => ⟨⟨user, h, rfl⟩, hearlier⟩⟩

/-- What is reported of the users. -/
theorem reports_usersFaults (s : Settings) :
    Reports (ViolatesAt s [4]) (usersFaults 0 [] s.security.rules.users) := by
  rw [usersFaults_eq]
  refine Reports.flatten [4] ?_ fun i piece hpiece => ?_
  · rintro v ⟨hv, rest, hplace⟩
    rw [List.length_mapIdx]
    cases v <;> cases hplace
    · obtain ⟨user, huser, -⟩ := hv
      exact ⟨_, (List.getElem?_eq_some_iff.mp huser).1, [0], rfl⟩
    · obtain ⟨⟨user, huser, -⟩, -⟩ := hv
      exact ⟨_, (List.getElem?_eq_some_iff.mp huser).1, [1], rfl⟩
  · rw [List.getElem?_mapIdx] at hpiece
    obtain ⟨user, huser, rfl⟩ := Option.map_eq_some_iff.mp hpiece
    rw [Nat.zero_add, List.append_nil]
    exact reports_userFaults huser

/-- What is reported of the methods of a permission. -/
theorem reports_methodFaults {p : Access.Permission}
    (h : s.security.rules.permissions[i]? = some p) :
    Reports (ViolatesAt s [5, i, 2])
      ((p.methods.filter fun m => !knownMethods.contains (Text.upper m)).map fun m =>
        ⟨s!"security.permissions[{i}].methods", s!"unknown method '{m}'"⟩) := by
  rw [map_filter_eq_flatten]
  refine Reports.flatten [5, i, 2] ?_ fun k piece hpiece => ?_
  · rintro v ⟨hv, rest, hplace⟩
    rw [List.length_map]
    cases v <;> cases hplace
    obtain ⟨q, hq, hmethod, -⟩ := hv
    cases h.symm.trans hq
    exact ⟨_, (List.getElem?_eq_some_iff.mp hmethod).1, [], rfl⟩
  · rw [List.getElem?_map] at hpiece
    obtain ⟨m, hm, rfl⟩ := Option.map_eq_some_iff.mp hpiece
    refine reports_faultIf (.unknownMethod i k m) ?_ ?_
    · rintro w hw ⟨rest, hplace⟩
      cases w <;> cases hplace
      obtain ⟨q, hq, hmethod, -⟩ := hw
      cases h.symm.trans hq
      cases hm.symm.trans hmethod
      rfl
    · rw [Bool.not_eq_true', List.contains_eq_mem, decide_eq_false_iff_not]
      constructor
      · rintro ⟨-, -, -, hunknown⟩
        exact hunknown
      · exact fun hunknown => ⟨p, h, hm, hunknown⟩

/-- What is reported of a permission. -/
theorem reports_permissionFaults {p : Access.Permission}
    (h : s.security.rules.permissions[i]? = some p) :
    Reports (ViolatesAt s [5, i]) (permissionFaults s.security.rules.users i p) := by
  have hpieces : permissionFaults s.security.rules.users i p =
      [faultIf (isUnknownRole s.security.rules.users p.role) s!"security.permissions[{i}].role"
          s!"role '{p.role}' is not granted to any user",
        faultIf (p.pathPrefix.toList.head? != some '/') s!"security.permissions[{i}].path_prefix"
          "must start with '/'",
        (p.methods.filter fun m => !knownMethods.contains (Text.upper m)).map fun m =>
          ⟨s!"security.permissions[{i}].methods", s!"unknown method '{m}'"⟩].flatten := by
    simp [permissionFaults, String.append_assoc, toString]
  rw [hpieces]
  refine Reports.flatten [5, i] ?_ ?_
  · rintro v ⟨-, rest, hplace⟩
    cases v <;> cases hplace
    · exact ⟨0, by simp, [], rfl⟩
    · exact ⟨1, by simp, [], rfl⟩
    · exact ⟨2, by simp, [_], rfl⟩
  · rintro (_ | _ | _ | k) piece hpiece <;> cases hpiece
    · refine reports_faultIf (.unknownRole i p.role) ?_ ?_
      · rintro w hw ⟨rest, hplace⟩
        cases w <;> cases hplace
        obtain ⟨⟨q, hq, rfl⟩, -⟩ := hw
        cases h.symm.trans hq
        rfl
      · rw [isUnknownRole_iff]
        exact ⟨And.right, fun hunknown => ⟨⟨p, h, rfl⟩, hunknown⟩⟩
    · refine reports_faultIf (.badPrefix i) ?_ ?_
      · rintro w - ⟨rest, hplace⟩
        cases w <;> cases hplace
        rfl
      · rw [bne_iff_ne]
        constructor
        · rintro ⟨q, hq, hprefix⟩
          cases h.symm.trans hq
          exact hprefix
        · exact fun hprefix => ⟨p, h, hprefix⟩
    · exact reports_methodFaults h

/-- What is reported of the permissions. -/
theorem reports_permissionsFaults (s : Settings) :
    Reports (ViolatesAt s [5])
      (permissionsFaults s.security.rules.users 0 s.security.rules.permissions) := by
  rw [permissionsFaults_eq]
  refine Reports.flatten [5] ?_ fun i piece hpiece => ?_
  · rintro v ⟨hv, rest, hplace⟩
    rw [List.length_mapIdx]
    cases v <;> cases hplace
    · obtain ⟨⟨p, hp, -⟩, -⟩ := hv
      exact ⟨_, (List.getElem?_eq_some_iff.mp hp).1, [0], rfl⟩
    · obtain ⟨p, hp, -⟩ := hv
      exact ⟨_, (List.getElem?_eq_some_iff.mp hp).1, [1], rfl⟩
    · obtain ⟨p, hp, -⟩ := hv
      exact ⟨_, (List.getElem?_eq_some_iff.mp hp).1, [2, _], rfl⟩
  · rw [List.getElem?_mapIdx] at hpiece
    obtain ⟨p, hp, rfl⟩ := Option.map_eq_some_iff.mp hpiece
    rw [Nat.zero_add]
    exact reports_permissionFaults hp

end

/-- A text is no socket address. -/
theorem isBadAddress_iff {address : String} :
    isBadAddress address = true ↔ Net.SocketAddress.ofText? address = none := by
  rw [isBadAddress, Option.isNone_iff_eq_none]

/-- What is reported of settings. -/
theorem reports_faults (s : Settings) : Reports (Violates s) s.faults := by
  let metrics := s.observability.metricsAddress
  have hpieces : s.faults =
      [addressFault "listener.bind_address" s.listener.bindAddress,
        faultIf (s.timeouts.requestSecs = 0) "timeouts.request_secs" "must be greater than 0",
        faultIf (s.security.maxBodySize = 0) "security.max_body_size" "must be greater than 0",
        faultIf (s.cache.enabled && s.cache.ttlSecs = 0) "cache.ttl_secs"
          "must be greater than 0 when the cache is enabled",
        usersFaults 0 [] s.security.rules.users,
        permissionsFaults s.security.rules.users 0 s.security.rules.permissions,
        faultIf (s.observability.metricsEnabled && isBadAddress metrics)
          "observability.metrics_address" s!"'{metrics}' is not a socket address"].flatten := by
    cases hmetrics : s.observability.metricsEnabled <;>
      simp [faults, addressFault, faultIf, hmetrics, metrics]
  rw [hpieces]
  refine (Reports.flatten [] ?_ ?_).congr fun v => ⟨And.left, fun hv => ⟨hv, List.nil_prefix⟩⟩
  · intro v _
    have hsection : ∃ k < 7, [k] <+: v.place := by
      cases v <;> exact ⟨_, by decide, _, rfl⟩
    exact hsection
  · rintro (_ | _ | _ | _ | _ | _ | _ | k) piece hpiece <;> cases hpiece
    · refine reports_faultIf (.bindAddress s.listener.bindAddress) ?_ ?_
      · rintro w hw ⟨rest, hplace⟩
        cases w <;> cases hplace
        rw [hw.1]
      · rw [isBadAddress_iff]
        exact ⟨And.right, fun hbad => ⟨rfl, hbad⟩⟩
    · refine reports_faultIf .requestTimeout ?_ ?_
      · rintro w - ⟨rest, hplace⟩
        cases w <;> cases hplace
        rfl
      · rw [decide_eq_true_eq]
        rfl
    · refine reports_faultIf .bodyLimit ?_ ?_
      · rintro w - ⟨rest, hplace⟩
        cases w <;> cases hplace
        rfl
      · rw [decide_eq_true_eq]
        rfl
    · refine reports_faultIf .cacheTtl ?_ ?_
      · rintro w - ⟨rest, hplace⟩
        cases w <;> cases hplace
        rfl
      · rw [Bool.and_eq_true, decide_eq_true_eq]
        rfl
    · exact reports_usersFaults s
    · exact reports_permissionsFaults s
    · refine reports_faultIf (.metricsAddress metrics) ?_ ?_
      · rintro w hw ⟨rest, hplace⟩
        cases w <;> cases hplace
        rw [hw.2.1]
      · rw [Bool.and_eq_true, isBadAddress_iff]
        exact ⟨fun hv => ⟨hv.1, hv.2.2⟩, fun hbad => ⟨hbad.1, rfl, hbad.2⟩⟩

section

variable {s : Settings}

/-- Settings are without faults exactly if they violate no rule. -/
theorem faults_eq_nil_iff : s.faults = [] ↔ ∀ v, ¬Violates s v := by
  obtain ⟨violations, hlists, hfaults⟩ := reports_faults s
  rw [hfaults, List.map_eq_nil_iff, List.eq_nil_iff_forall_not_mem]
  simp only [hlists.exact]

theorem checked_eq_ok_iff : checked s = .ok s ↔ s.faults = [] := by
  unfold checked
  cases s.faults <;> simp

/-- Settings with faults are refused with all of them. -/
theorem checked_of_faults (h : s.faults ≠ []) : checked s = .error (.faulty s.faults) := by
  unfold checked
  cases hs : s.faults with
  | nil => exact absurd hs h
  | cons fault rest => rfl

/-- In settings without faults every user's name is used once. -/
theorem nodup_of_faults (h : s.faults = []) :
    (s.security.rules.users.map Access.User.userid).Nodup := by
  rw [List.Nodup, List.pairwise_map, List.pairwise_iff_getElem]
  intro j i hj hi hlt hname
  exact faults_eq_nil_iff.mp h (.duplicateUserid i _)
    ⟨⟨_, List.getElem?_eq_getElem hi, rfl⟩, j, hlt, _, List.getElem?_eq_getElem hj, hname⟩

/-- In settings without faults every listed method is known. -/
theorem known_of_faults (h : s.faults = []) {p : Access.Permission}
    (hp : p ∈ s.security.rules.permissions) {m : String} (hm : m ∈ p.methods) :
    Text.upper m ∈ knownMethods := by
  obtain ⟨i, hi⟩ := List.getElem?_of_mem hp
  obtain ⟨k, hk⟩ := List.getElem?_of_mem hm
  by_contra hunknown
  exact faults_eq_nil_iff.mp h (.unknownMethod i k m) ⟨p, hi, hk, hunknown⟩

end

/-- The faults of settings are those of the violations of the rules, in the order of their places
and each once, and there is only one such list. Settings are accepted exactly if they violate no
rule, and otherwise all these faults are given. -/
theorem faults_exact (s : Settings) :
    ∃ violations, Lists (Violates s) violations ∧
      (∀ others, Lists (Violates s) others → others = violations) ∧
      s.faults = violations.map Violation.fault ∧
      (checked s = .ok s ↔ ∀ v, ¬Violates s v) ∧
      ((∃ v, Violates s v) → checked s = .error (.faulty (violations.map Violation.fault))) := by
  obtain ⟨violations, hlists, hfaults⟩ := reports_faults s
  refine ⟨violations, hlists, fun others hothers => hothers.unique hlists, hfaults, ?_, ?_⟩
  · rw [← faults_eq_nil_iff, checked_eq_ok_iff]
  · rintro ⟨v, hv⟩
    have hsome : s.faults ≠ [] := fun hnone => faults_eq_nil_iff.mp hnone v hv
    exact hfaults ▸ checked_of_faults hsome

end DocumentGateway.Settings

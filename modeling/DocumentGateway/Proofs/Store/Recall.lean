import DocumentGateway.Proofs.Store.Cache

/-!
# The cache recalls its calls

All who hold a cache share what is in it, so their calls are one history. What the cache holds under
a name can be read off that history: the generation is the number of the name's invalidations, and
the copy is the last one that was put at the generation of its moment, as long as the name is not
invalidated and no look-up finds the copy too old. The cache has no more of its past than this, and
a name's share of it depends on the calls about that name alone.
-/

namespace DocumentGateway.Store.Cache

/-- What a call asks of a cache. -/
inductive Demand where
  | get
  | generation
  | put (generation : Nat) (props : Document)
  | invalidate

/-- A call on a cache. -/
structure Call where
  /-- The name that it is about. -/
  db : String
  /-- The clock when it is made. -/
  now : Nat
  /-- What it asks. -/
  demand : Demand

/-- What a call is answered. -/
inductive Reply where
  | props (found : Option Document)
  | generation (count : Nat)
  | stored (accepted : Bool)
  | done

/-- Make a call. -/
def perform (c : Cache) (call : Call) : Reply × Cache :=
  match call.demand with
  | .get => (.props (c.get call.db call.now).1, (c.get call.db call.now).2)
  | .generation => (.generation (c.generation call.db), c)
  | .put generation props =>
    (.stored (c.put call.db generation props call.now).1,
      (c.put call.db generation props call.now).2)
  | .invalidate => (.done, c.invalidate call.db)

/-- Make the calls of a history, one after the other. -/
def replay (c : Cache) (history : List Call) : Cache :=
  history.foldl (fun c call => (c.perform call).2) c

namespace Demand

/-- Whether something asks for an invalidation. -/
def invalidates : Demand → Bool
  | .invalidate => true
  | _ => false

end Demand

/-- How often a history has invalidated a name. -/
def invalidations (db : String) (history : List Call) : Nat :=
  history.countP fun call => call.db = db && call.demand.invalidates

/-- After a history, a call puts properties under a name at the generation that the name is at. -/
def Call.Lands (db : String) (history : List Call) (call : Call) : Prop :=
  call.db = db ∧ ∃ props, call.demand = .put (invalidations db history) props

/-- The call that puts a copy under a name at the generation that the name is at. -/
def landing (db : String) (history : List Call) (copy : Copy) : Call :=
  ⟨db, copy.since, .put (invalidations db history) copy.props⟩

/-- A history has put a copy under a name, and since then it has neither invalidated the name nor
put another copy there. -/
structure LastPut (db : String) (history before : List Call) (copy : Copy) (later : List Call) :
    Prop where
  split : history = before ++ landing db before copy :: later
  valid : ∀ call ∈ later, call.db = db → call.demand.invalidates = false
  latest : ∀ between call rest, later = between ++ call :: rest →
    ¬call.Lands db (before ++ landing db before copy :: between)

/-- A history leaves a copy under a name: it is the last one that was put there, and no look-up has
found it too old. -/
def Kept (ttl : Nat) (history : List Call) (db : String) (copy : Copy) : Prop :=
  ∃ before later, LastPut db history before copy later ∧
    ∀ call ∈ later, call.db = db → call.demand = .get → copy.FreshAt ttl call.now

variable {db : String} {history before later : List Call} {call : Call} {copy : Copy}
  {ttl : Nat}

theorem invalidations_snoc (db : String) (history : List Call) (call : Call) :
    invalidations db (history ++ [call]) =
      invalidations db history +
        if call.db = db ∧ call.demand.invalidates = true then 1 else 0 := by
  simp [invalidations, List.countP_append, List.countP_cons]

namespace LastPut

theorem self (db : String) (history : List Call) (copy : Copy) :
    LastPut db (history ++ [landing db history copy]) history copy [] where
  split := rfl
  valid := fun _ hm => nomatch hm
  latest := fun between call rest hsplit => by simp at hsplit

theorem snoc (h : LastPut db history before copy later)
    (hvalid : call.db = db → call.demand.invalidates = false) (hother : ¬call.Lands db history) :
    LastPut db (history ++ [call]) before copy (later ++ [call]) where
  split := by rw [h.split, List.append_assoc, List.cons_append]
  valid := List.forall_mem_append.mpr ⟨h.valid, List.forall_mem_singleton.mpr hvalid⟩
  latest := by
    intro between e rest hsplit
    rcases List.eq_nil_or_concat rest with rfl | ⟨front, last, rfl⟩
    · obtain ⟨rfl, hcall⟩ := List.append_inj' hsplit rfl
      cases hcall
      exact h.split ▸ hother
    · have hfront : later ++ [call] = (between ++ e :: front) ++ [last] := by simpa using hsplit
      obtain ⟨hlater, -⟩ := List.append_inj' hfront rfl
      exact h.latest between e front hlater

/-- What was put last was put by the last call, or had been put last before it. -/
theorem cases_snoc (h : LastPut db (history ++ [call]) before copy later) :
    call = landing db history copy ∧ later = [] ∨
      ∃ earlier, later = earlier ++ [call] ∧ LastPut db history before copy earlier ∧
        (call.db = db → call.demand.invalidates = false) ∧ ¬call.Lands db history := by
  rcases List.eq_nil_or_concat later with rfl | ⟨earlier, last, rfl⟩
  · obtain ⟨rfl, hcall⟩ := List.append_inj' h.split rfl
    cases hcall
    exact .inl ⟨rfl, rfl⟩
  · rw [List.concat_eq_append] at h
    have hsplit : history ++ [call] =
        (before ++ landing db before copy :: earlier) ++ [last] := by simpa using h.split
    obtain ⟨hhistory, hcall⟩ := List.append_inj' hsplit rfl
    cases hcall
    have hvalid := List.forall_mem_append.mp h.valid
    refine .inr ⟨earlier, List.concat_eq_append, ⟨hhistory, hvalid.1, ?_⟩,
      List.forall_mem_singleton.mp hvalid.2, ?_⟩
    · intro between e rest hearlier
      exact h.latest between e (rest ++ [call]) (by simp [hearlier])
    · exact hhistory ▸ h.latest earlier call [] rfl

end LastPut

/-- One more call leaves a copy if it lands it, or if the copy was there and the call is none that
drops or replaces it. -/
theorem kept_snoc :
    Kept ttl (history ++ [call]) db copy ↔
      call = landing db history copy ∨
        Kept ttl history db copy ∧ (call.db = db → call.demand.invalidates = false) ∧
          ¬call.Lands db history ∧
          (call.db = db → call.demand = .get → copy.FreshAt ttl call.now) := by
  constructor
  · rintro ⟨before, later, hlast, hfresh⟩
    rcases hlast.cases_snoc with ⟨hcall, -⟩ | ⟨earlier, rfl, hlast, hvalid, hother⟩
    · exact .inl hcall
    · have hfresh := List.forall_mem_append.mp hfresh
      exact .inr ⟨⟨before, earlier, hlast, hfresh.1⟩, hvalid, hother,
        List.forall_mem_singleton.mp hfresh.2⟩
  · rintro (rfl | ⟨⟨before, later, hlast, hfresh⟩, hvalid, hother, hnow⟩)
    · exact ⟨history, [], .self db history copy, fun _ hm => nomatch hm⟩
    · exact ⟨before, later ++ [call], hlast.snoc hvalid hother,
        List.forall_mem_append.mpr ⟨hfresh, List.forall_mem_singleton.mpr hnow⟩⟩

/-- A call about another name leaves what is kept. -/
theorem kept_snoc_of_ne (h : call.db ≠ db) :
    Kept ttl (history ++ [call]) db copy ↔ Kept ttl history db copy := by
  have hlanding : call ≠ landing db history copy := fun hcall => h (congrArg Call.db hcall)
  rw [kept_snoc]
  simp [hlanding, Call.Lands, h]

/-- A call about another name leaves a slot. -/
theorem slot_perform_of_ne (c : Cache) (h : call.db ≠ db) :
    (c.perform call).2.slot db = c.slot db := by
  rw [perform]
  cases call.demand with
  | get => exact slot_get_of_ne c call.now h
  | generation => rfl
  | put generation props => rw [slot_put, if_neg fun hc => h hc.2]
  | invalidate => rw [slot_invalidate, if_neg h]

@[simp] theorem enabled_perform (c : Cache) (call : Call) :
    (c.perform call).2.enabled = c.enabled := by
  rw [perform]
  cases call.demand <;> simp [invalidate]

@[simp] theorem ttl_perform (c : Cache) (call : Call) : (c.perform call).2.ttl = c.ttl := by
  rw [perform]
  cases call.demand <;> simp [invalidate]

/-- Only an invalidation raises a generation. -/
theorem generation_perform (c : Cache) (call : Call) (db : String) :
    (c.perform call).2.generation db =
      c.generation db + if call.db = db ∧ call.demand.invalidates = true then 1 else 0 := by
  rw [perform]
  cases call.demand with
  | get => simp [Demand.invalidates]
  | generation => simp [Demand.invalidates]
  | put generation props => simp [Demand.invalidates]
  | invalidate =>
    rw [generation_invalidate]
    by_cases h : call.db = db <;> simp [Demand.invalidates, h]

/-- A call keeps the slots in the order of their names. -/
theorem ordered_perform {c : Cache} (h : Keyed.Ordered c.slots) (call : Call) :
    Keyed.Ordered (c.perform call).2.slots := by
  rw [perform]
  cases call.demand with
  | get => exact ordered_get h call.db call.now
  | generation => exact h
  | put generation props => exact ordered_put h call.db generation props call.now
  | invalidate => exact h.insert _ _

/-- A cache of some settings holds what a history tells. -/
structure Recalls (enabled : Bool) (ttl : Nat) (history : List Call) (c : Cache) : Prop where
  enabled_eq : c.enabled = enabled
  ttl_eq : c.ttl = ttl
  ordered : Keyed.Ordered c.slots
  generation_eq : ∀ db, c.generation db = invalidations db history
  copy_iff : ∀ db copy, (c.slot db).copy = some copy ↔ enabled = true ∧ Kept ttl history db copy

namespace Recalls

variable {enabled : Bool} {c : Cache}

theorem empty (enabled : Bool) (ttl : Nat) : Recalls enabled ttl [] (empty enabled ttl) where
  enabled_eq := rfl
  ttl_eq := rfl
  ordered := Keyed.ordered_nil
  generation_eq := fun _ => rfl
  copy_iff := by
    intro db copy
    refine iff_of_false (by simp) ?_
    rintro ⟨-, before, later, hlast, -⟩
    simpa using hlast.split

/-- The copy that a call leaves is the one that the history with the call tells. -/
theorem copy_perform (h : Recalls enabled ttl history c) (call : Call) (copy : Copy) :
    ((c.perform call).2.slot call.db).copy = some copy ↔
      enabled = true ∧ Kept ttl (history ++ [call]) call.db copy := by
  obtain ⟨db, now, demand⟩ := call
  have hcopy := h.copy_iff db copy
  cases demand with
  | get =>
    have hkept : Kept ttl (history ++ [⟨db, now, .get⟩]) db copy ↔
        Kept ttl history db copy ∧ copy.FreshAt ttl now := by
      rw [kept_snoc]
      simp [landing, Call.Lands, Demand.invalidates]
    rw [hkept]
    change ((c.get db now).2.slot db).copy = some copy ↔ _
    cases henabled : enabled with
    | false =>
      rw [get_of_disabled (h.enabled_eq.trans henabled), hcopy, henabled]
      simp
    | true =>
      rw [copy_get (h.enabled_eq.trans henabled), Option.filter_eq_some_iff, hcopy, henabled,
        h.ttl_eq, decide_eq_true_eq]
      simp
  | generation =>
    have hkept : Kept ttl (history ++ [⟨db, now, .generation⟩]) db copy ↔
        Kept ttl history db copy := by
      rw [kept_snoc]
      simp [landing, Call.Lands, Demand.invalidates]
    rw [hkept]
    exact hcopy
  | put generation props =>
    change ((c.put db generation props now).2.slot db).copy = some copy ↔ _
    rw [slot_put, h.enabled_eq, h.generation_eq]
    by_cases hgeneration : generation = invalidations db history
    · -- The put lands, so what was kept before is not kept any more.
      subst hgeneration
      have hkept :
          Kept ttl (history ++ [⟨db, now, .put (invalidations db history) props⟩]) db copy ↔
            (⟨props, now⟩ : Copy) = copy := by
        obtain ⟨props', since⟩ := copy
        rw [kept_snoc]
        simp [landing, Call.Lands, and_comm]
      rw [hkept]
      cases enabled <;> simp [hcopy]
    · have hkept : Kept ttl (history ++ [⟨db, now, .put generation props⟩]) db copy ↔
          Kept ttl history db copy := by
        rw [kept_snoc]
        simp [landing, Call.Lands, Demand.invalidates, hgeneration]
      rw [hkept, if_neg (by simp [Ne.symm hgeneration])]
      exact hcopy
  | invalidate =>
    have hkept : ¬Kept ttl (history ++ [⟨db, now, .invalidate⟩]) db copy := by
      rw [kept_snoc]
      simp [landing, Demand.invalidates]
    simp [Cache.perform, slot_invalidate, hkept]

/-- One more call is recalled. -/
theorem perform (h : Recalls enabled ttl history c) (call : Call) :
    Recalls enabled ttl (history ++ [call]) (c.perform call).2 where
  enabled_eq := (enabled_perform c call).trans h.enabled_eq
  ttl_eq := (ttl_perform c call).trans h.ttl_eq
  ordered := ordered_perform h.ordered call
  generation_eq := fun db => by rw [generation_perform, h.generation_eq, invalidations_snoc]
  copy_iff := by
    intro db copy
    by_cases hdb : call.db = db
    · subst hdb
      exact h.copy_perform call copy
    · rw [slot_perform_of_ne c hdb, kept_snoc_of_ne hdb]
      exact h.copy_iff db copy

/-- A history that goes on is recalled to its end. -/
theorem replay (h : Recalls enabled ttl history c) (later : List Call) :
    Recalls enabled ttl (history ++ later) (c.replay later) := by
  induction later generalizing history c with
  | nil => rwa [List.append_nil]
  | cons call later ih =>
    have hrest := ih (h.perform call)
    rwa [List.append_assoc] at hrest

end Recalls

/-- The names under which a cache holds a copy. -/
def held (c : Cache) : List String := Keyed.keys (c.slots.filter fun entry => entry.2.copy.isSome)

theorem count_eq_length_held (c : Cache) : c.count = c.held.length := by
  simp [count, held, Keyed.keys]

theorem nodup_held {c : Cache} (h : Keyed.Ordered c.slots) : c.held.Nodup :=
  Keyed.Ordered.nodup_keys (List.Pairwise.filter _ h)

theorem mem_held_iff {c : Cache} (h : Keyed.Ordered c.slots) :
    db ∈ c.held ↔ ∃ copy, (c.slot db).copy = some copy := by
  simp only [held, Keyed.keys, List.mem_map, List.mem_filter, Option.isSome_iff_exists]
  constructor
  · rintro ⟨⟨name, kept⟩, ⟨hm, hcopy⟩, rfl⟩
    rw [slot, h.get?_of_mem hm]
    exact hcopy
  · rintro ⟨copy, hcopy⟩
    rw [slot] at hcopy
    cases hslot : c.slots.get? db with
    | none => simp [hslot] at hcopy
    | some kept =>
      rw [hslot] at hcopy
      exact ⟨(db, kept), ⟨Keyed.mem_of_get? hslot, copy, hcopy⟩, rfl⟩

/-- What a call is answered depends on the slot of its name. -/
theorem reply_congr {c c' : Cache} (henabled : c.enabled = c'.enabled) (httl : c.ttl = c'.ttl)
    (hslot : c.slot call.db = c'.slot call.db) : (c.perform call).1 = (c'.perform call).1 := by
  rw [perform, perform]
  cases call.demand with
  | get =>
    refine congrArg Reply.props (Option.ext fun props => ?_)
    rw [get_eq_some_iff, get_eq_some_iff, henabled, httl, hslot]
  | generation => simp only [Cache.generation, hslot]
  | put generation props =>
    refine congrArg Reply.stored (Bool.eq_iff_iff.mpr ?_)
    rw [put_iff, put_iff, henabled, Cache.generation, hslot, Cache.generation]
  | invalidate => rfl

/-- A copy that was put last and is good now was good at every look-up until now. -/
theorem LastPut.kept {now : Nat} (h : LastPut db history before copy later)
    (hclock : ∀ call ∈ history, call.now ≤ now) (hfresh : copy.FreshAt ttl now) :
    Kept ttl history db copy := by
  refine ⟨before, later, h, fun call hm _ _ => ?_⟩
  have hle : call.now ≤ now := hclock call (by simp [h.split, hm])
  exact Nat.lt_of_le_of_lt (Nat.sub_le_sub_right hle copy.since) hfresh

/-- The calls that were made on a cache, from when it was empty, tell what it answers and what it
holds: the generation of a name is the number of its invalidations; a copy is stored if its
generation is that number, and refused without effect if it is not; a look-up answers the last copy
that was stored, until the name is invalidated or the copy is too old; every name that is kept is
counted, once; and a call about one name changes neither the slot of another one nor what calls
about that one are answered. -/
theorem replay_refines (enabled : Bool) (ttl : Nat) (history : List Call) (db : String) (now : Nat)
    (hclock : ∀ call ∈ history, call.now ≤ now) :
    let c := (Cache.empty enabled ttl).replay history
    c.generation db = invalidations db history ∧
      (∀ generation props,
        ((c.put db generation props now).1 = true ↔
          enabled = true ∧ generation = invalidations db history) ∧
        ((c.put db generation props now).1 = true →
          (c.put db generation props now).2.slot db = ⟨generation, some ⟨props, now⟩⟩) ∧
        ((c.put db generation props now).1 = false → (c.put db generation props now).2 = c)) ∧
      (∀ props, (c.get db now).1 = some props ↔
        enabled = true ∧ ∃ before since later, LastPut db history before ⟨props, since⟩ later ∧
          Copy.FreshAt ttl ⟨props, since⟩ now) ∧
      (∃ names : List String, names.Nodup ∧ c.count = names.length ∧
        ∀ name, name ∈ names ↔ enabled = true ∧ ∃ copy, Kept ttl history name copy) ∧
      ∀ call, call.db ≠ db → (c.perform call).2.slot db = c.slot db ∧
        ∀ later demand, ((c.perform call).2.perform ⟨db, later, demand⟩).1 =
          (c.perform ⟨db, later, demand⟩).1 := by
  intro c
  have h : Recalls enabled ttl history c := (Recalls.empty enabled ttl).replay history
  refine ⟨h.generation_eq db, fun generation props => ⟨?_, ?_, ?_⟩, fun props => ?_,
    ⟨c.held, nodup_held h.ordered, count_eq_length_held c, fun name => ?_⟩, fun call hdb => ?_⟩
  · rw [put_iff, h.enabled_eq, h.generation_eq]
  · intro haccepted
    rw [put_iff] at haccepted
    rw [slot_put, if_pos (by simp [haccepted])]
  · intro hrefused
    rw [put] at hrefused ⊢
    split at hrefused
    · cases hrefused
    · rename_i hgeneration
      rw [if_neg hgeneration]
  · rw [get_eq_some_iff, h.enabled_eq, h.ttl_eq]
    refine and_congr_right fun henabled => ⟨?_, ?_⟩
    · rintro ⟨copy, hcopy, hfresh, rfl⟩
      obtain ⟨-, before, later, hlast, -⟩ := (h.copy_iff db copy).mp hcopy
      exact ⟨before, copy.since, later, hlast, hfresh⟩
    · rintro ⟨before, since, later, hlast, hfresh⟩
      have hkept := hlast.kept hclock hfresh
      exact ⟨⟨props, since⟩, (h.copy_iff db _).mpr ⟨henabled, hkept⟩, hfresh, rfl⟩
  · rw [mem_held_iff h.ordered]
    simp only [h.copy_iff, exists_and_left]
  · have hslot := slot_perform_of_ne c hdb
    refine ⟨hslot, fun later demand => ?_⟩
    exact reply_congr (enabled_perform c call) (ttl_perform c call) hslot

/-- Calls about a database that is read and then written, so that the copy of the reader comes too
late and is read again. -/
def lateCopyCalls : List Call :=
  [⟨"shop", 1, .put 0 [("v", .null)]⟩, ⟨"store", 1, .get⟩, ⟨"shop", 2, .invalidate⟩,
    ⟨"shop", 3, .put 0 [("v", .null)]⟩, ⟨"shop", 4, .put 1 [("v", .bool true)]⟩]

/-- The late copy is refused, and the later one is answered until it is too old. -/
theorem replay_refines_late :
    let c := (Cache.empty true 1).replay lateCopyCalls
    c.generation "shop" = 1 ∧ (c.put "shop" 0 [("v", .null)] 9).1 = false ∧
      (c.get "shop" 9).1 = some [("v", .bool true)] := by
  have hclock : ∀ call ∈ lateCopyCalls, call.now ≤ 9 := by
    simp [lateCopyCalls]
  obtain ⟨hgeneration, hput, hget, -, -⟩ := replay_refines true 1 lateCopyCalls "shop" 9 hclock
  refine ⟨hgeneration, ?_, (hget _).mpr ⟨rfl, lateCopyCalls.take 4, 4, [], ?_, by decide⟩⟩
  · refine Bool.eq_false_iff.mpr fun haccepted => ?_
    have hstale := ((hput 0 _).1.mp haccepted).2
    cases hstale
  · exact LastPut.self "shop" (lateCopyCalls.take 4) ⟨[("v", .bool true)], 4⟩

end DocumentGateway.Store.Cache

import DocumentGateway.Gateway.Shutdown

/-!
# Whom the shutdown signal reaches

Every subscriber who listens is behind by some number of signals. Whatever others do moves that
number only where they trigger, and then by one; a look tells the number and makes up for it. So one
trigger stops all who listen, whoever else looks, joins or leaves meanwhile, and nothing stops those
who came after the last one.
-/

namespace DocumentGateway.Gateway.Shutdown

/-- What can be done with the signal. -/
inductive Op where
  | subscribe
  | trigger
  | leave (index : Nat)
  | poll (index : Nat)
  deriving DecidableEq

/-- Do one thing with the signal. -/
def apply (s : Shutdown) : Op → Shutdown
  | .subscribe => s.subscribe
  | .trigger => s.trigger
  | .leave index => s.leave index
  | .poll index => (s.poll index).2

/-- Do one thing after the other. -/
def run (s : Shutdown) (ops : List Op) : Shutdown := ops.foldl apply s

/-- What is done by a subscriber, and not by anybody else. -/
def Op.isBy (index : Nat) : Op → Bool
  | .subscribe | .trigger => false
  | .leave other | .poll other => other == index

/-- A subscriber listens, and this many signals came since it looked. -/
def Behind (s : Shutdown) (index behind : Nat) : Prop :=
  ∃ seen, s.seen? index = some seen ∧ seen + behind = s.sent

/-- What one who is behind by some number of signals finds. -/
def Notice.ofBehind : Nat → Notice
  | 0 => .empty
  | 1 => .received
  | missed + 2 => .lagged (missed + 1)

/-- By how many signals one is behind after a look: the latest one is still to come for those who
were told how many they missed. -/
def behindAfterLook : Nat → Nat
  | 0 | 1 => 0
  | _ + 2 => 1

theorem isSignal_ofBehind (behind : Nat) :
    (Notice.ofBehind behind).isSignal = true ↔ 0 < behind := by
  match behind with
  | 0 => simp [Notice.ofBehind, Notice.isSignal]
  | 1 => simp [Notice.ofBehind, Notice.isSignal]
  | missed + 2 => simp [Notice.ofBehind, Notice.isSignal]

variable {s : Shutdown} {index behind : Nat}

theorem seen?_set_self {value : Option Nat} (h : index < s.subscribers.length) :
    Shutdown.seen? ⟨s.sent, s.subscribers.set index value⟩ index = value := by
  simp [seen?, h]

theorem seen?_set_of_ne {value : Option Nat} {other : Nat} (h : other ≠ index) :
    Shutdown.seen? ⟨s.sent, s.subscribers.set other value⟩ index = s.seen? index := by
  simp [seen?, h]

theorem lt_length_of_seen? {seen : Nat} (h : s.seen? index = some seen) :
    index < s.subscribers.length := by
  rw [seen?, Option.join_eq_some_iff] at h
  exact (List.getElem?_eq_some_iff.mp h).1

/-- Where a subscriber listens, somebody does. -/
theorem listening_pos {seen : Nat} (h : s.seen? index = some seen) : 0 < s.listening := by
  rw [seen?, Option.join_eq_some_iff] at h
  have hmem : some seen ∈ s.subscribers.filter Option.isSome :=
    List.mem_filter.mpr ⟨List.mem_of_getElem? h, rfl⟩
  exact List.length_pos_of_mem hmem

/-- A new subscriber is behind by nothing. -/
theorem behind_subscribe (s : Shutdown) : s.subscribe.Behind s.subscribers.length 0 :=
  ⟨s.sent, by simp [subscribe, seen?], rfl⟩

/-- A look tells by how many signals one was behind, and makes up for them. -/
theorem Behind.poll (h : s.Behind index behind) :
    (s.poll index).1 = some (Notice.ofBehind behind) ∧
      (s.poll index).2.Behind index (behindAfterLook behind) := by
  obtain ⟨seen, hseen, hsent⟩ := h
  have hindex := lt_length_of_seen? hseen
  rw [Shutdown.poll, hseen]
  match behind with
  | 0 =>
    have hall : seen = s.sent := hsent
    simp only [if_pos hall]
    exact ⟨rfl, seen, hseen, hsent⟩
  | 1 =>
    have hnot : seen ≠ s.sent := by omega
    simp only [if_neg hnot, if_pos hsent]
    exact ⟨rfl, s.sent, seen?_set_self hindex, rfl⟩
  | missed + 2 =>
    have hnot : seen ≠ s.sent := by omega
    have hmore : seen + 1 ≠ s.sent := by omega
    have hmissed : s.sent - 1 - seen = missed + 1 := by omega
    simp only [if_neg hnot, if_neg hmore, hmissed]
    refine ⟨rfl, s.sent - 1, seen?_set_self hindex, ?_⟩
    change s.sent - 1 + 1 = s.sent
    omega

/-- A look by another leaves behind what it was. -/
theorem Behind.poll_other {other : Nat} (h : s.Behind index behind) (hne : other ≠ index) :
    (s.poll other).2.Behind index behind := by
  obtain ⟨seen, hseen, hsent⟩ := h
  rw [Shutdown.poll]
  split
  · exact ⟨seen, hseen, hsent⟩
  · split
    · exact ⟨seen, hseen, hsent⟩
    · split <;> exact ⟨seen, (seen?_set_of_ne hne).trans hseen, hsent⟩

/-- What others do leaves one behind by one more where they trigger, and as before otherwise. -/
theorem Behind.apply {op : Op} (h : s.Behind index behind) (hop : op.isBy index = false) :
    (s.apply op).Behind index (behind + if op = .trigger then 1 else 0) := by
  cases op with
  | subscribe =>
    obtain ⟨seen, hseen, hsent⟩ := h
    refine ⟨seen, ?_, hsent⟩
    rw [← hseen, Shutdown.apply, subscribe, seen?, seen?,
      List.getElem?_append_left (lt_length_of_seen? hseen)]
  | trigger =>
    obtain ⟨seen, hseen, hsent⟩ := h
    have hlistening : s.listening ≠ 0 := Nat.pos_iff_ne_zero.mp (listening_pos hseen)
    rw [Shutdown.apply, trigger, if_neg hlistening]
    refine ⟨seen, hseen, ?_⟩
    change seen + (behind + 1) = s.sent + 1
    omega
  | leave other =>
    obtain ⟨seen, hseen, hsent⟩ := h
    have hne : other ≠ index := by simpa [Op.isBy] using hop
    exact ⟨seen, (seen?_set_of_ne hne).trans hseen, hsent⟩
  | poll other =>
    have hne : other ≠ index := by simpa [Op.isBy] using hop
    exact h.poll_other hne

/-- Through whatever others do, one falls behind by their triggers. -/
theorem Behind.run {ops : List Op} (h : s.Behind index behind)
    (hops : ∀ op ∈ ops, op.isBy index = false) :
    (s.run ops).Behind index (behind + ops.count .trigger) := by
  induction ops generalizing s behind with
  | nil => exact h
  | cons op ops ih =>
    obtain ⟨hop, hops⟩ := List.forall_mem_cons.mp hops
    have hrun := ih (h.apply hop) hops
    rw [List.count_cons]
    simp only [beq_iff_eq]
    rwa [show behind + (ops.count .trigger + if op = .trigger then 1 else 0) =
      behind + (if op = .trigger then 1 else 0) + ops.count .trigger by omega]

/-- A subscriber finds the triggers since it subscribed, whatever else others did: nothing, the
signal, or how many it missed. -/
theorem poll_run_subscribe (s : Shutdown) {ops : List Op}
    (hops : ∀ op ∈ ops, op.isBy s.subscribers.length = false) :
    ((s.subscribe.run ops).poll s.subscribers.length).1 =
      some (Notice.ofBehind (ops.count .trigger)) := by
  have hbehind := s.behind_subscribe.run hops
  rw [Nat.zero_add] at hbehind
  exact hbehind.poll.1

/-- One trigger stops a subscriber, and nothing else does. -/
theorem stops_iff_triggered (s : Shutdown) {ops : List Op}
    (hops : ∀ op ∈ ops, op.isBy s.subscribers.length = false) :
    ((s.subscribe.run ops).poll s.subscribers.length).1.any Notice.isSignal = true ↔
      .trigger ∈ ops := by
  rw [poll_run_subscribe s hops, Option.any_some, isSignal_ofBehind, List.count_pos_iff]

/-- No subscriber has seen more signals than were sent. -/
def Sound (s : Shutdown) : Prop := ∀ seen, some seen ∈ s.subscribers → seen ≤ s.sent

theorem sound_set (h : s.Sound) {value : Option Nat} (hvalue : ∀ seen ∈ value, seen ≤ s.sent) :
    Sound ⟨s.sent, s.subscribers.set index value⟩ := by
  intro seen hseen
  rcases List.mem_or_eq_of_mem_set hseen with hold | hnew
  · exact h seen hold
  · exact hvalue seen hnew.symm

/-- Nothing that is done puts a subscriber ahead of the signals. -/
theorem Sound.apply (h : s.Sound) (op : Op) : (s.apply op).Sound := by
  cases op with
  | subscribe =>
    intro seen hseen
    rcases List.mem_append.mp hseen with hold | hnew
    · exact h seen hold
    · cases List.mem_singleton.mp hnew
      exact Nat.le_refl s.sent
  | trigger =>
    rw [Shutdown.apply, trigger]
    split
    · exact h
    · exact fun seen hseen => Nat.le_succ_of_le (h seen hseen)
  | leave other => exact sound_set h nofun
  | poll other =>
    rw [Shutdown.apply, Shutdown.poll]
    split
    · exact h
    · split
      · exact h
      · split
        · exact sound_set h fun seen hseen => Nat.le_of_eq (Option.some.inj hseen).symm
        · refine sound_set h fun seen hseen => ?_
          rw [← Option.some.inj hseen]
          exact Nat.sub_le s.sent 1

theorem Sound.run (h : s.Sound) (ops : List Op) : (s.run ops).Sound := by
  induction ops generalizing s with
  | nil => exact h
  | cons op ops ih => exact ih (h.apply op)

/-- One trigger reaches all who listen at the time, whatever was done before and whatever others do
until they look. -/
theorem trigger_reaches_all (before after : List Op) {seen : Nat}
    (hlistens : (initial.run before).seen? index = some seen)
    (hafter : ∀ op ∈ after, op.isBy index = false) :
    ((((initial.run before).trigger).run after).poll index).1.any Notice.isSignal = true := by
  have hsound : (initial.run before).Sound := Sound.run (by simp [Sound, initial]) before
  have hmem : some seen ∈ (initial.run before).subscribers :=
    List.mem_of_getElem? (Option.join_eq_some_iff.mp hlistens)
  have hbehind : (initial.run before).Behind index ((initial.run before).sent - seen) :=
    ⟨seen, hlistens, Nat.add_sub_cancel' (hsound seen hmem)⟩
  have htriggered : (initial.run before).trigger.Behind index
      ((initial.run before).sent - seen + 1) := hbehind.apply (rfl : Op.trigger.isBy index = false)
  rw [(htriggered.run hafter).poll.1, Option.any_some, isSignal_ofBehind]
  omega

end DocumentGateway.Gateway.Shutdown

import DocumentGateway.Json.Parser
import DocumentGateway.Text.Utf8

/-!
# What is read is legible

Whatever text is read, the fields of every object in its value are in the order of their names, each
name once, also where the text repeats names or has them in any order; its containers nest no deeper
than the reader follows, and its numbers are some that a word spells. The reader keeps this of all
that it has read so far: of the containers that are open and of the value that is complete.
-/

namespace DocumentGateway.Json

/-- A value whose containers nest at most to a depth, whose fields of objects are in order
everywhere, each name once, and whose numbers are legal. -/
inductive Value.Legible (legal : Number → Prop) : Nat → Value → Prop where
  | null {depth : Nat} : Legible legal depth .null
  | bool {depth : Nat} (b : Bool) : Legible legal depth (.bool b)
  | number {depth : Nat} {n : Number} (spelled : legal n) : Legible legal depth (.number n)
  | string {depth : Nat} (s : String) : Legible legal depth (.string s)
  | array {depth : Nat} {items : List Value} (inside : ∀ v ∈ items, v.Legible legal depth) :
      Legible legal (depth + 1) (.array items)
  | object {depth : Nat} {fields : List (String × Value)} (ordered : Keyed.Ordered fields)
      (inside : ∀ field ∈ fields, field.2.Legible legal depth) :
      Legible legal (depth + 1) (.object fields)

/-- The fields of an object are in order. -/
theorem Value.Legible.ordered {legal : Number → Prop} {depth : Nat} {fields : List (String × Value)}
    (h : Value.Legible legal depth (.object fields)) : Keyed.Ordered fields := by
  cases h with
  | object ordered _ => exact ordered

namespace Value.Legible

variable {legal : Number → Prop} {depth : Nat} {d changes : Document}

theorem object_nil : (Value.object []).Legible legal (depth + 1) := .object Keyed.ordered_nil nofun

/-- A field may be written if its value leaves room for the object around it. -/
theorem insert (h : (Value.object d).Legible legal (depth + 1)) (key : String) {v : Value}
    (hv : v.Legible legal depth) : (Value.object (d.insert key v)).Legible legal (depth + 1) := by
  cases h with
  | object ordered inside =>
    refine .object (ordered.insert key v) fun field hm => ?_
    rcases Keyed.mem_insert hm with rfl | hm
    · exact hv
    · exact inside field hm

theorem filterKeys (h : (Value.object d).Legible legal depth) (keep : String → Bool) :
    (Value.object (d.filterKeys keep)).Legible legal depth := by
  cases h with
  | object ordered inside =>
    exact .object (ordered.filterKeys keep) fun field hm => inside field (List.mem_filter.mp hm).1

theorem overlay (h : (Value.object d).Legible legal depth)
    (hchanges : (Value.object changes).Legible legal depth) :
    (Value.object (Keyed.overlay d changes)).Legible legal depth := by
  cases h with
  | object ordered inside =>
    cases hchanges with
    | object _ inside' =>
      refine .object (ordered.overlay changes) fun field hm => ?_
      rcases Keyed.mem_overlay hm with hm | hm
      · exact inside' field hm
      · exact inside field hm

end Value.Legible

/-- What has been read of the containers that are open is legible, and so many more may be opened in
the innermost one. -/
inductive Nested (legal : Number → Prop) : Nat → List Frame → Prop where
  | nil : Nested legal Reader.maxDepth []
  | array {depth : Nat} {items : List Value} {frames : List Frame}
      (inside : ∀ v ∈ items, v.Legible legal depth) (outside : Nested legal (depth + 1) frames) :
      Nested legal depth (.array items :: frames)
  | object {depth : Nat} {fields : Document} {key : Option String} {frames : List Frame}
      (ordered : Keyed.Ordered fields) (inside : ∀ field ∈ fields, field.2.Legible legal depth)
      (outside : Nested legal (depth + 1) frames) :
      Nested legal depth (.object fields key :: frames)

theorem Nested.length_add {legal : Number → Prop} {depth : Nat} {frames : List Frame}
    (h : Nested legal depth frames) : frames.length + depth = Reader.maxDepth := by
  induction h with
  | nil => rfl
  | array _ _ ih | object _ _ _ ih =>
    rw [List.length_cons]
    omega

namespace Reader

variable {legal : Number → Prop} {number? : List Char → Option Number}

/-- All that has been read is legible. -/
structure Legible (legal : Number → Prop) (r : Reader) : Prop where
  frames : ∃ depth, Nested legal depth r.frames
  finished : ∀ v, r.focus = .finished v → v.Legible legal maxDepth

theorem legible_start : start.Legible legal :=
  ⟨⟨maxDepth, .nil⟩, nofun⟩

/-- Whatever is read next, the containers that are open stay as they are until it is complete. -/
theorem Legible.refocus {r : Reader} (h : r.Legible legal) {focus : Focus}
    (hf : ∀ v, focus ≠ .finished v) : Legible legal ⟨r.frames, focus⟩ :=
  ⟨h.frames, fun v hv => absurd hv (hf v)⟩

theorem legible_complete {frames : List Frame} {v : Value} {r : Reader} {depth : Nat}
    (hf : Nested legal depth frames) (hv : v.Legible legal depth)
    (h : complete frames v = some r) : r.Legible legal := by
  cases hf with
  | nil =>
    obtain rfl := Option.some.inj h
    refine ⟨⟨maxDepth, .nil⟩, fun value he => ?_⟩
    cases he
    exact hv
  | array inside outside =>
    obtain rfl := Option.some.inj h
    exact ⟨⟨depth, .array (List.forall_mem_cons.mpr ⟨hv, inside⟩) outside⟩, nofun⟩
  | @object _ fields key _ ordered inside outside =>
    cases key with
    | none => cases h
    | some key =>
      obtain rfl := Option.some.inj h
      refine ⟨⟨depth, .object (ordered.insert key v) (fun field hm => ?_) outside⟩, nofun⟩
      rcases Keyed.mem_insert hm with rfl | hm
      · exact hv
      · exact inside field hm

theorem legible_closeArray {r r' : Reader} (h : r.Legible legal)
    (hs : stepBetween.closeArray r = some r') : r'.Legible legal := by
  obtain ⟨depth, hf⟩ := h.frames
  unfold stepBetween.closeArray at hs
  split at hs
  · rename_i items rest hframes
    rw [hframes] at hf
    cases hf with
    | array inside outside =>
      exact legible_complete outside (.array fun item hm => inside item (List.mem_reverse.mp hm)) hs
  · cases hs

theorem legible_closeObject {r r' : Reader} (h : r.Legible legal)
    (hs : stepBetween.closeObject r = some r') : r'.Legible legal := by
  obtain ⟨depth, hf⟩ := h.frames
  unfold stepBetween.closeObject at hs
  split at hs
  · rename_i fields rest hframes
    rw [hframes] at hf
    cases hf with
    | object ordered inside outside => exact legible_complete outside (.object ordered inside) hs
  · cases hs

/-- A container is opened only where there is room for one more. -/
theorem legible_descend {r r' : Reader} {frame : Frame} {expect : Expect} (h : r.Legible legal)
    (hf : ∀ depth, Nested legal (depth + 1) r.frames → Nested legal depth (frame :: r.frames))
    (hs : r.descend frame expect = some r') : r'.Legible legal := by
  obtain ⟨depth, hnested⟩ := h.frames
  unfold descend at hs
  split at hs
  · rename_i hroom
    obtain rfl := Option.some.inj hs
    have hlength := hnested.length_add
    cases depth with
    | zero => omega
    | succ depth => exact ⟨⟨depth, hf depth hnested⟩, nofun⟩
  · cases hs

theorem legible_beginString {r r' : Reader} {expect : Expect} (h : r.Legible legal)
    (hs : r.beginString expect = some r') : r'.Legible legal := by
  cases expect with
  | value | firstItem | key | firstKey =>
    obtain rfl := Option.some.inj hs
    exact h.refocus (by simp)
  | colon | separator => cases hs

private theorem legible_ite {c : Prop} [Decidable c] {a b : Option Reader} {r : Reader}
    (ha : a = some r → r.Legible legal) (hb : b = some r → r.Legible legal)
    (h : (if c then a else b) = some r) : r.Legible legal := by
  split at h
  · exact ha h
  · exact hb h

private theorem legible_none {r : Reader} (h : none = some r) : r.Legible legal := nomatch h

theorem Legible.of_between {r r' : Reader} (h : r.Legible legal) {expect : Expect}
    (hs : some ⟨r.frames, .between expect⟩ = some r') : r'.Legible legal := by
  obtain rfl := Option.some.inj hs
  exact h.refocus (by simp)

theorem legible_stepBetween {r r' : Reader} {expect : Expect} {c : Char} (h : r.Legible legal)
    (hs : r.stepBetween expect c = some r') : r'.Legible legal := by
  have harray : ∀ depth, Nested legal (depth + 1) r.frames →
      Nested legal depth (.array [] :: r.frames) := fun _ => .array nofun
  have hobject : ∀ depth, Nested legal (depth + 1) r.frames →
      Nested legal depth (.object [] none :: r.frames) := fun _ => .object Keyed.ordered_nil nofun
  unfold stepBetween at hs
  refine legible_ite h.of_between (legible_ite (legible_beginString h) fun hs => ?_) hs
  cases expect with
  | value | firstItem =>
    refine legible_ite (legible_descend h harray) (legible_ite (legible_descend h hobject)
      (legible_ite (fun hword => ?_) (legible_ite (legible_closeArray h) legible_none))) hs
    obtain rfl := Option.some.inj hword
    exact h.refocus (by simp)
  | firstKey => exact legible_ite (legible_closeObject h) legible_none hs
  | key => cases hs
  | colon => exact legible_ite h.of_between legible_none hs
  | separator =>
    refine legible_ite (legible_closeArray h) (legible_ite (legible_closeObject h)
      (legible_ite (fun hcomma => ?_) legible_none)) hs
    split at hcomma
    · exact h.of_between hcomma
    · exact h.of_between hcomma
    · cases hcomma

theorem legible_finishString {r r' : Reader} {isKey : Bool} {chars : List Char}
    (h : r.Legible legal) (hs : r.finishString isKey chars = some r') : r'.Legible legal := by
  obtain ⟨depth, hf⟩ := h.frames
  unfold finishString at hs
  refine legible_ite (fun hs => ?_) (legible_complete hf (.string _)) hs
  split at hs
  · rename_i fields rest hframes
    obtain rfl := Option.some.inj hs
    rw [hframes] at hf
    cases hf with
    | object ordered inside outside => exact ⟨⟨depth, .object ordered inside outside⟩, nofun⟩
  · cases hs

theorem Legible.of_text {r r' : Reader} (h : r.Legible legal) {isKey : Bool} {chars : List Char}
    {state : InString} (hs : some ⟨r.frames, .text isKey chars state⟩ = some r') :
    r'.Legible legal := by
  obtain rfl := Option.some.inj hs
  exact h.refocus (by simp)

theorem legible_stepString {r r' : Reader} {isKey : Bool} {chars : List Char} {state : InString}
    {c : Char} (h : r.Legible legal) (hs : r.stepString isKey chars state c = some r') :
    r'.Legible legal := by
  cases state with
  | plain =>
    exact legible_ite (legible_finishString h) (legible_ite h.of_text
      (legible_ite legible_none h.of_text)) hs
  | escape high =>
    refine legible_ite h.of_text (legible_ite legible_none fun hs => ?_) hs
    obtain ⟨e, _, he⟩ := Option.map_eq_some_iff.mp hs
    exact h.of_text (congrArg some he)
  | code high left value =>
    simp only [stepString] at hs
    split at hs
    · cases hs
    · refine legible_ite (fun hs => ?_) h.of_text hs
      obtain ⟨next, _, hn⟩ := Option.map_eq_some_iff.mp hs
      exact h.of_text (congrArg some hn)
  | pair high => exact legible_ite h.of_text legible_none hs

/-- The numbers that words spell are legal. -/
abbrev Spells (number? : List Char → Option Number) (legal : Number → Prop) : Prop :=
  ∀ word n, number? word = some n → legal n

theorem legible_wordValue (hlegal : Spells number? legal) {word : List Char} {v : Value}
    {depth : Nat} (h : wordValue? number? word = some v) : v.Legible legal depth := by
  unfold wordValue? at h
  split at h
  · obtain rfl := Option.some.inj h
    exact .null
  · split at h
    · obtain rfl := Option.some.inj h
      exact .bool true
    · split at h
      · obtain rfl := Option.some.inj h
        exact .bool false
      · obtain ⟨n, hn, rfl⟩ := Option.map_eq_some_iff.mp h
        exact .number (hlegal word n hn)

theorem legible_finishWord (hlegal : Spells number? legal) {r r' : Reader} {chars : List Char}
    (h : r.Legible legal) (hs : r.finishWord number? chars = some r') : r'.Legible legal := by
  obtain ⟨depth, hf⟩ := h.frames
  obtain ⟨v, hv, hs⟩ := Option.bind_eq_some_iff.mp hs
  exact legible_complete hf (legible_wordValue hlegal hv) hs

theorem legible_afterValue {r r' : Reader} {c : Char} (h : r.Legible legal)
    (hs : step.afterValue r c = some r') : r'.Legible legal := by
  unfold step.afterValue at hs
  split at hs
  · exact legible_stepBetween h hs
  · rename_i v hv
    refine legible_ite (fun hs => ?_) legible_none hs
    obtain rfl := Option.some.inj hs
    refine ⟨⟨maxDepth, .nil⟩, fun value he => ?_⟩
    cases he
    exact h.finished v hv
  · cases hs

/-- Reading one more character keeps everything legible. -/
theorem legible_step (hlegal : Spells number? legal) {r r' : Reader} {c : Char}
    (h : r.Legible legal) (hs : r.step number? c = some r') : r'.Legible legal := by
  unfold step at hs
  split at hs
  · exact legible_stepBetween h hs
  · refine legible_ite (fun hs => ?_) (fun hs => ?_) hs
    · obtain rfl := Option.some.inj hs
      exact h.refocus (by simp)
    · obtain ⟨between, hword, hs⟩ := Option.bind_eq_some_iff.mp hs
      exact legible_afterValue (legible_finishWord hlegal h hword) hs
  · exact legible_stepString h hs
  · exact legible_afterValue h hs

theorem legible_foldlM (hlegal : Spells number? legal) (s : List Char) {r r' : Reader}
    (h : r.Legible legal) (hs : s.foldlM (step number?) r = some r') : r'.Legible legal := by
  induction s generalizing r with
  | nil =>
    obtain rfl := Option.some.inj hs
    exact h
  | cons c rest ih =>
    rw [List.foldlM_cons] at hs
    obtain ⟨between, hfirst, hrest⟩ := Option.bind_eq_some_iff.mp hs
    exact ih (legible_step hlegal h hfirst) hrest

theorem legible_finish (hlegal : Spells number? legal) {r : Reader} {v : Value}
    (h : r.Legible legal) (hf : r.finish number? = some v) : v.Legible legal maxDepth := by
  unfold finish at hf
  split at hf
  · rename_i value hv
    obtain rfl := Option.some.inj hf
    exact h.finished _ hv
  · split at hf
    · rename_i frames value hword
      obtain rfl := Option.some.inj hf
      exact (legible_finishWord hlegal h hword).finished _ rfl
    · cases hf
  · cases hf

end Reader

/-- Every value that is read is legible. -/
theorem legible_of_readBy {number? : List Char → Option Number} {legal : Number → Prop}
    (hlegal : Reader.Spells number? legal) {s : List Char} {v : Value}
    (h : readBy number? s = some v) : v.Legible legal Reader.maxDepth := by
  obtain ⟨r, hr, hf⟩ := Option.bind_eq_some_iff.mp h
  exact Reader.legible_finish hlegal (Reader.legible_foldlM hlegal s Reader.legible_start hr) hf

/-- The fields of every object that is read from bytes are in order. -/
theorem ordered_of_read {bytes : Bytes} {fields : Keyed Value}
    (h : (Text.Utf8.decode? bytes).bind read? = some (.object fields)) : fields.Ordered := by
  obtain ⟨chars, _, hvalue⟩ := Option.bind_eq_some_iff.mp h
  have hlegible : (Value.object fields).Legible (fun _ => True) Reader.maxDepth :=
    legible_of_readBy (fun _ _ _ => trivial) hvalue
  exact hlegible.ordered

end DocumentGateway.Json

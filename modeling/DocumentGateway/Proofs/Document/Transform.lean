import DocumentGateway.Document.Transform
import Mathlib.Data.List.Forall2
import Mathlib.Order.WellFounded

/-!
# Which definitions of transforms are accepted

A value is well formed if it is an object with a string as its name and with words for a phase and
for a scope. What may be wrong with a value is said without regard to what else is wrong with it;
the problems are ranked by what is looked at first. The definitions of a document are read exactly
if all of them are well formed, and then nothing is lost. Otherwise what is reported is the first
problem of the first definition that has one.
-/

namespace DocumentGateway.Transform

/-- The word for a phase. -/
def Phase.word : Phase → String
  | .request => "REQUEST"
  | .response => "RESPONSE"

/-- The word for a scope. -/
def Scope.word : Scope → String
  | .this => "THIS"
  | .children => "CHILDREN"

theorem Phase.ofWord?_word (phase : Phase) : Phase.ofWord? phase.word = some phase := by
  cases phase <;> rfl

theorem Phase.ofWord?_eq_some_iff {word : String} {phase : Phase} :
    Phase.ofWord? word = some phase ↔ word = phase.word := by
  refine ⟨fun h => ?_, fun h => h ▸ phase.ofWord?_word⟩
  unfold Phase.ofWord? at h
  split at h <;> cases h <;> rfl

/-- Another word names no phase. -/
theorem Phase.ofWord?_of_unknown {word : String} (h : ∀ phase : Phase, word ≠ phase.word) :
    Phase.ofWord? word = none :=
  Option.eq_none_iff_forall_ne_some.mpr fun phase hread =>
    h phase (Phase.ofWord?_eq_some_iff.mp hread)

theorem Scope.ofWord?_word (scope : Scope) : Scope.ofWord? scope.word = some scope := by
  cases scope <;> rfl

theorem Scope.ofWord?_eq_some_iff {word : String} {scope : Scope} :
    Scope.ofWord? word = some scope ↔ word = scope.word := by
  refine ⟨fun h => ?_, fun h => h ▸ scope.ofWord?_word⟩
  unfold Scope.ofWord? at h
  split at h <;> cases h <;> rfl

/-- Another word names no scope. -/
theorem Scope.ofWord?_of_unknown {word : String} (h : ∀ scope : Scope, word ≠ scope.word) :
    Scope.ofWord? word = none :=
  Option.eq_none_iff_forall_ne_some.mpr fun scope hread =>
    h scope (Scope.ofWord?_eq_some_iff.mp hread)

/-- A value is the definition of a transform. Arguments are the value under their key, null
included, and there are none only if the key is not there. -/
inductive Spells : Json.Value → Transform → Prop
  | intro {fields : Document} {t : Transform}
      (name : fields.get? "name" = some (.string t.name))
      (phase : fields.get? "phase" = some (.string t.phase.word))
      (scope : fields.get? "scope" = some (.string t.scope.word))
      (args : fields.get? "args" = t.args) : Spells (.object fields) t

/-- A value is an object with a name, a phase and a scope. -/
inductive WellFormed : Json.Value → Prop
  | intro {fields : Document}
      (name : ∃ name, fields.get? "name" = some (.string name))
      (phase : fields.get? "phase" = some (.string "REQUEST") ∨
        fields.get? "phase" = some (.string "RESPONSE"))
      (scope : fields.get? "scope" = some (.string "THIS") ∨
        fields.get? "scope" = some (.string "CHILDREN")) : WellFormed (.object fields)

/-- The keys that a definition must have, in the order in which they are looked at. -/
def requiredFields : List String := ["name", "phase", "scope"]

/-- A problem that a value has as the definition with an index. -/
inductive HasProblem (index : Nat) : Json.Value → Malformed → Prop
  /-- It is not an object. -/
  | notAnObject {value : Json.Value} (other : ∀ fields, value ≠ .object fields) :
      HasProblem index value (.notAnObject index)
  /-- There is no string under a required key. -/
  | missing {fields : Document} {field : String} (required : field ∈ requiredFields)
      (noString : ∀ s, fields.get? field ≠ some (.string s)) :
      HasProblem index (.object fields) (.missingField index field)
  /-- The phase is neither of the two words. -/
  | unknownPhase {fields : Document} {word : String}
      (here : fields.get? "phase" = some (.string word))
      (unknown : ∀ phase : Phase, word ≠ phase.word) :
      HasProblem index (.object fields) (.invalidValue index "phase" word "REQUEST, RESPONSE")
  /-- The scope is neither of the two words. -/
  | unknownScope {fields : Document} {word : String}
      (here : fields.get? "scope" = some (.string word))
      (unknown : ∀ scope : Scope, word ≠ scope.word) :
      HasProblem index (.object fields) (.invalidValue index "scope" word "THIS, CHILDREN")

/-- The rank of a problem: what is no object comes first, then the required keys in order. -/
def Malformed.rank : Malformed → Nat
  | .notAnArray | .notAnObject _ => 0
  | .missingField _ field | .invalidValue _ field _ _ => requiredFields.idxOf field + 1

/-- The first of the problems that a value has. -/
structure FirstProblem (index : Nat) (value : Json.Value) (m : Malformed) : Prop where
  /-- The value has the problem. -/
  has : HasProblem index value m
  /-- It has no problem of a lower rank. -/
  first : ∀ other, HasProblem index value other → m.rank ≤ other.rank

variable {index : Nat} {value : Json.Value} {fields : Document} {t : Transform} {m : Malformed}

/-- A definition is well formed exactly if it is one of some transform. -/
theorem exists_spells_iff : (∃ t, Spells value t) ↔ WellFormed value := by
  constructor
  · rintro ⟨⟨name, phase, scope, args⟩, ⟨hname, hphase, hscope, -⟩⟩
    refine .intro ⟨name, hname⟩ ?_ ?_
    · cases phase with
      | request => exact .inl hphase
      | response => exact .inr hphase
    · cases scope with
      | this => exact .inl hscope
      | children => exact .inr hscope
  · intro h
    cases h with
    | @intro fields name phase scope =>
      obtain ⟨name, hname⟩ := name
      obtain ⟨phase, hphase⟩ : ∃ phase : Phase, fields.get? "phase" = some (.string phase.word) :=
        phase.elim (fun h => ⟨.request, h⟩) fun h => ⟨.response, h⟩
      obtain ⟨scope, hscope⟩ : ∃ scope : Scope, fields.get? "scope" = some (.string scope.word) :=
        scope.elim (fun h => ⟨.this, h⟩) fun h => ⟨.children, h⟩
      exact ⟨⟨name, phase, scope, _⟩, .intro hname hphase hscope rfl⟩

/-- The rank of a problem of an object says which of its keys has the problem. -/
theorem HasProblem.rank_of_object (h : HasProblem index (.object fields) m) :
    m.rank = 1 ∧ (∀ s, fields.get? "name" ≠ some (.string s)) ∨
    m.rank = 2 ∧ (∀ phase : Phase, fields.get? "phase" ≠ some (.string phase.word)) ∨
    m.rank = 3 ∧ (∀ scope : Scope, fields.get? "scope" ≠ some (.string scope.word)) := by
  cases h with
  | notAnObject other => exact absurd rfl (other fields)
  | missing required noString =>
    simp only [requiredFields, List.mem_cons, List.not_mem_nil, or_false] at required
    rcases required with rfl | rfl | rfl
    · exact .inl ⟨rfl, noString⟩
    · exact .inr (.inl ⟨rfl, fun phase => noString phase.word⟩)
    · exact .inr (.inr ⟨rfl, fun scope => noString scope.word⟩)
  | unknownPhase here unknown =>
    refine .inr (.inl ⟨rfl, fun phase hphase => unknown phase ?_⟩)
    cases here.symm.trans hphase
    rfl
  | unknownScope here unknown =>
    refine .inr (.inr ⟨rfl, fun scope hscope => unknown scope ?_⟩)
    cases here.symm.trans hscope
    rfl

/-- A well formed value has no problem. -/
theorem HasProblem.not_wellFormed (h : HasProblem index value m) : ¬WellFormed value := by
  intro hvalue
  obtain ⟨t, hspells⟩ := exists_spells_iff.mpr hvalue
  cases hspells with
  | intro name phase scope args =>
    rcases h.rank_of_object with ⟨-, hname⟩ | ⟨-, hphase⟩ | ⟨-, hscope⟩
    · exact hname _ name
    · exact hphase _ phase
    · exact hscope _ scope

/-- Before a problem of the phase or the scope, there is a name. -/
theorem FirstProblem.exists_name (h : FirstProblem index (.object fields) m) (hrank : 1 < m.rank) :
    ∃ name, fields.text? "name" = some name := by
  refine Option.ne_none_iff_exists'.mp fun hnone => ?_
  have hproblem : HasProblem index (.object fields) (.missingField index "name") :=
    .missing List.mem_cons_self (Keyed.text?_eq_none_iff.mp hnone)
  have hle : m.rank ≤ 1 := h.first _ hproblem
  omega

/-- Before a problem of the scope, there is a phase. -/
theorem FirstProblem.exists_phase (h : FirstProblem index (.object fields) m) (hrank : 2 < m.rank) :
    ∃ phase : Phase, fields.text? "phase" = some phase.word := by
  cases hword : fields.text? "phase" with
  | none =>
    have hrequired : "phase" ∈ requiredFields := by decide
    have hle : m.rank ≤ 2 := h.first _ (.missing hrequired (Keyed.text?_eq_none_iff.mp hword))
    omega
  | some word =>
    by_contra hnone
    have hunknown : ∀ phase : Phase, word ≠ phase.word := by
      rintro phase rfl
      exact hnone ⟨phase, rfl⟩
    have hle : m.rank ≤ 2 := h.first _ (.unknownPhase (Keyed.text?_eq_some_iff.mp hword) hunknown)
    omega

/-- A value without a problem is well formed. -/
theorem wellFormed_of_no_problem (h : ∀ m, ¬HasProblem index value m) : WellFormed value := by
  have hobject : ∃ fields : Document, value = .object fields := by
    by_contra hother
    exact h _ (.notAnObject (not_exists.mp hother))
  obtain ⟨fields, rfl⟩ := hobject
  have hstring : ∀ field ∈ requiredFields, ∃ s, fields.get? field = some (.string s) := by
    intro field hrequired
    by_contra hnone
    exact h _ (.missing hrequired (not_exists.mp hnone))
  obtain ⟨name, hname⟩ := hstring "name" (by decide)
  obtain ⟨phase, hphase⟩ := hstring "phase" (by decide)
  obtain ⟨scope, hscope⟩ := hstring "scope" (by decide)
  obtain ⟨phase, rfl⟩ : ∃ p : Phase, phase = p.word := by
    by_contra hunknown
    exact h _ (.unknownPhase hphase (not_exists.mp hunknown))
  obtain ⟨scope, rfl⟩ : ∃ s : Scope, scope = s.word := by
    by_contra hunknown
    exact h _ (.unknownScope hscope (not_exists.mp hunknown))
  exact exists_spells_iff.mp ⟨⟨name, phase, scope, _⟩, .intro hname hphase hscope rfl⟩

/-- A value that has problems has a first one. -/
theorem HasProblem.exists_first (h : HasProblem index value m) :
    ∃ m, FirstProblem index value m := by
  obtain ⟨m, hm, hleast⟩ :=
    WellFounded.has_min (measure Malformed.rank).wf {m | HasProblem index value m} ⟨m, h⟩
  exact ⟨m, hm, fun other hother => Nat.le_of_not_lt (hleast other hother)⟩

/-- Every value is the definition of a transform or has a first problem. -/
theorem spells_or_firstProblem (index : Nat) (value : Json.Value) :
    (∃ t, Spells value t) ∨ ∃ m, FirstProblem index value m := by
  by_cases h : ∃ m, HasProblem index value m
  · obtain ⟨m, h⟩ := h
    exact .inr h.exists_first
  · exact .inl (exists_spells_iff.mpr (wellFormed_of_no_problem (not_exists.mp h)))

/-- What a definition is read as. -/
theorem ofValue_of_spells (h : Spells value t) : ofValue index value = .ok t := by
  cases h with
  | intro name phase scope args =>
    rw [← Keyed.text?_eq_some_iff] at name phase scope
    simp only [ofValue, stringField, name, phase, scope, Phase.ofWord?_word, Scope.ofWord?_word,
      args, bind, Except.bind, pure, Except.pure]

/-- A value is the definition of one transform. -/
theorem Spells.unique {t' : Transform} (h : Spells value t) (h' : Spells value t') : t = t' := by
  have hread : Except.ok t = .ok t' :=
    (ofValue_of_spells h).symm.trans (ofValue_of_spells h' : ofValue 0 value = .ok t')
  exact Except.ok.inj hread

/-- The first problem of a value is the one that is reported. -/
theorem ofValue_of_firstProblem (h : FirstProblem index value m) :
    ofValue index value = .error m := by
  cases h.has with
  | notAnObject other =>
    cases value with
    | object fields => exact absurd rfl (other fields)
    | _ => rfl
  | @missing fields field required noString =>
    have hnone := Keyed.text?_eq_none_iff.mpr noString
    simp only [requiredFields, List.mem_cons, List.not_mem_nil, or_false] at required
    rcases required with rfl | rfl | rfl
    · simp only [ofValue, stringField, hnone, bind, Except.bind]
    · obtain ⟨name, hname⟩ := h.exists_name (show 1 < 2 by decide)
      simp only [ofValue, stringField, hname, hnone, bind, Except.bind]
    · obtain ⟨name, hname⟩ := h.exists_name (show 1 < 3 by decide)
      obtain ⟨phase, hphase⟩ := h.exists_phase (show 2 < 3 by decide)
      simp only [ofValue, stringField, hname, hphase, Phase.ofWord?_word, hnone, bind, Except.bind]
  | @unknownPhase fields word here unknown =>
    obtain ⟨name, hname⟩ := h.exists_name (show 1 < 2 by decide)
    have hword := Keyed.text?_eq_some_iff.mpr here
    have hnone := Phase.ofWord?_of_unknown unknown
    simp only [ofValue, stringField, hname, hword, hnone, bind, Except.bind]
  | @unknownScope fields word here unknown =>
    obtain ⟨name, hname⟩ := h.exists_name (show 1 < 3 by decide)
    obtain ⟨phase, hphase⟩ := h.exists_phase (show 2 < 3 by decide)
    have hword := Keyed.text?_eq_some_iff.mpr here
    have hnone := Scope.ofWord?_of_unknown unknown
    simp only [ofValue, stringField, hname, hphase, Phase.ofWord?_word, hword, hnone, bind,
      Except.bind]

/-- What is to be reported of some values, the first of which has the index `index`: the first
problem of the first value that has one. -/
def FirstFault (index : Nat) (values : List Json.Value) (m : Malformed) : Prop :=
  ∃ i value, values[i]? = some value ∧ FirstProblem (index + i) value m ∧
    ∀ j < i, ∀ earlier, values[j]? = some earlier → WellFormed earlier

variable {values : List Json.Value} {ts : List Transform} {m' : Malformed}

/-- A well formed value in front leaves the fault where it is. -/
theorem firstFault_cons_of_wellFormed (h : WellFormed value) :
    FirstFault index (value :: values) m ↔ FirstFault (index + 1) values m := by
  have hnext : ∀ i, index + 1 + i = index + (i + 1) := by omega
  constructor
  · rintro ⟨_ | i, found, hfound, hproblem, hearlier⟩
    · cases hfound
      exact absurd h hproblem.has.not_wellFormed
    · exact ⟨i, found, hfound, hnext i ▸ hproblem, fun j hj earlier hat =>
        hearlier (j + 1) (Nat.succ_lt_succ hj) earlier hat⟩
  · rintro ⟨i, found, hfound, hproblem, hearlier⟩
    refine ⟨i + 1, found, hfound, hnext i ▸ hproblem, ?_⟩
    rintro (_ | j) hj earlier hat
    · cases hat
      exact h
    · exact hearlier j (Nat.lt_of_succ_lt_succ hj) earlier hat

/-- A problem of the value in front is the fault. -/
theorem firstFault_cons_of_firstProblem (h : FirstProblem index value m') :
    FirstFault index (value :: values) m ↔ m' = m := by
  constructor
  · rintro ⟨_ | i, found, hfound, hproblem, hearlier⟩
    · cases hfound
      cases (ofValue_of_firstProblem h).symm.trans (ofValue_of_firstProblem hproblem)
      rfl
    · exact absurd (hearlier 0 (Nat.zero_lt_succ i) value rfl) h.has.not_wellFormed
  · rintro rfl
    exact ⟨0, value, rfl, h, fun j hj => absurd hj (Nat.not_lt_zero j)⟩

theorem ofValues_cons_of_spells (h : Spells value t) :
    ofValues index (value :: values) = (ofValues (index + 1) values).map (t :: ·) := by
  rw [ofValues, ofValue_of_spells h]
  cases ofValues (index + 1) values <;> rfl

theorem ofValues_cons_of_firstProblem (h : FirstProblem index value m) :
    ofValues index (value :: values) = .error m := by
  rw [ofValues, ofValue_of_firstProblem h]
  rfl

/-- Values are read exactly if each of them is the definition of a transform, in the same order. -/
theorem ofValues_eq_ok_iff : ofValues index values = .ok ts ↔ List.Forall₂ Spells values ts := by
  induction values generalizing index ts with
  | nil => simp [ofValues, eq_comm]
  | cons value rest ih =>
    rw [List.forall₂_cons_left_iff]
    rcases spells_or_firstProblem index value with ⟨t, ht⟩ | ⟨m, hm⟩
    · have hunique : ∀ t', Spells value t' ↔ t' = t := fun t' =>
        ⟨fun ht' => ht'.unique ht, fun h => h ▸ ht⟩
      have hrest : ∀ ts, List.Forall₂ Spells rest ts ↔ ofValues (index + 1) rest = .ok ts :=
        fun ts => ih.symm
      simp only [ofValues_cons_of_spells ht, hunique, hrest]
      cases ofValues (index + 1) rest <;> simp [Except.map, eq_comm]
    · have hnone : ∀ t', ¬Spells value t' := fun t' ht' =>
        hm.has.not_wellFormed (exists_spells_iff.mp ⟨t', ht'⟩)
      simp [ofValues_cons_of_firstProblem hm, hnone]

/-- The fault that is reported of values is the first problem of the first that has one. -/
theorem ofValues_eq_error_iff : ofValues index values = .error m ↔ FirstFault index values m := by
  induction values generalizing index with
  | nil => simp [ofValues, FirstFault]
  | cons value rest ih =>
    rcases spells_or_firstProblem index value with ⟨t, ht⟩ | ⟨m', hm'⟩
    · rw [ofValues_cons_of_spells ht, firstFault_cons_of_wellFormed (exists_spells_iff.mp ⟨t, ht⟩),
        ← ih]
      cases ofValues (index + 1) rest <;> simp [Except.map]
    · rw [ofValues_cons_of_firstProblem hm', firstFault_cons_of_firstProblem hm',
        Except.error.injEq]

/-- Values are definitions of some transforms exactly if each is well formed. -/
theorem exists_forall₂_spells_iff :
    (∃ ts, List.Forall₂ Spells values ts) ↔ ∀ value ∈ values, WellFormed value := by
  induction values with
  | nil => simp
  | cons value rest ih =>
    rw [List.forall_mem_cons, ← ih, ← exists_spells_iff]
    constructor
    · rintro ⟨_, _ | ⟨ht, hts⟩⟩
      exact ⟨⟨_, ht⟩, _, hts⟩
    · rintro ⟨⟨t, ht⟩, ts, hts⟩
      exact ⟨t :: ts, .cons ht hts⟩

section

variable {d : Document} {items : List Json.Value}

theorem ofDocument_of_absent (h : d.get? field = none) : ofDocument d = .ok [] := by
  rw [ofDocument, h]

theorem ofDocument_of_array (h : d.get? field = some (.array items)) :
    ofDocument d = ofValues 0 items := by
  rw [ofDocument, h]

theorem ofDocument_of_not_array (h : d.get? field = some value)
    (hother : ∀ items, value ≠ .array items) : ofDocument d = .error .notAnArray := by
  rw [ofDocument, h]
  cases value with
  | array items => exact absurd rfl (hother items)
  | _ => rfl

end

/-- Definitions are accepted exactly if there are none or all of an array of them are well formed,
and what is read has them in order and complete. Otherwise either there is no array, or what is
reported is the first problem of the first of them that has one. -/
theorem definitions_exact (d : Document) :
    (∀ ts, ofDocument d = .ok ts ↔
      d.get? field = none ∧ ts = [] ∨
        ∃ items, d.get? field = some (.array items) ∧ List.Forall₂ Spells items ts) ∧
    ((∃ ts, ofDocument d = .ok ts) ↔
      d.get? field = none ∨
        ∃ items, d.get? field = some (.array items) ∧ ∀ value ∈ items, WellFormed value) ∧
    (∀ m, ofDocument d = .error m ↔
      m = .notAnArray ∧ (∃ value, d.get? field = some value ∧ ∀ items, value ≠ .array items) ∨
        ∃ items, d.get? field = some (.array items) ∧ FirstFault 0 items m) := by
  cases hvalue : d.get? field with
  | none => simp [ofDocument_of_absent hvalue, eq_comm]
  | some value =>
    by_cases harray : ∃ items, value = .array items
    · obtain ⟨items, rfl⟩ := harray
      simp [ofDocument_of_array hvalue, ofValues_eq_ok_iff, ofValues_eq_error_iff,
        exists_forall₂_spells_iff]
    · have hother := not_exists.mp harray
      simp [ofDocument_of_not_array hvalue hother, hother, eq_comm]

/-- Null is an argument too. -/
example :
    ofDocument [("rts", .array [.object [("args", .null), ("name", .string "stamp"),
      ("phase", .string "REQUEST"), ("scope", .string "THIS")]])] =
      .ok [⟨"stamp", .request, .this, some .null⟩] := rfl

end DocumentGateway.Transform

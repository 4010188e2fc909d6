/-!
# Keyed lists

Values under text keys, held in the order of the keys. Text is compared character by character by
code point, which is also the order of the UTF-8 bytes. Looking up, writing and removing a key are
each characterised through `get?`; `Ordered` says that every key occurs once and in order, and two
ordered lists that answer every `get?` alike are equal.
-/

namespace DocumentGateway

/-- Values under text keys. -/
abbrev Keyed (α : Type) := List (String × α)

namespace Keyed

variable {α : Type}

/-- The value under a key. -/
def get? : Keyed α → String → Option α
  | [], _ => none
  | (k, v) :: rest, key => if k = key then some v else get? rest key

/-- Put a value under a key, replacing the one that was there. -/
def insert : Keyed α → String → α → Keyed α
  | [], key, value => [(key, value)]
  | (k, v) :: rest, key, value =>
    if k = key then (key, value) :: rest
    else if key < k then (key, value) :: (k, v) :: rest
    else (k, v) :: insert rest key value

/-- Drop a key with its value. -/
def erase (entries : Keyed α) (key : String) : Keyed α :=
  entries.filter fun entry => entry.1 ≠ key

/-- The keys, in order. -/
def keys (entries : Keyed α) : List String := entries.map (·.1)

/-- Keep the entries whose key passes a test. -/
def filterKeys (keep : String → Bool) (entries : Keyed α) : Keyed α :=
  entries.filter fun entry => keep entry.1

/-- Write every entry of `changes` over `base`. -/
def overlay (base changes : Keyed α) : Keyed α :=
  changes.foldl (fun entries entry => entries.insert entry.1 entry.2) base

/-- The keyed list of some entries, the last value of a repeated key counting. -/
def ofList (entries : List (String × α)) : Keyed α := overlay [] entries

/-- Whether a key is present. -/
def has (entries : Keyed α) (key : String) : Bool := (get? entries key).isSome

/-- Every key occurs once and the keys ascend. -/
def Ordered (entries : Keyed α) : Prop := entries.Pairwise fun a b => a.1 < b.1

@[simp] theorem get?_nil (key : String) : get? ([] : Keyed α) key = none := rfl

theorem get?_cons (k : String) (v : α) (rest : Keyed α) (key : String) :
    get? ((k, v) :: rest) key = if k = key then some v else get? rest key := rfl

/-- A written key holds the written value and every other key keeps its own. -/
theorem get?_insert (entries : Keyed α) (key : String) (value : α) (other : String) :
    get? (insert entries key value) other =
      if key = other then some value else get? entries other := by
  induction entries with
  | nil => rfl
  | cons entry rest ih =>
    obtain ⟨k, v⟩ := entry
    by_cases hk : k = key
    · subst hk
      by_cases ho : k = other <;> simp [insert, get?_cons, ho]
    · by_cases hl : key < k
      · simp [insert, hk, hl, get?_cons]
      · rw [insert, if_neg hk, if_neg hl, get?_cons, get?_cons, ih]
        by_cases hko : k = other
        · simp [← hko, Ne.symm hk]
        · simp [hko]

@[simp] theorem get?_insert_self (entries : Keyed α) (key : String) (value : α) :
    get? (insert entries key value) key = some value := by
  simp [get?_insert]

theorem get?_insert_of_ne (entries : Keyed α) {key other : String} (value : α)
    (h : key ≠ other) : get? (insert entries key value) other = get? entries other := by
  simp [get?_insert, h]

/-- An erased key holds nothing and every other key keeps its value. -/
theorem get?_erase (entries : Keyed α) (key other : String) :
    get? (erase entries key) other = if key = other then none else get? entries other := by
  induction entries with
  | nil => simp [erase]
  | cons entry rest ih =>
    obtain ⟨k, v⟩ := entry
    simp only [erase, decide_not, ne_eq] at ih ⊢
    by_cases hk : k = key
    · subst hk
      by_cases ho : k = other <;> simp_all [get?_cons]
    · by_cases ho : k = other
      · subst ho
        simp [get?_cons, hk, Ne.symm hk]
      · simp [get?_cons, hk, ho, ih]

/-- A key that a filter drops holds nothing and every other key keeps its value. -/
theorem get?_filterKeys (keep : String → Bool) (entries : Keyed α) (key : String) :
    get? (filterKeys keep entries) key = if keep key then get? entries key else none := by
  induction entries with
  | nil => simp [filterKeys]
  | cons entry rest ih =>
    obtain ⟨k, v⟩ := entry
    rw [filterKeys] at ih ⊢
    by_cases hk : k = key
    · subst hk
      cases hkeep : keep k <;> simp_all [get?_cons]
    · cases hkeep : keep k <;> simp [get?_cons, hk, ih, hkeep]

theorem ordered_nil : Ordered ([] : Keyed α) := List.Pairwise.nil

/-- An entry of a written list is the written one or an old one. -/
theorem mem_insert {entries : Keyed α} {key : String} {value : α} {entry : String × α}
    (h : entry ∈ insert entries key value) : entry = (key, value) ∨ entry ∈ entries := by
  induction entries with
  | nil => simpa [insert] using h
  | cons head rest ih =>
    obtain ⟨k, v⟩ := head
    rw [insert] at h
    split at h
    · rcases List.mem_cons.1 h with h | h
      · exact .inl h
      · exact .inr (List.mem_cons_of_mem _ h)
    · split at h
      · rcases List.mem_cons.1 h with h | h
        · exact .inl h
        · exact .inr h
      · rcases List.mem_cons.1 h with h | h
        · exact .inr (h ▸ List.mem_cons_self)
        · exact (ih h).imp id (List.mem_cons_of_mem _)

/-- An entry of an overlaid list is one of the changes or an old one. -/
theorem mem_overlay {base changes : Keyed α} {entry : String × α}
    (h : entry ∈ overlay base changes) : entry ∈ changes ∨ entry ∈ base := by
  induction changes generalizing base with
  | nil => exact .inr h
  | cons change rest ih =>
    rcases ih h with h | h
    · exact .inl (List.mem_cons_of_mem _ h)
    · rcases mem_insert h with rfl | h
      · exact .inl List.mem_cons_self
      · exact .inr h

/-- What is under a key is an entry of the list. -/
theorem mem_of_get? {entries : Keyed α} {key : String} {value : α}
    (h : get? entries key = some value) : (key, value) ∈ entries := by
  induction entries with
  | nil => cases h
  | cons head rest ih =>
    obtain ⟨k, v⟩ := head
    rw [get?_cons] at h
    split at h
    · rename_i hk
      cases h
      exact hk ▸ List.mem_cons_self
    · exact List.mem_cons_of_mem _ (ih h)

theorem get?_eq_none_iff {entries : Keyed α} {key : String} :
    get? entries key = none ↔ ∀ entry ∈ entries, entry.1 ≠ key := by
  induction entries with
  | nil => simp
  | cons head rest ih =>
    obtain ⟨k, v⟩ := head
    rw [get?_cons, List.forall_mem_cons]
    by_cases hk : k = key
    · simp [hk]
    · simpa [hk] using ih

/-- To erase a key that is not there changes nothing. -/
theorem erase_of_get?_eq_none {entries : Keyed α} {key : String} (h : get? entries key = none) :
    erase entries key = entries := by
  refine List.filter_eq_self.mpr fun entry hm => ?_
  simpa using get?_eq_none_iff.mp h entry hm

/-- Writing a key keeps the order. -/
theorem Ordered.insert {entries : Keyed α} (h : Ordered entries) (key : String) (value : α) :
    Ordered (entries.insert key value) := by
  induction entries with
  | nil => exact List.pairwise_singleton _ _
  | cons head rest ih =>
    obtain ⟨k, v⟩ := head
    have hrest := List.pairwise_cons.1 h
    rw [Keyed.insert]
    split
    · rename_i hk
      subst hk
      exact List.pairwise_cons.2 ⟨fun entry hm => hrest.1 entry hm, hrest.2⟩
    · rename_i hk
      split
      · rename_i hl
        refine List.pairwise_cons.2 ⟨fun entry hm => ?_, h⟩
        rcases List.mem_cons.1 hm with hm | hm
        · exact hm ▸ hl
        · exact String.lt_trans hl (hrest.1 entry hm)
      · rename_i hl
        refine List.pairwise_cons.2 ⟨fun entry hm => ?_, ih hrest.2⟩
        rcases mem_insert hm with hm | hm
        · subst hm
          have hle : k ≤ key := String.not_lt.1 hl
          rcases Decidable.em (k < key) with hlt | hge
          · exact hlt
          · exact absurd (String.le_antisymm hle (String.not_lt.1 hge)) hk
        · exact hrest.1 entry hm

/-- Erasing a key keeps the order. -/
theorem Ordered.erase {entries : Keyed α} (h : Ordered entries) (key : String) :
    Ordered (entries.erase key) := List.Pairwise.filter _ h

/-- Filtering keeps the order. -/
theorem Ordered.filterKeys {entries : Keyed α} (h : Ordered entries) (keep : String → Bool) :
    Ordered (entries.filterKeys keep) := List.Pairwise.filter _ h

/-- Overlaying keeps the order. -/
theorem Ordered.overlay {base : Keyed α} (h : Ordered base) (changes : Keyed α) :
    Ordered (base.overlay changes) := by
  induction changes generalizing base with
  | nil => exact h
  | cons entry rest ih => exact ih (h.insert entry.1 entry.2)

private theorem get?_eq_none_of_lt {entries : Keyed α} {key : String}
    (h : ∀ entry ∈ entries, key < entry.1) : get? entries key = none := by
  refine get?_eq_none_iff.mpr fun entry hm he => ?_
  exact String.lt_irrefl key (he ▸ h entry hm)

/-- An entry of an ordered list is what is under its key. -/
theorem Ordered.get?_of_mem {entries : Keyed α} (h : Ordered entries) {key : String} {value : α}
    (hm : (key, value) ∈ entries) : get? entries key = some value := by
  induction entries with
  | nil => cases hm
  | cons head rest ih =>
    obtain ⟨k, v⟩ := head
    have hrest := List.pairwise_cons.1 h
    rw [get?_cons]
    rcases List.mem_cons.1 hm with hm | hm
    · cases hm
      exact if_pos rfl
    · have hlt : k < key := hrest.1 _ hm
      have hne : k ≠ key := fun hk => String.lt_irrefl key (hk ▸ hlt)
      rw [if_neg hne]
      exact ih hrest.2 hm

/-- No key occurs twice in an ordered list. -/
theorem Ordered.nodup_keys {entries : Keyed α} (h : Ordered entries) : entries.keys.Nodup := by
  refine List.Pairwise.map _ (fun a b (hlt : a.1 < b.1) (he : a.1 = b.1) => ?_) h
  exact String.lt_irrefl b.1 (he ▸ hlt)

/-- After overlaying, a key has its value among the changes, or else its old one. -/
theorem get?_overlay {changes : Keyed α} (h : Ordered changes) (base : Keyed α) (key : String) :
    get? (overlay base changes) key = (get? changes key).or (get? base key) := by
  induction changes generalizing base with
  | nil => simp [overlay]
  | cons entry rest ih =>
    obtain ⟨k, v⟩ := entry
    have hrest := List.pairwise_cons.1 h
    have step : overlay base ((k, v) :: rest) = overlay (base.insert k v) rest := rfl
    rw [step, ih hrest.2, get?_insert, get?_cons]
    by_cases hk : k = key
    · subst hk
      rw [get?_eq_none_of_lt fun entry hm => hrest.1 entry hm]
      simp
    · simp [hk]

/-- An ordered keyed list is determined by the values under its keys. -/
theorem Ordered.ext {a b : Keyed α} (ha : Ordered a) (hb : Ordered b)
    (h : ∀ key, get? a key = get? b key) : a = b := by
  induction a generalizing b with
  | nil =>
    cases b with
    | nil => rfl
    | cons entry rest =>
      obtain ⟨k, v⟩ := entry
      simpa [get?_cons] using h k
  | cons entry rest ih =>
    obtain ⟨k, v⟩ := entry
    cases b with
    | nil => simpa [get?_cons] using h k
    | cons entry' rest' =>
      obtain ⟨k', v'⟩ := entry'
      have hra := List.pairwise_cons.1 ha
      have hrb := List.pairwise_cons.1 hb
      have hkk : k = k' := by
        rcases Decidable.em (k < k') with hl | hl
        · have := h k
          rw [get?_cons, if_pos rfl, get?_eq_none_of_lt] at this
          · cases this
          · intro entry hm
            rcases List.mem_cons.1 hm with hm | hm
            · exact hm ▸ hl
            · exact String.lt_trans hl (hrb.1 entry hm)
        · rcases Decidable.em (k' < k) with hg | hg
          · have := h k'
            rw [get?_cons, get?_cons, if_pos rfl, if_neg, get?_eq_none_of_lt] at this
            · cases this
            · exact fun entry hm => String.lt_trans hg (hra.1 entry hm)
            · exact fun he => hl (he ▸ hg)
          · exact String.le_antisymm (String.not_lt.1 hg) (String.not_lt.1 hl)
      subst hkk
      have hv : v = v' := by simpa [get?_cons] using h k
      subst hv
      congr 1
      refine ih hra.2 hrb.2 fun key => ?_
      by_cases hk : k = key
      · subst hk
        rw [get?_eq_none_of_lt fun entry hm => hra.1 entry hm,
          get?_eq_none_of_lt fun entry hm => hrb.1 entry hm]
      · simpa [get?_cons, hk] using h key

/-- A key that is written and then erased might as well not have been written. -/
theorem Ordered.erase_insert_self {entries : Keyed α} (h : Ordered entries) (key : String)
    (value : α) : Keyed.erase (Keyed.insert entries key value) key = Keyed.erase entries key := by
  refine ((h.insert key value).erase key).ext (h.erase key) fun other => ?_
  rw [get?_erase, get?_erase, get?_insert]
  split <;> rfl

/-- To erase one key and to write another one may be done in either order. -/
theorem Ordered.erase_insert_of_ne {entries : Keyed α} (h : Ordered entries) {key written : String}
    (hne : written ≠ key) (value : α) :
    Keyed.erase (Keyed.insert entries written value) key =
      Keyed.insert (Keyed.erase entries key) written value := by
  refine ((h.insert written value).erase key).ext ((h.erase key).insert written value)
    fun other => ?_
  rw [get?_erase, get?_insert, get?_insert, get?_erase]
  by_cases hkey : key = other
  · rw [if_pos hkey, if_pos hkey, if_neg (hkey ▸ hne)]
  · rw [if_neg hkey, if_neg hkey]

end Keyed

end DocumentGateway

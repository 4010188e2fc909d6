import DocumentGateway.Text.Cut
import Mathlib.Data.List.TakeWhile

/-!
# Pieces between separators

A list is its pieces with a separator before each, and no piece holds a separator. Of two lists that
are written so, the one begins the other at the end of a piece exactly if its pieces begin those of
the other.
-/

namespace DocumentGateway.Text

variable {α : Type}

/-- What follows a beginning is what stands after it. -/
theorem dropStart?_eq_some_iff [DecidableEq α] {start s rest : List α} :
    dropStart? start s = some rest ↔ s = start ++ rest := by
  constructor
  · exact dropStart?_eq_some
  · rintro rfl
    exact dropStart?_append start rest

/-- Elements at the end that all are dropped do not count. -/
theorem trimEnd_append_of_all {drop : α → Bool} (s : List α) {dropped : List α}
    (h : ∀ a ∈ dropped, drop a = true) : trimEnd drop (s ++ dropped) = trimEnd drop s := by
  have hall : dropped.reverse.dropWhile drop = [] :=
    List.dropWhile_eq_nil_iff.mpr fun a ha => h a (List.mem_reverse.mp ha)
  rw [trimEnd, List.reverse_append, List.dropWhile_append, hall]
  rfl

/-- A list whose last element stays is not trimmed. -/
theorem trimEnd_concat {drop : α → Bool} (s : List α) {a : α} (h : drop a = false) :
    trimEnd drop (s ++ [a]) = s ++ [a] := by
  simp [trimEnd, h]

theorem trimEnd_of_kept {drop : α → Bool} {s : List α} (h : ∀ a ∈ s, drop a = false) :
    trimEnd drop s = s := by
  rcases List.eq_nil_or_concat s with rfl | ⟨rest, a, rfl⟩
  · rfl
  · rw [List.concat_eq_append] at h ⊢
    exact trimEnd_concat rest (h a (List.mem_append_right _ List.mem_cons_self))

/-- What stands between elements that are dropped, and has none of them, is what is left. -/
theorem trim_of_kept {drop : α → Bool} {before kept after : List α}
    (hbefore : ∀ a ∈ before, drop a = true) (hkept : ∀ a ∈ kept, drop a = false)
    (hafter : ∀ a ∈ after, drop a = true) : trim drop (before ++ kept ++ after) = kept := by
  rw [trim, List.append_assoc, List.dropWhile_append_of_pos hbefore]
  cases kept with
  | nil =>
    rw [List.nil_append, List.dropWhile_eq_nil_iff.mpr hafter]
    rfl
  | cons a rest =>
    have hstays : ¬drop a = true := by simp [hkept a List.mem_cons_self]
    rw [List.cons_append, List.dropWhile_cons_of_neg hstays, ← List.cons_append,
      trimEnd_append_of_all _ hafter, trimEnd_of_kept hkept]

/-- What is trimmed off stands at the two ends. -/
theorem exists_trim (drop : α → Bool) (s : List α) :
    ∃ before after, s = before ++ trim drop s ++ after ∧ (∀ a ∈ before, drop a = true) ∧
      ∀ a ∈ after, drop a = true := by
  let ends := (s.dropWhile drop).reverse
  have hends : trim drop s ++ (ends.takeWhile drop).reverse = s.dropWhile drop := by
    rw [trim, trimEnd, ← List.reverse_append, List.takeWhile_append_dropWhile, List.reverse_reverse]
  refine ⟨s.takeWhile drop, (ends.takeWhile drop).reverse, ?_,
    fun a ha => List.mem_takeWhile_imp ha, fun a ha => ?_⟩
  · rw [List.append_assoc, hends, List.takeWhile_append_dropWhile]
  · exact List.mem_takeWhile_imp (List.mem_reverse.mp ha)

/-- What has no element to be dropped is left of itself between such elements, and of nothing
else. -/
theorem trim_eq_iff_of_kept {drop : α → Bool} {s kept : List α}
    (hkept : ∀ a ∈ kept, drop a = false) :
    trim drop s = kept ↔ ∃ before after, s = before ++ kept ++ after ∧
      (∀ a ∈ before, drop a = true) ∧ ∀ a ∈ after, drop a = true := by
  constructor
  · rintro rfl
    exact exists_trim drop s
  · rintro ⟨before, after, rfl, hbefore, hafter⟩
    exact trim_of_kept hbefore hkept hafter

/-- Elements are taken up to the first that does not pass. -/
theorem takeWhile_append_of_stop {keep : α → Bool} {kept rest : List α}
    (hkept : ∀ a ∈ kept, keep a = true) (hrest : ∀ a, rest.head? = some a → keep a = false) :
    (kept ++ rest).takeWhile keep = kept := by
  rw [List.takeWhile_append_of_pos hkept]
  cases rest with
  | nil => exact List.append_nil kept
  | cons a rest =>
    have hstop : ¬keep a = true := by simp [hrest a rfl]
    rw [List.takeWhile_cons_of_neg hstop, List.append_nil]

/-- What consists of elements that pass does not begin a list beyond the first that does not. -/
theorem prefix_append_iff_of_stop {keep : α → Bool} {name kept rest : List α}
    (hname : ∀ a ∈ name, keep a = true) (hrest : ∀ a, rest.head? = some a → keep a = false) :
    name <+: kept ++ rest ↔ name <+: kept := by
  refine ⟨fun h => ?_, fun h => h.trans (List.prefix_append _ _)⟩
  rcases List.prefix_or_prefix_of_prefix h (List.prefix_append kept rest) with
    hshort | ⟨more, rfl⟩
  · exact hshort
  · -- What the name has beyond stands at the beginning of the rest, where nothing passes.
    cases more with
    | nil => exact ⟨[], by simp⟩
    | cons a more =>
      obtain ⟨after, rfl⟩ := (List.prefix_append_right_inj kept).mp h
      have hstop := hrest a rfl
      rw [hname a (by simp)] at hstop
      cases hstop

/-- A list is split at the first separator it holds. -/
theorem splitFirst_append_cons {isSeparator : α → Bool} {before : List α} {a : α}
    (hbefore : ∀ b ∈ before, isSeparator b = false) (ha : isSeparator a = true) (after : List α) :
    splitFirst isSeparator (before ++ a :: after) = some (before, after) := by
  have hpassed : ∀ b ∈ before, (!isSeparator b) = true := fun b hb => by simp [hbefore b hb]
  rw [splitFirst, List.dropWhile_append_of_pos hpassed, List.takeWhile_append_of_pos hpassed]
  simp [ha]

/-- A list is split where its first separator stands. -/
theorem splitFirst_eq_some_iff [DecidableEq α] {c : α} {s before after : List α} :
    splitFirst (· = c) s = some (before, after) ↔ s = before ++ c :: after ∧ c ∉ before := by
  constructor
  · intro h
    obtain ⟨a, ha, hs, hbefore⟩ := splitFirst_eq_some h
    obtain rfl := of_decide_eq_true ha
    exact ⟨hs, fun hmem => of_decide_eq_false (hbefore a hmem) rfl⟩
  · rintro ⟨rfl, hbefore⟩
    have hpassed : ∀ a ∈ before, decide (a = c) = false := by
      intro a ha
      exact decide_eq_false fun he => hbefore (he ▸ ha)
    exact splitFirst_append_cons hpassed (decide_eq_true rfl) after

/-- There is always a piece. -/
theorem splitAll_ne_nil (isSeparator : α → Bool) (s : List α) : splitAll isSeparator s ≠ [] := by
  cases s with
  | nil => exact List.cons_ne_nil _ _
  | cons a rest =>
    rw [splitAll, List.foldr_cons]
    split
    · exact List.cons_ne_nil _ _
    · split <;> exact List.cons_ne_nil _ _

/-- At a separator a list falls into its pieces before and after it. -/
theorem splitAll_append_cons {isSeparator : α → Bool} {a : α} (ha : isSeparator a = true)
    (s t : List α) :
    splitAll isSeparator (s ++ a :: t) = splitAll isSeparator s ++ splitAll isSeparator t := by
  induction s with
  | nil => simp [splitAll, ha]
  | cons b rest ih =>
    rw [splitAll, splitAll] at ih
    rw [List.cons_append, splitAll, splitAll, List.foldr_cons, List.foldr_cons, ih]
    split
    · rfl
    · cases hpieces : List.foldr _ [[]] rest with
      | nil => exact absurd hpieces (splitAll_ne_nil isSeparator rest)
      | cons piece pieces => rfl

section

variable {c : α}

/-- Some pieces, with a separator before each. -/
def separated (c : α) (pieces : List (List α)) : List α := pieces.flatMap (c :: ·)

@[simp] theorem separated_nil : separated c [] = [] := rfl

@[simp] theorem separated_cons (piece : List α) (rest : List (List α)) :
    separated c (piece :: rest) = c :: (piece ++ separated c rest) := rfl

theorem separated_append (pieces rest : List (List α)) :
    separated c (pieces ++ rest) = separated c pieces ++ separated c rest := List.flatMap_append

/-- Nothing stands where a piece ends but a separator. -/
def EndsPiece (c : α) (rest : List α) : Prop := rest = [] ∨ rest.head? = some c

theorem endsPiece_separated (pieces : List (List α)) : EndsPiece c (separated c pieces) := by
  cases pieces with
  | nil => exact .inl rfl
  | cons piece rest => exact .inr rfl

theorem EndsPiece.eq_of_head {rest : List α} (h : EndsPiece c rest) :
    ∀ a, rest.head? = some a → a = c := by
  intro a ha
  rcases h with rfl | hc
  · cases ha
  · exact Option.some.inj (ha.symm.trans hc)

variable [DecidableEq α]

/-- There is always a first piece. -/
theorem exists_cons_of_splitAll (s : List α) :
    ∃ piece rest, splitAll (· = c) s = piece :: rest := by
  cases s with
  | nil => exact ⟨[], [], rfl⟩
  | cons a rest =>
    rw [splitAll, List.foldr_cons]
    split
    · exact ⟨_, _, rfl⟩
    · split <;> exact ⟨_, _, rfl⟩

theorem splitAll_cons (a : α) (s : List α) {piece : List α} {rest : List (List α)}
    (h : splitAll (· = c) s = piece :: rest) :
    splitAll (· = c) (a :: s) = if a = c then [] :: piece :: rest else (a :: piece) :: rest := by
  rw [splitAll] at h ⊢
  rw [List.foldr_cons, h]
  by_cases ha : a = c <;> simp [ha]

/-- Without a separator there is one piece. -/
theorem splitAll_of_not_mem {s : List α} (h : c ∉ s) : splitAll (· = c) s = [s] := by
  induction s with
  | nil => rfl
  | cons a rest ih =>
    rw [List.mem_cons, not_or] at h
    rw [splitAll_cons a rest (ih h.2), if_neg (Ne.symm h.1)]

/-- The pieces of a list make it up. -/
theorem separated_splitAll (s : List α) : separated c (splitAll (· = c) s) = c :: s := by
  induction s with
  | nil => rfl
  | cons a rest ih =>
    obtain ⟨piece, pieces, h⟩ := exists_cons_of_splitAll (c := c) rest
    rw [h, separated_cons] at ih
    rw [splitAll_cons a rest h]
    split
    · rename_i ha
      rw [separated_cons, separated_cons, ih, ha]
      rfl
    · rw [separated_cons, List.cons_append, (List.cons.inj ih).2]

/-- No piece holds a separator. -/
theorem not_mem_of_mem_splitAll {s piece : List α} (h : piece ∈ splitAll (· = c) s) :
    c ∉ piece := by
  induction s generalizing piece with
  | nil =>
    obtain rfl := List.mem_singleton.mp h
    exact List.not_mem_nil
  | cons a rest ih =>
    obtain ⟨first, pieces, hs⟩ := exists_cons_of_splitAll (c := c) rest
    rw [hs] at ih
    rw [splitAll_cons a rest hs] at h
    split at h
    · rcases List.mem_cons.mp h with rfl | h
      · exact List.not_mem_nil
      · exact ih h
    · rename_i ha
      rcases List.mem_cons.mp h with rfl | h
      · intro hc
        rcases List.mem_cons.mp hc with hc | hc
        · exact ha hc.symm
        · exact ih List.mem_cons_self hc
      · exact ih (List.mem_cons_of_mem _ h)

/-- A piece ends where the first separator stands. -/
theorem append_inj_of_endsPiece {p q s t : List α} (hp : c ∉ p) (hq : c ∉ q)
    (hs : EndsPiece c s) (ht : EndsPiece c t) (h : p ++ s = q ++ t) : p = q ∧ s = t := by
  have key : ∀ {p s : List α}, c ∉ p → EndsPiece c s → (p ++ s).takeWhile (· ≠ c) = p := by
    intro p s hp hs
    refine takeWhile_append_of_stop (fun a ha => ?_) fun a ha => ?_
    · exact decide_eq_true fun hac => hp (hac ▸ ha)
    · exact decide_eq_false (not_not_intro (hs.eq_of_head a ha))
  have hpq : p = q := by rw [← key hp hs, h, key hq ht]
  subst hpq
  exact ⟨rfl, List.append_cancel_left h⟩

/-- Pieces begin others exactly if they do so when written with separators, up to the end of a
piece. -/
theorem separated_prefix_iff {names pieces : List (List α)} (hnames : ∀ name ∈ names, c ∉ name)
    (hpieces : ∀ piece ∈ pieces, c ∉ piece) :
    (∃ rest, separated c pieces = separated c names ++ rest ∧ EndsPiece c rest) ↔
      names <+: pieces := by
  constructor
  · rintro ⟨rest, h, hrest⟩
    induction names generalizing pieces with
    | nil => exact List.nil_prefix
    | cons name names ih =>
      cases pieces with
      | nil => cases h
      | cons piece pieces =>
        rw [separated_cons, separated_cons, List.cons_append, List.append_assoc] at h
        have hends : EndsPiece c (separated c names ++ rest) := by
          cases names with
          | nil => exact hrest
          | cons => exact .inr rfl
        obtain ⟨rfl, hafter⟩ := append_inj_of_endsPiece (hpieces _ List.mem_cons_self)
          (hnames _ List.mem_cons_self) (endsPiece_separated pieces) hends (List.cons.inj h).2
        refine (List.cons_prefix_cons).mpr ⟨rfl, ih ?_ ?_ hafter⟩
        · exact fun other hm => hnames other (List.mem_cons_of_mem _ hm)
        · exact fun other hm => hpieces other (List.mem_cons_of_mem _ hm)
  · rintro ⟨after, rfl⟩
    exact ⟨separated c after, separated_append names after, endsPiece_separated after⟩

end

end DocumentGateway.Text

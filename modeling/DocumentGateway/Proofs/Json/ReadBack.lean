import DocumentGateway.Json.Printer
import DocumentGateway.Proofs.Json.Legible
import DocumentGateway.Proofs.Text.Utf8

/-!
# What is written is read back

The text of a legible value is read as that value, if each of its numbers is. The reader learns only
from the next character that a word has ended, so what is proved of a value inside a container is
how the reader goes on from there: as if the value had been completed at its last character.
-/

namespace DocumentGateway.Json

/-- A number is written as a word that begins like one, and that is read as the number. -/
structure Number.Respelled (number? : List Char → Option Number) (n : Number) : Prop where
  word : ∀ c ∈ n.write, Reader.isWordChar c = true
  first : ∃ c rest, n.write = c :: rest ∧ (c = '-' ∨ c.isDigit = true)
  reads : number? n.write = some n

/-- A key above all others is written behind them. -/
theorem insert_of_last {fields : Document} {key : String} {v : Value}
    (h : ∀ field ∈ fields, field.1 < key) : fields.insert key v = fields ++ [(key, v)] := by
  induction fields with
  | nil => rfl
  | cons field rest ih =>
    obtain ⟨k, w⟩ := field
    obtain ⟨hfirst, hrest⟩ := List.forall_mem_cons.mp h
    have hne : k ≠ key := fun heq => String.lt_irrefl key (heq ▸ hfirst)
    have hlt : ¬key < k := String.lt_asymm hfirst
    rw [Keyed.insert, if_neg hne, if_neg hlt, ih hrest]
    rfl

namespace Reader

variable {number? : List Char → Option Number} {legal : Number → Prop} {frames : List Frame}
  {r : Reader} {v : Value}

/-- Read some characters one after the other. -/
def run (number? : List Char → Option Number) (r : Reader) (s : List Char) : Option Reader :=
  s.foldlM (step number?) r

theorem run_cons (r : Reader) (c : Char) (s : List Char) :
    run number? r (c :: s) = (r.step number? c).bind fun r => run number? r s := rfl

theorem run_append (r : Reader) (s t : List Char) :
    run number? r (s ++ t) = (run number? r s).bind fun r => run number? r t :=
  List.foldlM_append

/-! ## Strings -/

theorem hexDigitValue?_hexDigit : ∀ n < 16, Text.hexDigitValue? (Text.hexDigit n) = some n := by
  decide

/-- A control character is read from its code. -/
theorem run_code (frames : List Frame) (isKey : Bool) (chars : List Char) {c : Char}
    (h : c.toNat < 0x20) :
    run number? ⟨frames, .text isKey chars .plain⟩
        ['\\', 'u', '0', '0', Text.hexDigit (c.toNat / 16), Text.hexDigit (c.toNat % 16)] =
      some ⟨frames, .text isKey (c :: chars) .plain⟩ := by
  have hhigh := hexDigitValue?_hexDigit (c.toNat / 16) (by omega)
  have hlow := hexDigitValue?_hexDigit (c.toNat % 16) (by omega)
  have hcode : c.toNat / 16 * 16 + c.toNat % 16 = c.toNat := Nat.div_add_mod' _ _
  have hzero : Text.hexDigitValue? '0' = some 0 := by decide
  have hplain : finishCode chars none c.toNat = some (c :: chars, .plain) := by
    have hlow : ¬0xD800 ≤ c.toNat := by omega
    have hhigh : ¬0xDC00 ≤ c.toNat := by omega
    simp [finishCode, hlow, hhigh]
  simp [run, step, stepString, hzero, hhigh, hlow, hcode, hplain]

/-- Every character is read as it was, however it is written. -/
theorem run_escapeChar (frames : List Frame) (isKey : Bool) (chars : List Char) (c : Char) :
    run number? ⟨frames, .text isKey chars .plain⟩ (escapeChar c) =
      some ⟨frames, .text isKey (c :: chars) .plain⟩ := by
  unfold escapeChar
  split
  · subst c; rfl
  split
  · subst c; rfl
  split
  · subst c; rfl
  split
  · subst c; rfl
  split
  · subst c; rfl
  split
  · subst c; rfl
  split
  · subst c; rfl
  split
  · rename_i hcontrol
    exact run_code frames isKey chars hcontrol
  · rename_i hquote hslash _ _ _ _ _ hcontrol
    simp [run, step, stepString, hquote, hslash, hcontrol]

theorem run_escaped (frames : List Frame) (isKey : Bool) (s chars : List Char) :
    run number? ⟨frames, .text isKey chars .plain⟩ (s.flatMap escapeChar) =
      some ⟨frames, .text isKey (s.reverse ++ chars) .plain⟩ := by
  induction s generalizing chars with
  | nil => rfl
  | cons c rest ih =>
    rw [List.flatMap_cons, run_append, run_escapeChar, Option.bind_some, ih]
    simp

/-- After its opening quote a string is read to the end. -/
theorem run_quoted (frames : List Frame) (isKey : Bool) (s : String) :
    run number? ⟨frames, .text isKey [] .plain⟩ (s.toList.flatMap escapeChar ++ ['"']) =
      finishString ⟨frames, .text isKey s.toList.reverse .plain⟩ isKey s.toList.reverse := by
  rw [run_append, run_escaped, Option.bind_some, run_cons, List.append_nil]
  exact Option.bind_fun_some _

theorem run_writeString {expect : Expect} (h : expect = .value ∨ expect = .firstItem) (s : String) :
    run number? ⟨frames, .between expect⟩ (writeString s) = complete frames (.string s) := by
  have hquote : step number? ⟨frames, .between expect⟩ '"' =
      some ⟨frames, .text false [] .plain⟩ := by
    rcases h with rfl | rfl <;> rfl
  rw [writeString, run_cons, hquote, Option.bind_some, run_quoted]
  simp [finishString]

theorem run_key {expect : Expect} (h : expect = .key ∨ expect = .firstKey) (fields : Document)
    (key : String) :
    run number? ⟨.object fields none :: frames, .between expect⟩ (writeString key) =
      some ⟨.object fields (some key) :: frames, .between .colon⟩ := by
  have hquote : step number? ⟨.object fields none :: frames, .between expect⟩ '"' =
      some ⟨.object fields none :: frames, .text true [] .plain⟩ := by
    rcases h with rfl | rfl <;> rfl
  rw [writeString, run_cons, hquote, Option.bind_some, run_quoted]
  simp [finishString]

/-! ## Words -/

/-- The reader goes on from here as if a value had just been completed. -/
structure Settled (number? : List Char → Option Number) (frames : List Frame) (v : Value)
    (r : Reader) : Prop where
  next : ∀ c, isWordChar c = false →
    r.step number? c = (complete frames v).bind fun r => r.step number? c
  last : r.finish number? = (complete frames v).bind fun r => r.finish number?

theorem settled_of_complete (h : complete frames v = some r) : Settled number? frames v r := by
  constructor
  · intro c _
    rw [h]
    rfl
  · rw [h]
    rfl

/-- A character after a complete value is read as such. -/
theorem step_of_complete (h : complete frames v = some r) (c : Char) :
    r.step number? c = step.afterValue r c := by
  unfold complete at h
  split at h
  · obtain rfl := Option.some.inj h
    rfl
  · obtain rfl := Option.some.inj h
    rfl
  · obtain rfl := Option.some.inj h
    rfl
  · cases h

theorem finish_of_complete (h : complete frames v = some r) :
    r.finish number? = match some r with
      | some ⟨_, .finished v⟩ => some v
      | _ => none := by
  unfold complete at h
  split at h
  · obtain rfl := Option.some.inj h
    rfl
  · obtain rfl := Option.some.inj h
    rfl
  · obtain rfl := Option.some.inj h
    rfl
  · cases h

/-- A word that spells a value settles it. -/
theorem settled_word {chars : List Char} (h : wordValue? number? chars.reverse = some v) :
    Settled number? frames v ⟨frames, .word chars⟩ := by
  have hfinish : finishWord number? ⟨frames, .word chars⟩ chars = complete frames v := by
    rw [finishWord, h]
    rfl
  constructor
  · intro c hc
    have hstep : step number? ⟨frames, .word chars⟩ c =
        (complete frames v).bind fun r => step.afterValue r c := by
      simp only [step, hc, hfinish, Bool.false_eq_true, if_false]
    rw [hstep]
    exact Option.bind_congr fun r hr => (step_of_complete hr c).symm
  · simp only [finish, hfinish]
    cases hcomplete : complete frames v with
    | none => rfl
    | some r => exact (finish_of_complete hcomplete).symm

/-- What may stand in a word opens nothing. -/
theorem not_isBlank_of_isWordChar {c : Char} (h : isWordChar c = true) :
    isBlank c = false ∧ c ≠ '"' ∧ c ≠ '[' ∧ c ≠ '\x7b' := by
  have hne : ∀ d, isWordChar d = false → c ≠ d := by
    rintro d hd rfl
    rw [h] at hd
    cases hd
  refine ⟨?_, hne _ (by decide), hne _ (by decide), hne _ (by decide)⟩
  simp [isBlank, hne ' ' (by decide), hne '\t' (by decide), hne '\n' (by decide),
    hne '\r' (by decide)]

theorem run_wordChars {s chars : List Char} (h : ∀ c ∈ s, isWordChar c = true) :
    run number? ⟨frames, .word chars⟩ s = some ⟨frames, .word (s.reverse ++ chars)⟩ := by
  induction s generalizing chars with
  | nil => rfl
  | cons c rest ih =>
    obtain ⟨hc, hrest⟩ := List.forall_mem_cons.mp h
    have hstep : step number? ⟨frames, .word chars⟩ c = some ⟨frames, .word (c :: chars)⟩ := by
      simp only [step, hc, if_true]
    rw [run_cons, hstep, Option.bind_some, ih hrest]
    simp

/-- A word is gathered whole. -/
theorem run_word {expect : Expect} (he : expect = .value ∨ expect = .firstItem) {s : List Char}
    (hs : s ≠ []) (h : ∀ c ∈ s, isWordChar c = true) :
    run number? ⟨frames, .between expect⟩ s = some ⟨frames, .word s.reverse⟩ := by
  cases s with
  | nil => exact absurd rfl hs
  | cons c rest =>
    obtain ⟨hc, hrest⟩ := List.forall_mem_cons.mp h
    obtain ⟨hblank, hquote, hbracket, hbrace⟩ := not_isBlank_of_isWordChar hc
    have hstep : step number? ⟨frames, .between expect⟩ c = some ⟨frames, .word [c]⟩ := by
      rcases he with rfl | rfl <;>
        simp [step, stepBetween, hblank, hquote, hbracket, hbrace, hc]
    rw [run_cons, hstep, Option.bind_some, run_wordChars hrest]
    simp

/-- The word of a number is none of the constants, which begin with letters. -/
theorem wordValue?_write {n : Number} (h : n.Respelled number?) :
    wordValue? number? n.write = some (.number n) := by
  obtain ⟨c, rest, hwrite, hfirst⟩ := h.first
  have hne : ∀ word : List Char, word.head? = some 'n' ∨ word.head? = some 't' ∨
      word.head? = some 'f' → n.write ≠ word := by
    rintro word hletter rfl
    simp only [hwrite, List.head?_cons, Option.some.injEq] at hletter
    rcases hletter with rfl | rfl | rfl <;> revert hfirst <;> decide
  rw [wordValue?, if_neg (hne _ (by decide)), if_neg (hne _ (by decide)),
    if_neg (hne _ (by decide)), h.reads]
  rfl

/-! ## Values -/

/-- A value may come next: the innermost container is no object that waits for a key. -/
def Ready (frames : List Frame) : Prop := ∀ v, ∃ r, complete frames v = some r

theorem exists_settled (hready : Ready frames) {expect : Expect} {s : List Char}
    (h : run number? ⟨frames, .between expect⟩ s = complete frames v) :
    ∃ r, run number? ⟨frames, .between expect⟩ s = some r ∧ Settled number? frames v r := by
  obtain ⟨r, hr⟩ := hready v
  exact ⟨r, h.trans hr, settled_of_complete hr⟩

theorem exists_settled_word {expect : Expect} (he : expect = .value ∨ expect = .firstItem)
    {word : List Char} (hne : word ≠ []) (hword : ∀ c ∈ word, isWordChar c = true)
    (hvalue : wordValue? number? word = some v) :
    ∃ r, run number? ⟨frames, .between expect⟩ word = some r ∧ Settled number? frames v r := by
  refine ⟨_, run_word he hne hword, settled_word ?_⟩
  rwa [List.reverse_reverse]

/-- A container is opened where there is room for one more. -/
theorem run_descend {expect : Expect} (he : expect = .value ∨ expect = .firstItem)
    (hroom : frames.length < maxDepth) (s : List Char) :
    run number? ⟨frames, .between expect⟩ ('[' :: s) =
        run number? ⟨.array [] :: frames, .between .firstItem⟩ s ∧
      run number? ⟨frames, .between expect⟩ ('\x7b' :: s) =
        run number? ⟨.object [] none :: frames, .between .firstKey⟩ s := by
  have hdescend : ∀ frame next, descend ⟨frames, .between expect⟩ frame next =
      some ⟨frame :: frames, .between next⟩ := fun _ _ => if_pos hroom
  have harray : step number? ⟨frames, .between expect⟩ '[' =
      descend ⟨frames, .between expect⟩ (.array []) .firstItem := by
    rcases he with rfl | rfl <;> rfl
  have hobject : step number? ⟨frames, .between expect⟩ '\x7b' =
      descend ⟨frames, .between expect⟩ (.object [] none) .firstKey := by
    rcases he with rfl | rfl <;> rfl
  rw [run_cons, run_cons, harray, hobject, hdescend, hdescend]
  exact ⟨rfl, rfl⟩

/-- What is written next to a value is read after it. -/
theorem Settled.run_cons (h : Settled number? frames v r) {c : Char} (hc : isWordChar c = false)
    {next : Reader} (hnext : complete frames v = some next) (s : List Char) :
    run number? r (c :: s) = run number? next (c :: s) := by
  rw [Reader.run_cons, Reader.run_cons, h.next c hc, hnext]
  rfl

/-- Wherever a value may come next that holds so many containers in one another, it is read from
what is written of it. -/
def ReadsBack (number? : List Char → Option Number) (depth : Nat) (v : Value) : Prop :=
  ∀ frames expect, (expect = .value ∨ expect = .firstItem) → Ready frames →
    frames.length + depth ≤ maxDepth →
    ∃ r, run number? ⟨frames, .between expect⟩ v.write = some r ∧ Settled number? frames v r

/-- The items after one that has been read are read to the end of the array. -/
theorem run_writeItems {depth : Nat} {rest : List Value}
    (h : ∀ item ∈ rest, ReadsBack number? depth item) {items : List Value}
    (hdepth : frames.length + 1 + depth ≤ maxDepth)
    (hsettled : Settled number? (.array items :: frames) v r) :
    run number? r (writeItems rest) = complete frames (.array (items.reverse ++ v :: rest)) := by
  induction rest generalizing items v r with
  | nil =>
    rw [writeItems, hsettled.run_cons (by decide) rfl, ← List.reverse_cons]
    exact Option.bind_fun_some _
  | cons item rest ih =>
    obtain ⟨hitem, hrest⟩ := List.forall_mem_cons.mp h
    obtain ⟨r', hrun, hnext⟩ := hitem (.array (v :: items) :: frames) .value (.inl rfl)
      (fun _ => ⟨_, rfl⟩) hdepth
    rw [writeItems, hsettled.run_cons (by decide) rfl, run_cons]
    change run number? ⟨.array (v :: items) :: frames, .between .value⟩ _ = _
    rw [run_append, hrun, Option.bind_some, ih hrest hnext, List.reverse_cons, List.append_assoc]
    rfl

/-- A field is read where its key may come next. -/
theorem exists_run_field {depth : Nat} (hv : ReadsBack number? depth v)
    (hdepth : frames.length + 1 + depth ≤ maxDepth) {expect : Expect}
    (he : expect = .key ∨ expect = .firstKey) (fields : Document) (key : String) :
    ∃ r, Settled number? (.object fields (some key) :: frames) v r ∧
      ∀ s, run number? ⟨.object fields none :: frames, .between expect⟩
        (writeString key ++ ':' :: (v.write ++ s)) = run number? r s := by
  obtain ⟨r, hrun, hsettled⟩ := hv (.object fields (some key) :: frames) .value (.inl rfl)
    (fun _ => ⟨_, rfl⟩) hdepth
  refine ⟨r, hsettled, fun s => ?_⟩
  rw [run_append, run_key he, Option.bind_some, Reader.run_cons]
  change run number? ⟨.object fields (some key) :: frames, .between .value⟩ _ = _
  rw [run_append, hrun, Option.bind_some]

/-- A field whose key comes last is put behind the others. -/
theorem complete_field {fields rest : Document} {key : String}
    (hordered : Keyed.Ordered (fields ++ (key, v) :: rest)) :
    complete (.object fields (some key) :: frames) v =
      some ⟨.object (fields ++ [(key, v)]) none :: frames, .between .separator⟩ := by
  have hbelow : ∀ field ∈ fields, field.1 < key := fun field hm =>
    (List.pairwise_append.mp hordered).2.2 field hm (key, v) List.mem_cons_self
  rw [complete, insert_of_last hbelow]

/-- The fields after one that has been read are read to the end of the object. -/
theorem run_writeFields {depth : Nat} {rest : List (String × Value)}
    (h : ∀ field ∈ rest, ReadsBack number? depth field.2) {fields : Document} {key : String}
    (hordered : Keyed.Ordered (fields ++ (key, v) :: rest))
    (hdepth : frames.length + 1 + depth ≤ maxDepth)
    (hsettled : Settled number? (.object fields (some key) :: frames) v r) :
    run number? r (writeFields rest) = complete frames (.object (fields ++ (key, v) :: rest)) := by
  induction rest generalizing fields key v r with
  | nil =>
    rw [writeFields, hsettled.run_cons (by decide) (complete_field hordered)]
    exact Option.bind_fun_some _
  | cons field rest ih =>
    obtain ⟨nextKey, value⟩ := field
    obtain ⟨hvalue, hrest⟩ := List.forall_mem_cons.mp h
    obtain ⟨r', hnext, hrun⟩ := exists_run_field hvalue hdepth (.inl rfl) (fields ++ [(key, v)])
      nextKey
    rw [writeFields, hsettled.run_cons (by decide) (complete_field hordered), Reader.run_cons]
    change run number? ⟨.object (fields ++ [(key, v)]) none :: frames, .between .key⟩ _ = _
    rw [List.append_cons fields (key, v) ((nextKey, value) :: rest)] at hordered ⊢
    rw [hrun, ih hrest hordered hnext]

/-- A legible value is read from what is written of it. -/
theorem readsBack_of_legible (hrespelled : ∀ n, legal n → n.Respelled number?) {depth : Nat}
    (h : v.Legible legal depth) : ReadsBack number? depth v := by
  induction h with
  | null =>
    intro _ _ he _ _
    exact exists_settled_word he (by decide) (List.all_eq_true.mp (by decide)) rfl
  | bool b =>
    intro _ _ he _ _
    cases b with
    | true => exact exists_settled_word he (by decide) (List.all_eq_true.mp (by decide)) rfl
    | false => exact exists_settled_word he (by decide) (List.all_eq_true.mp (by decide)) rfl
  | @number _ n spelled =>
    intro _ _ he _ _
    have hn := hrespelled n spelled
    obtain ⟨c, rest, hwrite, -⟩ := hn.first
    have hne : n.write ≠ [] := by simp [hwrite]
    exact exists_settled_word he hne hn.word (wordValue?_write hn)
  | string s => exact fun _ _ he hready _ => exists_settled hready (run_writeString he s)
  | @array depth items _ ih =>
    intro frames expect he hready hdepth
    cases items with
    | nil =>
      refine exists_settled hready ((run_descend he (by omega) _).1.trans ?_)
      exact Option.bind_fun_some _
    | cons item rest =>
      obtain ⟨hitem, hrest⟩ := List.forall_mem_cons.mp ih
      obtain ⟨r, hrun, hsettled⟩ := hitem (.array [] :: frames) .firstItem (.inr rfl)
        (fun _ => ⟨_, rfl⟩) (by rw [List.length_cons]; omega)
      refine exists_settled hready ((run_descend he (by omega) _).1.trans ?_)
      rw [run_append, hrun, Option.bind_some]
      exact run_writeItems hrest (by omega) hsettled
  | @object depth fields ordered _ ih =>
    intro frames expect he hready hdepth
    cases fields with
    | nil =>
      refine exists_settled hready ((run_descend he (by omega) _).2.trans ?_)
      exact Option.bind_fun_some _
    | cons field rest =>
      obtain ⟨key, value⟩ := field
      obtain ⟨hvalue, hrest⟩ := List.forall_mem_cons.mp ih
      have hdepth : frames.length + 1 + depth ≤ maxDepth := by omega
      obtain ⟨r, hsettled, hrun⟩ := exists_run_field hvalue hdepth (.inr rfl) [] key
      refine exists_settled hready ((run_descend he (by omega) _).2.trans ?_)
      rw [hrun]
      exact run_writeFields hrest ordered hdepth hsettled

end Reader

/-- The text of a legible value is read as that value, if its numbers are. -/
theorem readBy_write {number? : List Char → Option Number} {legal : Number → Prop}
    (hrespelled : ∀ n, legal n → n.Respelled number?) {v : Value}
    (h : v.Legible legal Reader.maxDepth) : readBy number? v.write = some v := by
  obtain ⟨r, hrun, hsettled⟩ := Reader.readsBack_of_legible hrespelled h [] .value (.inl rfl)
    (fun v => ⟨_, rfl⟩) (Nat.le_of_eq (Nat.zero_add _))
  change (Reader.run number? ⟨[], .between .value⟩ v.write).bind (Reader.finish number?) = some v
  rw [hrun, Option.bind_some, hsettled.last]
  rfl

/-- So is it from the bytes of the text. -/
theorem readBy_bytes_render {number? : List Char → Option Number} {legal : Number → Prop}
    (hrespelled : ∀ n, legal n → n.Respelled number?) {v : Value}
    (h : v.Legible legal Reader.maxDepth) :
    (Text.Utf8.decode? (Text.Utf8.encode v.render)).bind (readBy number?) = some v := by
  rw [Text.Utf8.decode?_encode, Option.bind_some, Value.render, String.toList_ofList,
    readBy_write hrespelled h]

end DocumentGateway.Json

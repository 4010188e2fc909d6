import DocumentGateway.Json.Parser
import DocumentGateway.Proofs.Text.Utf8

/-!
# What blanks spell

A text of blanks alone, the form feed among them, is no JSON text: the reader passes over the blanks
of the grammar without beginning anything, and at a form feed it stops.
-/

namespace DocumentGateway.Json

/-- Before a value has begun, a blank changes nothing or is refused. -/
theorem step_start_of_blank {number? : List Char → Option Number} {c : Char}
    (h : Reader.isBlank c = true ∨ c = '\x0C') :
    Reader.start.step number? c = some Reader.start ∨ Reader.start.step number? c = none := by
  rcases h with h | rfl
  · refine .inl ?_
    simp only [Reader.start, Reader.step, Reader.stepBetween, if_pos h]
  · exact .inr rfl

/-- Blanks spell no value. -/
theorem read?_of_blank {s : List Char} (h : ∀ c ∈ s, Reader.isBlank c = true ∨ c = '\x0C') :
    read? s = none := by
  have hfold : s.foldlM (Reader.step Number.ofWord?) Reader.start = some Reader.start ∨
      s.foldlM (Reader.step Number.ofWord?) Reader.start = none := by
    induction s with
    | nil => exact .inl rfl
    | cons c rest ih =>
      rw [List.foldlM_cons]
      rcases step_start_of_blank (h c List.mem_cons_self) with hstep | hstep
      · rw [hstep]
        exact ih fun d hd => h d (List.mem_cons_of_mem _ hd)
      · rw [hstep]
        exact .inr rfl
  rcases hfold with hfold | hfold
  · rw [read?, readBy, hfold]
    rfl
  · rw [read?, readBy, hfold]
    rfl

/-- The value that some bytes spell, if they are well-formed JSON text. -/
def spelled? (bytes : Bytes) : Option Value := (Text.Utf8.decode? bytes).bind read?

/-- Blank bytes spell no value. -/
theorem spelled?_of_blank {bytes : Bytes} (h : bytes.all Text.isSpaceByte = true) :
    spelled? bytes = none := by
  have hblank : ∀ b ∈ bytes, b = 0x20 ∨ b = 0x09 ∨ b = 0x0A ∨ b = 0x0C ∨ b = 0x0D := by
    simpa [Text.isSpaceByte, or_assoc] using h
  have hascii : ∀ b ∈ bytes, b < 0x80 := by
    intro b hb
    rcases hblank b hb with rfl | rfl | rfl | rfl | rfl <;> decide
  rw [spelled?, Text.Utf8.decode?_of_ascii hascii, Option.bind_some]
  refine read?_of_blank fun c hc => ?_
  obtain ⟨b, hb, rfl⟩ := List.mem_map.mp hc
  rcases hblank b hb with rfl | rfl | rfl | rfl | rfl <;> decide

end DocumentGateway.Json

import DocumentGateway.Flow.Intake

/-!
# What a form comes to

The parts of a form are gathered one after the other. What they come to is told by the first file
and the first field for the properties alone, and room is made once, if there is a file at all.
-/

namespace DocumentGateway.Upload

open DocumentGateway.Http.Multipart (Part Form)

/-- The first file among some parts. -/
def firstFile? (parts : List Part) : Option Part := parts.find? fun part => part.head.isFile

/-- Whether a part is a field for the properties. -/
def holdsProperties (part : Part) : Bool :=
  !part.head.isFile && part.head.name == some propertiesField

/-- The first field for the properties among some parts. -/
def firstProperties? (parts : List Part) : Option Part := parts.find? holdsProperties

/-- The file that a part is stored as. -/
def stored (part : Part) : Stored := ⟨part.data, part.head.filename⟩

/-- What some parts add to what has been gathered before them. -/
def Gathered.after (g : Gathered) (parts : List Part) : Gathered where
  properties := g.properties.or ((firstProperties? parts).map (·.text))
  file := g.file.or ((firstFile? parts).map stored)

/-- Whether reading a form comes to a file, be it one within which the form breaks. -/
def reachesFile (form : Form) : Bool :=
  form.parts.any (·.head.isFile) ||
    match form.ending with
    | .closed => false
    | .broken opened => opened.any (·.isFile)

/-- What a form comes to after what has been gathered before. -/
def Gathered.read (g : Gathered) (form : Form) : Except BodyError Gathered :=
  match form.ending with
  | .closed => .ok (g.after form.parts)
  | .broken _ => .error .unreadableForm

/-- The chunks of a file are written in their order, none of them twice. -/
theorem writeChunks_eq (written : Bytes) (chunks : List Bytes) :
    writeChunks written chunks = written ++ chunks.flatten := by
  induction chunks generalizing written with
  | nil => simp [writeChunks]
  | cons chunk rest ih => simp [writeChunks, ih]

theorem firstFile?_cons (part : Part) (rest : List Part) :
    firstFile? (part :: rest) = if part.head.isFile then some part else firstFile? rest := by
  rw [firstFile?, List.find?_cons]
  cases part.head.isFile with
  | true | false => rfl

theorem firstProperties?_cons (part : Part) (rest : List Part) :
    firstProperties? (part :: rest) =
      if holdsProperties part then some part else firstProperties? rest := by
  rw [firstProperties?, List.find?_cons]
  cases holdsProperties part with
  | true | false => rfl

theorem isSome_firstFile? (parts : List Part) :
    (firstFile? parts).isSome = parts.any (·.head.isFile) :=
  List.isSome_find? ..

namespace Gathered

variable (g : Gathered) {part : Part}

theorem file_store (part : Part) : (g.store part).file = some (stored part) := by
  simp [store, stored, writeChunks_eq, Http.Multipart.Part.data]

/-- The first file counts. -/
theorem after_cons_of_awaitsFile (h : g.awaitsFile part.head = true) (rest : List Part) :
    g.after (part :: rest) = (g.store part).after rest := by
  obtain ⟨hfile, hnone⟩ := Bool.and_eq_true_iff.mp h
  have hfirst : firstFile? (part :: rest) = some part := by simp [firstFile?_cons, hfile]
  have hproperties : firstProperties? (part :: rest) = firstProperties? rest := by
    simp [firstProperties?_cons, holdsProperties, hfile]
  rw [after, after, hfirst, hproperties, file_store, Option.isNone_iff_eq_none.mp hnone]
  rfl

/-- The first field for the properties counts. -/
theorem after_cons_of_awaitsProperties (h : g.awaitsProperties part.head = true)
    (rest : List Part) : g.after (part :: rest) = (g.note part).after rest := by
  obtain ⟨hholds, hnone⟩ := Bool.and_eq_true_iff.mp h
  have hnot : part.head.isFile = false := by
    simpa using (Bool.and_eq_true_iff.mp hholds).1
  have hfile : firstFile? (part :: rest) = firstFile? rest := by simp [firstFile?_cons, hnot]
  have hfirst : firstProperties? (part :: rest) = some part := by
    rw [firstProperties?_cons]
    exact if_pos hholds
  rw [after, after, hfile, hfirst, Option.isNone_iff_eq_none.mp hnone]
  rfl

/-- No other part counts. -/
theorem after_cons_of_not_awaits (hfile : g.awaitsFile part.head = false)
    (hproperties : g.awaitsProperties part.head = false) (rest : List Part) :
    g.after (part :: rest) = g.after rest := by
  have hfiles : g.file.or ((firstFile? (part :: rest)).map stored) =
      g.file.or ((firstFile? rest).map stored) := by
    cases hnone : g.file with
    | some file => rfl
    | none =>
      have hnot : part.head.isFile = false := by simpa [awaitsFile, hnone] using hfile
      simp [firstFile?_cons, hnot]
  have htexts : g.properties.or ((firstProperties? (part :: rest)).map (·.text)) =
      g.properties.or ((firstProperties? rest).map (·.text)) := by
    cases hnone : g.properties with
    | some text => rfl
    | none =>
      have hnot : holdsProperties part = false := by
        simpa [awaitsProperties, holdsProperties, hnone] using hproperties
      simp [firstProperties?_cons, hnot]
  rw [after, after, hfiles, htexts]

end Gathered

end DocumentGateway.Upload

namespace DocumentGateway.Flow

open DocumentGateway.Http.Multipart (Part Form Ending)
open DocumentGateway.Upload (Gathered reachesFile)

/-- Go on with some content, after room has been made if there is a file. -/
def roomFor {α : Type} (file : Bool) (rest : Except BodyError α) : Program (Except BodyError α) :=
  if file then withRoom (.done rest) else .done rest

/-- The parts of a form are gathered to what they come to. The induction goes part by part, with
what has been gathered before kept arbitrary; room is made at the part that brings the file. -/
theorem gatherParts_eq (ending : Ending) (parts : List Part) (g : Gathered) :
    gatherParts ending parts g =
      roomFor (g.file.isNone && reachesFile ⟨parts, ending⟩) (g.read ⟨parts, ending⟩) := by
  induction parts generalizing g with
  | nil =>
    cases ending with
    | closed => simp [gatherParts, roomFor, Gathered.read, Gathered.after, reachesFile,
        Upload.firstFile?, Upload.firstProperties?]
    | broken opened =>
      have hopened : opened.any g.awaitsFile =
          (g.file.isNone && reachesFile ⟨[], .broken opened⟩) := by
        cases opened with
        | none => simp [reachesFile]
        | some head => simp [reachesFile, Gathered.awaitsFile, Bool.and_comm]
      simp only [gatherParts, hopened]
      rfl
  | cons part rest ih =>
    have hread : ∀ g' : Gathered, g.after (part :: rest) = g'.after rest →
        g.read ⟨part :: rest, ending⟩ = g'.read ⟨rest, ending⟩ := by
      intro g' hafter
      cases ending with
      | closed => exact congrArg Except.ok hafter
      | broken opened => rfl
    simp only [gatherParts]
    by_cases hfile : g.awaitsFile part.head = true
    · have hreach : (g.file.isNone && reachesFile ⟨part :: rest, ending⟩) = true := by
        obtain ⟨hisFile, hnone⟩ := Bool.and_eq_true_iff.mp hfile
        simp [reachesFile, hisFile, hnone]
      have hstored : (g.store part).file.isNone = false := by rw [g.file_store]; rfl
      rw [if_pos hfile, ih, hread _ (g.after_cons_of_awaitsFile hfile rest), hreach, hstored]
      rfl
    · have hskip : (g.file.isNone && reachesFile ⟨part :: rest, ending⟩) =
          (g.file.isNone && reachesFile ⟨rest, ending⟩) := by
        cases hnone : g.file with
        | some file => rfl
        | none =>
          have hnot : part.head.isFile = false := by simpa [Gathered.awaitsFile, hnone] using hfile
          simp [reachesFile, hnot]
      rw [if_neg hfile, hskip]
      by_cases hproperties : g.awaitsProperties part.head = true
      · rw [if_pos hproperties, ih, hread _ (g.after_cons_of_awaitsProperties hproperties rest)]
        rfl
      · rw [if_neg hproperties, ih, hread g (g.after_cons_of_not_awaits
          (Bool.eq_false_iff.mpr hfile) (Bool.eq_false_iff.mpr hproperties) rest)]

/-- The properties and the file of a form are those that its parts come to. -/
theorem storeUpload_eq (sniff : Upload.Sniffer) (form : Form) :
    storeUpload sniff form =
      roomFor (reachesFile form) ((Gathered.empty.read form).bind (·.complete sniff)) := by
  rw [storeUpload, gatherParts_eq, roomFor, roomFor]
  cases reachesFile form with
  | true =>
    refine congrArg (Program.call .reserve) (funext fun room => ?_)
    cases room with
    | error | ok => rfl
  | false => rfl

end DocumentGateway.Flow

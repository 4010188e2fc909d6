import DocumentGateway.Proofs.Store.Database

/-!
# Which writes take effect

Whatever a database has been asked to write, its documents carry their versions as texts, so that
every later write can be compared with the version that it meets. A write therefore falls into one
of four cases, by what is stored under its name: it creates, it updates, it misses what it would be
merged into, or it conflicts. In the first two it stores a document, of which each key is accounted
for, and in the others it changes nothing.
-/

namespace DocumentGateway.Store.Database

/-- A write that a database is asked for: under which name, and with which fresh token. -/
structure Attempt where
  /-- The name of the database. -/
  db : String
  /-- What is written, and under which condition. -/
  write : Write
  /-- The version token drawn for it. -/
  fresh : String

/-- What is stored after some attempts, one after another. -/
def attempt (databases : Database) (attempts : List Attempt) : Database :=
  attempts.foldl (fun databases a => (upsert databases a.db a.write a.fresh).2) databases

/-- A document as it is stored: its version is a text, and it has no identifier. -/
structure Labelled (d : Document) : Prop where
  version : ∃ version, d.get? etagField = some (.string version)
  anonymous : d.get? idField = none

/-- Every document that is stored is labelled. -/
def AllLabelled (databases : Database) : Prop :=
  ∀ name d, databases.get? name = some d → Labelled d

/-- A write creates a database: it is no merge, and there is none of its name. -/
structure Creates (databases : Database) (db : String) (w : Write) : Prop where
  replacing : w.patching = false
  absent : databases.get? db = none

/-- A write updates a document that is stored under a version: it is no merge by somebody who has
seen nothing, and it is sent for that version, or for none where none is required. -/
structure Updates (databases : Database) (db : String) (w : Write) (stored : Document)
    (version : String) : Prop where
  found : databases.get? db = some stored
  labelled : stored.get? etagField = some (.string version)
  seen : w.patching = true → w.updating = true
  current : w.etag = some version ∨ w.etag = none ∧ w.checkEtag = false

/-- A write misses: it is a merge by somebody who has seen nothing, or there is nothing. -/
structure Misses (databases : Database) (db : String) (w : Write) : Prop where
  patching : w.patching = true
  unseen : w.updating = false ∨ databases.get? db = none

/-- What a write leaves under its name: the fresh version, no identifier, and under any other key
what it brings, or else, if it is a merge, what was there before. -/
structure Leaves (previous : Option Document) (w : Write) (fresh : String) (d : Document) :
    Prop where
  version : d.get? etagField = some (.string fresh)
  anonymous : d.get? idField = none
  rest : ∀ key, key ≠ etagField → key ≠ idField → d.get? key =
    (w.content.get? key).or (if w.patching then previous.bind (·.get? key) else none)

theorem get?_stamped (content : Document) (fresh key : String) :
    (stamped content fresh).get? key =
      if etagField = key then some (.string fresh)
      else if idField = key then none else content.get? key := by
  rw [stamped, Keyed.get?_insert, Keyed.get?_erase]

variable {databases : Database} {db : String} {w : Write} {fresh : String}

theorem Leaves.labelled {previous : Option Document} {d : Document}
    (h : Leaves previous w fresh d) : Labelled d :=
  ⟨⟨fresh, h.version⟩, h.anonymous⟩

/-- What a write stores is accounted for key by key. That a merge leaves no identifier is because
there was none before. -/
theorem leaves_of_success (h : AllLabelled databases) (hw : Keyed.Ordered w.content)
    (hsuccess : (upsert databases db w fresh).1.status.isSuccess = true) :
    ∃ d, (upsert databases db w fresh).2.get? db = some d ∧
      Leaves (databases.get? db) w fresh d := by
  obtain ⟨d, hstored, -, hkept⟩ := exists_stored hw hsuccess
  refine ⟨d, hstored, ?_, ?_, fun key hetag hid => ?_⟩
  · rw [hkept, get?_stamped, if_pos rfl, Option.some_or]
  · have hprevious : (databases.get? db).bind (·.get? idField) = none := by
      cases hfound : databases.get? db with
      | none => rfl
      | some stored => exact (h db stored hfound).anonymous
    have hne : etagField ≠ idField := by decide
    rw [hkept, get?_stamped, if_neg hne, if_pos rfl, hprevious, ite_self, Option.none_or]
  · rw [hkept, get?_stamped, if_neg (Ne.symm hetag), if_neg (Ne.symm hid)]

/-- A write leaves every document labelled. -/
theorem AllLabelled.upsert (h : AllLabelled databases) (hw : Keyed.Ordered w.content) :
    AllLabelled (upsert databases db w fresh).2 := by
  intro name d hd
  by_cases hname : db = name
  · subst hname
    cases hsuccess : (Database.upsert databases db w fresh).1.status.isSuccess with
    | false =>
      rw [upsert_of_not_success hsuccess] at hd
      exact h db d hd
    | true =>
      obtain ⟨stored, hstored, hleaves⟩ := leaves_of_success h hw hsuccess
      cases hstored.symm.trans hd
      exact hleaves.labelled
  · rw [get?_upsert_of_ne w fresh hname] at hd
    exact h name d hd

/-- So do any attempts, one after another. -/
theorem AllLabelled.attempt {attempts : List Attempt} (h : AllLabelled databases)
    (hordered : ∀ a ∈ attempts, Keyed.Ordered a.write.content) :
    AllLabelled (databases.attempt attempts) := by
  induction attempts generalizing databases with
  | nil => exact h
  | cons a rest ih =>
    have hrest := List.forall_mem_cons.mp hordered
    exact ih (h.upsert hrest.1) hrest.2

/-- A version is current for whoever sends it, or sends none where none is required. -/
theorem isStale_eq_false_iff {sent : Option String} {version : String} {required : Bool} :
    isStale sent (some version) required = false ↔
      sent = some version ∨ sent = none ∧ required = false := by
  cases sent with
  | none => simp [isStale]
  | some text => simp [isStale]

theorem upsert_of_creates (h : Creates databases db w) :
    upsert databases db w fresh =
      (⟨.created, some fresh⟩, databases.insert db (stamped w.content fresh)) := by
  simp [upsert, h.replacing, h.absent]

theorem upsert_of_updates {stored : Document} {version : String}
    (h : Updates databases db w stored version) :
    upsert databases db w fresh = (⟨.noContent, some fresh⟩, databases.insert db
      (if w.patching then Keyed.overlay stored (stamped w.content fresh)
        else stamped w.content fresh)) := by
  have hseen : (w.patching && !w.updating) = false := by simpa using h.seen
  have hcurrent := isStale_eq_false_iff.mpr h.current
  simp [upsert, hseen, h.found, Keyed.text?_eq_some_iff.mpr h.labelled, hcurrent]

theorem upsert_of_misses (h : Misses databases db w) :
    upsert databases db w fresh = (⟨.notFound, none⟩, databases) := by
  rcases h.unseen with hunseen | habsent
  · simp [upsert, h.patching, hunseen]
  · simp [upsert, h.patching, habsent]

/-- What neither creates nor updates nor misses is a conflict with what is stored. -/
theorem upsert_otherwise (hlabelled : AllLabelled databases)
    (hcreates : ¬Creates databases db w)
    (hupdates : ¬∃ stored version, Updates databases db w stored version)
    (hmisses : ¬Misses databases db w) :
    ∃ stored version, databases.get? db = some stored ∧
      stored.get? etagField = some (.string version) ∧
      upsert databases db w fresh = (⟨.conflict, some version⟩, databases) := by
  cases hfound : databases.get? db with
  | none =>
    cases hpatching : w.patching with
    | false => exact absurd ⟨hpatching, hfound⟩ hcreates
    | true => exact absurd ⟨hpatching, .inr hfound⟩ hmisses
  | some stored =>
    obtain ⟨version, hversion⟩ := (hlabelled db stored hfound).version
    have hseen : w.patching = true → w.updating = true := by
      intro hpatching
      cases hupdating : w.updating with
      | false => exact absurd ⟨hpatching, .inl hupdating⟩ hmisses
      | true => rfl
    have hstale : isStale w.etag (some version) w.checkEtag = true := by
      cases hcurrent : isStale w.etag (some version) w.checkEtag with
      | false =>
        have hmatch := isStale_eq_false_iff.mp hcurrent
        exact absurd ⟨stored, version, hfound, hversion, hseen, hmatch⟩ hupdates
      | true => rfl
    have hunseen : (w.patching && !w.updating) = false := by simpa using hseen
    refine ⟨stored, version, rfl, hversion, ?_⟩
    simp [upsert, hunseen, hfound, Keyed.text?_eq_some_iff.mpr hversion, hstale]

/-- After any attempts, each write is answered by what it meets. It takes effect if it creates or
updates, and then leaves under its name the fresh version, no identifier, and else what it brings
over what a merge found there. It is answered with 404 if it misses, and with 409 and the stored
version in all other cases, and then nothing has changed. No other name ever does. That a write
which takes effect makes a difference presupposes that the token drawn for it is not the stored
one. -/
theorem upsert_exact (attempts : List Attempt) (db : String) (w : Write) (fresh : String)
    (hattempts : ∀ a ∈ attempts, Keyed.Ordered a.write.content) (hw : Keyed.Ordered w.content) :
    let before := attempt [] attempts
    let result := (upsert before db w fresh).1
    let after := (upsert before db w fresh).2
    let creates := Creates before db w
    let updates := ∃ stored version, Updates before db w stored version
    let misses := Misses before db w
    (before.version? db ≠ some fresh → (after ≠ before ↔ creates ∨ updates)) ∧
    (creates → result = ⟨.created, some fresh⟩) ∧
    (updates → result = ⟨.noContent, some fresh⟩) ∧
    (creates ∨ updates → ∃ d, after.get? db = some d ∧ Leaves (before.get? db) w fresh d) ∧
    (misses → result = ⟨.notFound, none⟩ ∧ after = before) ∧
    (¬creates → ¬updates → ¬misses → after = before ∧
      ∃ stored version, before.get? db = some stored ∧
        stored.get? etagField = some (.string version) ∧ result = ⟨.conflict, some version⟩) ∧
    ∀ name, name ≠ db → after.get? name = before.get? name := by
  intro before result after creates updates misses
  have hstart : AllLabelled [] := fun _ _ hnone => nomatch hnone
  have hlabelled : AllLabelled before := hstart.attempt hattempts
  have hcreated : creates → result = ⟨.created, some fresh⟩ := fun hcreates =>
    congrArg Prod.fst (upsert_of_creates hcreates)
  have hupdated : updates → result = ⟨.noContent, some fresh⟩ := fun ⟨_, _, hupdates⟩ =>
    congrArg Prod.fst (upsert_of_updates hupdates)
  have hsuccess : creates ∨ updates → result.status.isSuccess = true := by
    rintro (hcreates | hupdates)
    · rw [hcreated hcreates]
      rfl
    · rw [hupdated hupdates]
      rfl
  have heffect : creates ∨ updates →
      ∃ d, after.get? db = some d ∧ Leaves (before.get? db) w fresh d :=
    fun htakes => leaves_of_success hlabelled hw (hsuccess htakes)
  have hmissing : misses → result = ⟨.notFound, none⟩ ∧ after = before := by
    intro hmisses
    have houtcome : upsert before db w fresh = _ := upsert_of_misses hmisses
    exact ⟨congrArg Prod.fst houtcome, congrArg Prod.snd houtcome⟩
  have hconflict : ¬creates → ¬updates → ¬misses → after = before ∧
      ∃ stored version, before.get? db = some stored ∧
        stored.get? etagField = some (.string version) ∧ result = ⟨.conflict, some version⟩ := by
    intro hcreates hupdates hmisses
    obtain ⟨stored, version, hfound, hversion, houtcome⟩ := upsert_otherwise hlabelled
      hcreates hupdates hmisses
    exact ⟨congrArg Prod.snd houtcome, stored, version, hfound, hversion,
      congrArg Prod.fst houtcome⟩
  refine ⟨fun hfresh => ⟨fun hchanged => ?_, fun htakes hsame => ?_⟩, hcreated, hupdated, heffect,
    hmissing, hconflict, fun name hname => get?_upsert_of_ne w fresh (Ne.symm hname)⟩
  · by_cases hcreates : creates
    · exact .inl hcreates
    · by_cases hupdates : updates
      · exact .inr hupdates
      · by_cases hmisses : misses
        · exact absurd (hmissing hmisses).2 hchanged
        · exact absurd (hconflict hcreates hupdates hmisses).1 hchanged
  · obtain ⟨d, hstored, hleaves⟩ := heffect htakes
    rw [hsame] at hstored
    refine hfresh ?_
    rw [version?, hstored]
    exact Keyed.text?_eq_some_iff.mpr hleaves.version

/-- A database is created and then merged into, both times with a version that the client made up,
once no text and once a text. -/
def forgedAttempts : List Attempt :=
  [⟨"shop", ⟨[("_etag", .natural 3), ("_id", .string "x"), ("a", .natural 1)], none, false, false,
      true⟩, "first"⟩,
    ⟨"shop", ⟨[("_etag", .string "forged"), ("b", .null)], none, true, true, false⟩, "second"⟩]

/-- A merge for a version, which brings an identifier and no version. -/
def mergeFor (version : String) : Write :=
  ⟨[("_etag", .null), ("_id", .string "y"), ("b", .natural 2)], some version, true, true, true⟩

/-- The version that was drawn last is the one that counts, and not the one that was made up. -/
theorem upsert_exact_forged :
    let before := attempt [] forgedAttempts
    (upsert before "shop" (mergeFor "forged") "third").1 = ⟨.conflict, some "second"⟩ ∧
      (upsert before "shop" (mergeFor "second") "third").1 = ⟨.noContent, some "third"⟩ ∧
      (upsert before "shop" (mergeFor "second") "third").2 ≠ before ∧
      ∃ d, (upsert before "shop" (mergeFor "second") "third").2.get? "shop" = some d ∧
        d.get? "_etag" = some (.string "third") ∧ d.get? "_id" = none ∧
        d.get? "a" = some (.natural 1) ∧ d.get? "b" = some (.natural 2) := by
  intro before
  have hattempts : ∀ a ∈ forgedAttempts, Keyed.Ordered a.write.content := by
    simp only [forgedAttempts, List.forall_mem_cons]
    refine ⟨?_, ?_, fun _ h => nomatch h⟩
    · exact (Keyed.ordered_nil.insert "_etag" _).insert "_id" _ |>.insert "a" _
    · exact (Keyed.ordered_nil.insert "_etag" _).insert "b" _
  have hmerge : ∀ version, Keyed.Ordered (mergeFor version).content := fun _ =>
    ((Keyed.ordered_nil.insert "_etag" _).insert "_id" _).insert "b" _
  have hstored : before.get? "shop" = some [("_etag", .string "second"), ("a", .natural 1),
      ("b", .null)] := rfl
  have hupdates : Updates before "shop" (mergeFor "second") _ "second" :=
    ⟨hstored, rfl, fun _ => rfl, .inl rfl⟩
  have hforged : ¬∃ stored version, Updates before "shop" (mergeFor "forged") stored version := by
    rintro ⟨stored, version, found, labelled, _, current⟩
    cases hstored.symm.trans found
    cases labelled
    rcases current with hsent | ⟨hnone, _⟩
    · exact absurd hsent (by decide)
    · cases hnone
  have hpresent : before.get? "shop" ≠ none := by simp [hstored]
  obtain ⟨hchanges, _, hupdated, htakes, _⟩ :=
    upsert_exact forgedAttempts "shop" (mergeFor "second") "third" hattempts (hmerge _)
  obtain ⟨_, _, _, _, _, hconflict, _⟩ :=
    upsert_exact forgedAttempts "shop" (mergeFor "forged") "third" hattempts (hmerge _)
  obtain ⟨_, stored, version, found, labelled, hrefused⟩ := hconflict
    (fun h => hpresent h.absent) hforged fun h => h.unseen.elim (fun hunseen => nomatch hunseen)
      hpresent
  obtain ⟨d, hd, hleaves⟩ := htakes (.inr ⟨_, _, hupdates⟩)
  cases hstored.symm.trans found
  cases labelled
  refine ⟨hrefused, hupdated ⟨_, _, hupdates⟩, (hchanges ?_).mpr (.inr ⟨_, _, hupdates⟩), d, hd,
    hleaves.version, hleaves.anonymous, ?_, ?_⟩
  · decide
  · exact hleaves.rest "a" (by decide) (by decide)
  · exact hleaves.rest "b" (by decide) (by decide)

end DocumentGateway.Store.Database

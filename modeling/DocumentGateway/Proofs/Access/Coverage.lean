import DocumentGateway.Access.Admission
import DocumentGateway.Flow.Context
import DocumentGateway.Proofs.Flow.Address

/-!
# What a permission covers

A permission for a path covers what lies below it, segment by segment, as far as no segment of the
request holds a slash of its own. The rules look at the joined path, in which a slash that was
escaped counts like any other: a database whose name holds a slash is covered by the permissions for
the part of its name before that slash.
-/

namespace DocumentGateway.Access

open DocumentGateway.Flow (joinPath segments slashPieces)

/-- The prefix for some segments, with slashes at its end. -/
def prefixText (names : List String) (slashes : Nat) : String :=
  String.ofList (Text.separated '/' (names.map String.toList) ++ List.replicate slashes '/')

/-- A segment that a prefix can name. -/
def IsPlain (name : String) : Prop := name ≠ "" ∧ '/' ∉ name.toList

variable {names : List String} {path : List String}

/-- Slashes at the end of a prefix do not count. -/
theorem trimEnd_prefixText (h : ∀ name ∈ names, IsPlain name) (slashes : Nat) :
    Text.trimEnd (· = '/') (prefixText names slashes).toList =
      Text.separated '/' (names.map String.toList) := by
  have hslashes : ∀ c ∈ List.replicate slashes '/', decide (c = '/') = true := by
    intro c hc
    exact decide_eq_true (List.eq_of_mem_replicate hc)
  rw [prefixText, String.toList_ofList, Text.trimEnd_append_of_all _ hslashes]
  rcases List.eq_nil_or_concat names with rfl | ⟨before, last, rfl⟩
  · rfl
  · obtain ⟨hne, hplain⟩ := h last (by simp)
    -- The last name is not empty, so that its last character stops the trimming.
    have hchars : last.toList ≠ [] := fun hnil => hne (String.toList_eq_nil_iff.mp hnil)
    obtain ⟨chars, c, hlast⟩ := (List.eq_nil_or_concat last.toList).resolve_left hchars
    have hc : decide (c = '/') = false := by
      refine decide_eq_false fun hslash => hplain ?_
      rw [hlast, hslash]
      simp
    have hsplit : Text.separated '/' ((before.concat last).map String.toList) =
        Text.separated '/' (before.map String.toList) ++ '/' :: chars ++ [c] := by
      simp [Text.separated_append, hlast]
    rw [hsplit]
    exact Text.trimEnd_concat _ hc

/-- A permission covers a path if the path goes on with a slash after its prefix, or ends there. -/
theorem coversPath_iff {p : Permission} {start : List Char}
    (h : Text.trimEnd (· = '/') p.pathPrefix.toList = start) (s : String) :
    p.coversPath s = true ↔
      start = [] ∨ ∃ rest, s.toList = start ++ rest ∧ Text.EndsPiece '/' rest := by
  simp only [Permission.coversPath, h, Bool.or_eq_true, List.isEmpty_iff,
    ← Text.dropStart?_eq_some_iff, Text.EndsPiece]
  refine or_congr Iff.rfl ?_
  cases Text.dropStart? start s.toList with
  | none => simp
  | some rest =>
    cases rest with
    | nil => simp
    | cons c rest => simp

/-- A permission covers a path if the segments of its prefix begin the pieces of the path. -/
theorem coversPath_joinPath (hnames : ∀ name ∈ names, IsPlain name) {p : Permission} {slashes : Nat}
    (hp : p.pathPrefix = prefixText names slashes) :
    p.coversPath (joinPath path) = true ↔
      names.map String.toList <+: path.flatMap slashPieces := by
  rw [coversPath_iff (by rw [hp, trimEnd_prefixText hnames])]
  cases names with
  | nil => simp
  | cons name names =>
    have hne : Text.separated '/' ((name :: names).map String.toList) ≠ [] := by simp
    rw [or_iff_right hne]
    cases path with
    | nil =>
      -- The root is a slash alone, while the name after the first slash is not empty.
      have hname : name.toList ≠ [] := fun hnil =>
        (hnames name List.mem_cons_self).1 (String.toList_eq_nil_iff.mp hnil)
      simp [joinPath, hname]
    | cons segment rest =>
      rw [Flow.toList_joinPath (List.cons_ne_nil segment rest)]
      refine Text.separated_prefix_iff (fun chars hc => ?_) fun piece hpiece =>
        Flow.not_mem_of_mem_slashPieces hpiece
      obtain ⟨other, hother, rfl⟩ := List.mem_map.mp hc
      exact (hnames other hother).2

/-- Where no segment holds a slash, the segments of the prefix begin those of the path. -/
theorem coversPath_of_not_mem (hnames : ∀ name ∈ names, IsPlain name) {p : Permission}
    {slashes : Nat} (hp : p.pathPrefix = prefixText names slashes)
    (hpath : ∀ s ∈ path, '/' ∉ s.toList) :
    p.coversPath (joinPath path) = true ↔ names <+: path := by
  rw [coversPath_joinPath hnames hp, Flow.flatMap_slashPieces_of_not_mem hpath,
    List.prefix_map_iff]
  constructor
  · rintro ⟨start, hstart, heq⟩
    rwa [List.map_injective_iff.mpr (fun _ _ => String.toList_injective) heq]
  · exact fun h => ⟨names, h, rfl⟩

/-- For every request, a permission covers the path that the rules look at exactly if the segments
of its prefix begin the pieces of the request's segments. If no segment holds a slash, these are the
segments themselves: the permission covers a request exactly if its prefix names the first segments
of it, and whoever holds permissions for one database only gets to no other. -/
theorem coversPath_iff_isPrefix (x : Http.Exchange) (policy : EtagPolicy) (names : List String)
    (hnames : ∀ name ∈ names, IsPlain name) (p : Permission) (slashes : Nat)
    (hp : p.pathPrefix = prefixText names slashes) :
    let c := Flow.Context.ofExchange x policy
    let path := segments x.request.uri.path
    (p.coversPath c.path = true ↔ names.map String.toList <+: path.flatMap slashPieces) ∧
    ((∀ s ∈ path, '/' ∉ s.toList) →
      (p.coversPath c.path = true ↔ names <+: path) ∧
      ∀ (rules : Rules) (caller : Option Account) (d : String), IsPlain d →
        (∀ q ∈ rules.permissions, q.role ∈ rolesOf caller →
          ∃ n, q.pathPrefix = prefixText [d] n) →
        rules.judge x.request.headers x.request.method c.path = .admitted caller →
        c.db = d) := by
  intro c path
  refine ⟨coversPath_joinPath hnames hp, fun hpath => ⟨coversPath_of_not_mem hnames hp hpath, ?_⟩⟩
  intro rules caller d hd honly hadmitted
  have hallowed := Rules.isAllowed_of_judge hadmitted
  obtain ⟨q, hq, hgrants⟩ := List.any_eq_true.mp hallowed
  simp only [Bool.and_eq_true, List.contains_iff_mem] at hgrants
  obtain ⟨n, hprefix⟩ := honly q hq hgrants.1.1
  have hplain : ∀ name ∈ [d], IsPlain name := fun name hm => List.mem_singleton.mp hm ▸ hd
  have hfirst : [d] <+: path :=
    (coversPath_of_not_mem hplain hprefix hpath).mp hgrants.1.2
  obtain ⟨rest, hrest⟩ := hfirst
  change path.head?.getD "" = d
  rw [← hrest]
  rfl

/-- A permission for everybody. -/
def publicPermission (pathPrefix : String) : Permission := ⟨anonymousRole, pathPrefix, []⟩

/-- The exchange of a request to read a path. -/
def readExchange (path : String) : Http.Exchange :=
  .ofRequest ⟨⟨.get, ⟨none, none, path, none⟩, []⟩, .ofBytes []⟩

/-- A permission for a database, given with a slash at its end, and a request for that database. -/
theorem coversPath_iff_isPrefix_shop :
    let c := Flow.Context.ofExchange (readExchange "/shop") .optional
    IsPlain "shop" ∧ (publicPermission "/shop/").pathPrefix = prefixText ["shop"] 1 ∧
      (∀ s ∈ segments "/shop", '/' ∉ s.toList) ∧
      (publicPermission "/shop/").coversPath c.path = true ∧ c.db = "shop" := by
  intro c
  have hplain : IsPlain "shop" := ⟨by decide, by decide⟩
  have hnames : ∀ name ∈ ["shop"], IsPlain name :=
    fun name hm => List.mem_singleton.mp hm ▸ hplain
  have hprefix : (publicPermission "/shop/").pathPrefix = prefixText ["shop"] 1 := by decide
  have hpath : ∀ s ∈ segments "/shop", '/' ∉ s.toList := by decide +kernel
  obtain ⟨hcovers, honly⟩ := (coversPath_iff_isPrefix (readExchange "/shop") .optional ["shop"]
    hnames (publicPermission "/shop/") 1 hprefix).2 hpath
  have hfirst : ["shop"] <+: segments "/shop" := by decide +kernel
  refine ⟨hplain, hprefix, hpath, hcovers.mpr hfirst, ?_⟩
  have hrule : ∀ q ∈ [publicPermission "/shop/"], q.role ∈ rolesOf none →
      ∃ n, q.pathPrefix = prefixText ["shop"] n := by
    intro q hq _
    rw [List.mem_singleton.mp hq]
    exact ⟨1, hprefix⟩
  exact honly ⟨"docgate", [], [publicPermission "/shop/"]⟩ none "shop" hplain hrule
    (by decide +kernel)

/-- A slash that is escaped in the name of a database: a permission for another database, whose name
stands before the slash, covers the request and admits it. -/
theorem escaped_slash_is_covered :
    let c := Flow.Context.ofExchange (readExchange "/a%2Fb") .optional
    IsPlain "a" ∧ (publicPermission "/a").pathPrefix = prefixText ["a"] 0 ∧
      (publicPermission "/a").coversPath c.path = true ∧ ¬["a"] <+: segments "/a%2Fb" ∧
      Rules.judge ⟨"docgate", [], [publicPermission "/a"]⟩ [] .get c.path = .admitted none ∧
      c.resource = .db ∧ c.db = "a/b" := by
  refine ⟨⟨by decide, by decide⟩, by decide, ?_⟩
  decide +kernel

end DocumentGateway.Access

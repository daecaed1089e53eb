import IncidentBoard.Proofs.Incident.Written
import IncidentBoard.Proofs.Store.Ledger
import IncidentBoard.Proofs.Store.Rows
import Mathlib.Data.List.Permutation

/-!
# What is written is what is read

A run that was written is read as the incident it was written for, whatever was written before it
and after it and whatever failed. Its details list the posts that are linked to it in the ledger.
A run that was written as deleted is not found.

## Main definitions

* `RunColumn.Typed` — attributes whose values are of the kinds of their columns.
* `Incident.ofAttributes` — the incident that attributes ask for.
* `Ledger.Reports`, `Ledger.ReportedBy` — the posts of a ledger that report on a run.
* `Store.written_is_read` — what is read after any operations.
-/

namespace IncidentBoard

/-! ## Values -/

/-- A value of a kind of columns: a text, a truth value or a whole number. -/
def Json.HasKind : Json → ColumnKind → Prop
  | .text _, .text => True
  | .bool _, .boolean => True
  | .int _, .integer => True
  | _, _ => False

/-- A value names a row by an id, in columns of texts. -/
def Json.Names (v : Json) (id : String) : Prop := (Cell.text id).Holds .text v

namespace Cell.Holds

variable {kind : ColumnKind} {v : Json} {a b : Cell}

theorem unique (ha : a.Holds kind v) (hb : b.Holds kind v) : a = b := by
  obtain ⟨raw, cell, rfl⟩ := ha
  obtain ⟨raw', cell', rfl⟩ := hb
  rw [cell, Option.some.injEq] at cell'
  rw [cell']

theorem text_iff {s : String} : a.Holds .text (.text s) ↔ a = .text s := by
  constructor
  · rintro ⟨raw, cell, rfl⟩
    cases cell
    rfl
  · rintro rfl
    exact ⟨_, rfl, rfl⟩

theorem int {n : Int} (h : a.Holds .integer (.int n)) : a = .int n := by
  obtain ⟨raw, cell, rfl⟩ := h
  rw [Json.cell?] at cell
  split at cell
  · cases cell
    rfl
  · cases cell

theorem bool {value : Bool} (h : a.Holds .boolean (.bool value)) :
    a = .int (if value then 1 else 0) := by
  obtain ⟨raw, cell, rfl⟩ := h
  cases cell
  rfl

end Cell.Holds

/-! ## Attributes -/

namespace RunColumn

/-- The value that attributes ask for in a column: the one given, or the default. -/
def value? (attributes : Json.Fields) (c : RunColumn) : Option Json :=
  (attributes.get? c.word).or c.default?

def textOf (attributes : Json.Fields) (c : RunColumn) : String :=
  match c.value? attributes with
  | some (.text s) => s
  | _ => ""

def intOf (attributes : Json.Fields) (c : RunColumn) : Int :=
  match c.value? attributes with
  | some (.int n) => n
  | _ => 0

def truthOf (attributes : Json.Fields) (c : RunColumn) : Bool :=
  match c.value? attributes with
  | some (.bool b) => b
  | _ => false

/-- The columns that the readers of a run look at. -/
def isRead : RunColumn → Bool
  | .activeStage | .playbook | .post => false
  | _ => true

/-- Attributes whose values are of the kinds of their columns, where a reader looks at them. -/
def Typed (attributes : Json.Fields) : Prop :=
  ∀ (c : RunColumn) (v : Json), c.isRead = true → attributes.get? c.word = some v →
    v.HasKind c.kind

theorem hasKind_default {c : RunColumn} {v : Json} (h : c.default? = some v) :
    v.HasKind c.kind := by
  cases c <;> cases h <;> trivial

theorem Typed.hasKind {attributes : Json.Fields} (typed : Typed attributes) {c : RunColumn}
    (read : c.isRead = true) {v : Json} (h : c.value? attributes = some v) : v.HasKind c.kind := by
  rcases Option.or_eq_some_iff.1 h with given | ⟨-, default⟩
  · exact typed c v read given
  · exact hasKind_default default

end RunColumn

/-- The incident that the attributes of a run ask for; its times are in milliseconds. -/
def Incident.ofAttributes (attributes : Json.Fields) : Incident where
  id := RunColumn.id.textOf attributes
  name := RunColumn.name.textOf attributes
  description := RunColumn.description.textOf attributes
  isActive := RunColumn.isActive.truthOf attributes
  createdAt := RunColumn.createAt.intOf attributes
  endedAt := RunColumn.endAt.intOf attributes
  commander := RunColumn.commander.textOf attributes
  team := RunColumn.team.textOf attributes
  channel := RunColumn.channel.textOf attributes

namespace RunRow.Records

variable {attributes : Json.Fields} {r : RunRow} (records : RunRow.Records attributes r)
  (typed : RunColumn.Typed attributes) (c : RunColumn) (read : c.isRead = true)

include records typed read

theorem text (kind : c.kind = .text) : r.get c = .text (c.textOf attributes) := by
  obtain ⟨v, value, holds⟩ := records.cells c
  have typed := typed.hasKind read value
  rw [kind] at holds typed
  cases v with
  | text s => simpa [RunColumn.textOf, RunColumn.value?, value] using Cell.Holds.text_iff.1 holds
  | _ => cases typed

theorem int (kind : c.kind = .integer) : r.get c = .int (c.intOf attributes) := by
  obtain ⟨v, value, holds⟩ := records.cells c
  have typed := typed.hasKind read value
  rw [kind] at holds typed
  cases v with
  | int n => simpa [RunColumn.intOf, RunColumn.value?, value] using holds.int
  | _ => cases typed

theorem truth (kind : c.kind = .boolean) :
    r.get c = .int (if c.truthOf attributes then 1 else 0) := by
  obtain ⟨v, value, holds⟩ := records.cells c
  have typed := typed.hasKind read value
  rw [kind] at holds typed
  cases v with
  | bool b => simpa [RunColumn.truthOf, RunColumn.value?, value] using holds.bool
  | _ => cases typed

omit read

/-- A row of typed attributes is read as the incident they ask for, in seconds. -/
theorem readAs : r.ReadAs (Incident.ofAttributes attributes).inSeconds := by
  have id : r.id = _ := records.text typed .id rfl rfl
  have name : r.name = _ := records.text typed .name rfl rfl
  have description : r.description = _ := records.text typed .description rfl rfl
  have active : r.isActive = _ := records.truth typed .isActive rfl rfl
  have created : r.createAt = _ := records.int typed .createAt rfl rfl
  have ended : r.endAt = _ := records.int typed .endAt rfl rfl
  have commander : r.commander = _ := records.text typed .commander rfl rfl
  have team : r.team = _ := records.text typed .team rfl rfl
  have channel : r.channel = _ := records.text typed .channel rfl rfl
  have spelled {c : Cell} {s : String} (cell : c = .text s) : c.Spells s := cell ▸ rfl
  have told {c : Cell} {n : Int} (cell : c = .int n) : c.Tells (n.fdiv millis) := by
    subst cell
    exact ⟨_, rfl, rfl⟩
  refine ⟨spelled id, spelled name, spelled description, ?_, told created, told ended,
    spelled commander, spelled team, spelled channel⟩
  rw [active]
  change _ ∧ _ = RunColumn.isActive.truthOf attributes
  cases RunColumn.isActive.truthOf attributes <;> decide

/-- A row is live unless its attributes ask for a time at which it was deleted. -/
theorem isLive_iff : r.isLive = true ↔ RunColumn.deleteAt.intOf attributes = 0 := by
  have deleted : r.deleteAt = _ := records.int typed .deleteAt rfl rfl
  simp [isLive, deleted, Cell.compare]

end RunRow.Records

/-! ## Posts -/

namespace StatusPost

/-- Posts in the order of their times, those of equal times by id. -/
def order : StatusPost → StatusPost → Ordering :=
  compareLex (compareOn createdAt) (compareOn postId)

instance : Std.TransCmp order :=
  inferInstanceAs (Std.TransCmp (compareLex (compareOn createdAt) (compareOn postId)))

theorem order_total (x y : StatusPost) : ((order x y).isLE || (order y x).isLE) = true := by
  rw [@Std.OrientedCmp.eq_swap _ order _ y x]
  cases order x y <;> rfl

theorem createdAt_le_of_order {x y : StatusPost} (h : (order x y).isLE = true) :
    x.createdAt ≤ y.createdAt :=
  Std.isLE_compare.1 (Ordering.isLE_then_iff_and.1 h).1

end StatusPost

/-- The post of a row of texts and whole numbers. -/
def PostRow.toPost (p : PostRow) : StatusPost := ⟨p.id.textValue, p.createAt.intValue⟩

namespace PostRow

open IncidentBoard.Field

/-- Rows of a text and a whole number. -/
def Typed (p : PostRow) : Prop := p.id.IsText ∧ p.createAt.IsInt

/-- Rows of what is read as a text and of a whole number. -/
def Legible (p : PostRow) : Prop := p.id.Spells p.id.textValue ∧ p.createAt.IsInt

variable {p q : PostRow}

theorem Typed.legible (typed : p.Typed) : p.Legible := ⟨typed.1.spells, typed.2⟩

theorem Legible.statusPost_eq (legible : p.Legible) : Store.statusPost p = .ok p.toPost := by
  have id : text p.id.toJson = .ok p.id.textValue := text_ok_iff.2 legible.1
  have time : whole p.createAt.toJson = .ok p.createAt.intValue := by
    rw [legible.2]
    rfl
  change Failure.ofRejection ((Reading.and (Reading.and (.ok StatusPost.mk)
    ((text p.id.toJson).within _)) ((whole p.createAt.toJson).within _)).of _) = _
  rw [id, time]
  rfl

theorem Typed.compare_eq (hp : p.Typed) (hq : q.Typed) :
    (p.createAt.compare q.createAt).then (p.id.compare q.id) =
      StatusPost.order p.toPost q.toPost := by
  unfold toPost
  rw [hp.1, hp.2, hq.1, hq.2]
  rfl

end PostRow

namespace Ledger

/-- A post of a ledger that is linked to the run of an id: the link and the post have the same
id, as their columns hold it. -/
def Reports (L : Ledger) (id : String) (post : Json × Json) : Prop :=
  post ∈ L.posts ∧ ∃ link ∈ L.links, link.1.Names id ∧
    ∃ postId : Cell, postId.Holds .text post.1 ∧ postId.Holds .text link.2

/-- The posts that report on a run, each once, earliest first; no link of the run lacks its post. -/
structure ReportedBy (L : Ledger) (id : String) (posts : List StatusPost) : Prop where
  ordered : posts.Pairwise fun x y => x.createdAt ≤ y.createdAt
  once : (posts.map StatusPost.postId).Nodup
  mem_iff : ∀ x, x ∈ posts ↔ L.Reports id (.text x.postId, .int x.createdAt)
  complete : ∀ link ∈ L.links, link.1.Names id → ∃ x ∈ posts, link.2.Names x.postId

end Ledger

namespace Store

variable {s : Store} {L : Ledger} {rows : List RunRow} {posts : List PostRow}
  {links : List LinkRow} {r : RunRow} {id : String}

/-! ## Finding -/

/-- Of rows with ids of their own, the one of a key is found unless it is deleted. -/
theorem find_eq {key : Cell} (table : s.runs = some rows) (own : (rows.map RunRow.id).Nodup)
    (member : r ∈ rows) (named : r.id = key) :
    s.find key = if r.isLive then .ok r else .error (.noIncident "incidents" key.toJson.plain) := by
  have only : ∀ y ∈ rows, y.id = key → y = r := by
    intro y hy same
    exact List.inj_on_of_nodup_map own hy member (same.trans named.symm)
  unfold find
  rw [table]
  cases found : rows.find? fun y => y.id == key && y.isLive with
  | some y =>
    have passes := List.find?_some found
    simp only [Bool.and_eq_true, beq_iff_eq] at passes
    obtain rfl := only y (List.mem_of_find?_eq_some found) passes.1
    simp [rowsOf, bind, Except.bind, found, passes.2]
  | none =>
    have dead : r.isLive = false := by
      simpa [named] using List.find?_eq_none.1 found r member
    simp [rowsOf, bind, Except.bind, found, dead]

theorem incidentOf_eq {key : Cell} (found : s.find key = .ok r) :
    s.incidentOf key = r.toIncident := by
  rw [incidentOf, found]
  rfl

theorem summary_eq {x : Incident} (found : s.find (.text id) = .ok r) (reads : r.ReadAs x) :
    s.summary id = .ok x := by
  rw [summary, incidentOf_eq found]
  exact RunRow.toIncident_eq_ok_iff.2 reads

/-! ## Posts -/

/-- A row of the posts that is linked to the run of an id. -/
def IsLinked (links : List LinkRow) (id : String) (p : PostRow) : Prop :=
  ∃ l ∈ links, l.incident = .text id ∧ l.post = p.id

theorem mem_postsOf {p : PostRow} :
    p ∈ postsOf posts links id ↔ p ∈ posts ∧ IsLinked links id p := by
  simp [postsOf, IsLinked, and_assoc]

theorem nodup_postsOf (own : (posts.map PostRow.id).Nodup) :
    ((postsOf posts links id).map PostRow.id).Nodup := by
  unfold postsOf
  refine ((List.mergeSort_perm _ _).map PostRow.id).nodup_iff.2 ?_
  exact (List.filter_sublist.map PostRow.id).nodup own

/-- Typed posts are read in the order of their times. -/
theorem pairwise_postsOf (typed : ∀ p ∈ postsOf posts links id, p.Typed) :
    ((postsOf posts links id).map PostRow.toPost).Pairwise
      fun x y => x.createdAt ≤ y.createdAt := by
  unfold postsOf at typed ⊢
  simp only [List.mem_mergeSort] at typed
  rw [@List.map_mergeSort _ _ _ (fun x y => (StatusPost.order x y).isLE)
    _ _ fun p hp q hq => by rw [(typed p hp).compare_eq (typed q hq)]]
  refine (List.pairwise_mergeSort ?_ StatusPost.order_total _).imp
    StatusPost.createdAt_le_of_order
  intro x y z
  exact Std.TransCmp.isLE_trans

theorem detail_eq {x : Incident} (found : s.find (.text id) = .ok r) (reads : r.ReadAs x)
    (tableOfPosts : s.posts = some posts) (tableOfLinks : s.links = some links)
    (legible : ∀ p ∈ postsOf posts links id, p.Legible) :
    s.detail id = .ok (.ofPosts x ((postsOf posts links id).map PostRow.toPost)) := by
  have read : (postsOf posts links id).mapM statusPost =
      .ok ((postsOf posts links id).map PostRow.toPost) :=
    mapM_eq_map fun p hp => (legible p hp).statusPost_eq
  obtain ⟨fields, listed, told⟩ := reads.exists_fields ((postsOf posts links id).map PostRow.toPost)
  simp only [detail, found, tableOfPosts, tableOfLinks, rowsOf, bind, Except.bind, read, listed,
    told]
  rfl

/-! ## Ledgers -/

/-- A store with just the rows of a ledger. -/
structure RowsOf (L : Ledger) (rows : List RunRow) (posts : List PostRow) (links : List LinkRow) :
    Prop where
  runs : List.Forall₂ RunRow.Records L.runs rows
  posts : List.Forall₂ PostRow.Records L.posts posts
  links : List.Forall₂ LinkRow.Records L.links links

theorem Enters.rowsOf (enters : Enters L empty s) :
    ∃ rows posts links, s = ⟨some rows, some posts, some links⟩ ∧ RowsOf L rows posts links := by
  obtain ⟨⟨rows, runs, hr, -⟩, ⟨posts, recorded, hp, -⟩, ⟨links, linked, hl, -⟩⟩ := enters
  cases s
  cases hr
  cases hp
  cases hl
  exact ⟨rows, posts, links, rfl, runs, recorded, linked⟩

/-- A linked row is one of a post that reports on the run. -/
theorem RowsOf.reports (h : RowsOf L rows posts links) {p : PostRow}
    (member : p ∈ postsOf posts links id) :
    ∃ post, L.Reports id post ∧ PostRow.Records post p := by
  obtain ⟨member, l, hl, incident, same⟩ := mem_postsOf.1 member
  obtain ⟨post, written, record⟩ := forall₂_mem h.posts.flip member
  obtain ⟨link, linked, ends⟩ := forall₂_mem h.links.flip hl
  refine ⟨post, ⟨written, link, linked, ?_, p.id, record.id, same ▸ ends.post⟩, record⟩
  rw [Json.Names, ← incident]
  exact ends.incident

/-- A post that reports on the run is in a linked row. -/
theorem RowsOf.mem_postsOf (h : RowsOf L rows posts links) {post : Json × Json}
    (reports : L.Reports id post) : ∃ p ∈ postsOf posts links id, PostRow.Records post p := by
  obtain ⟨written, link, linked, names, postId, holds, holds'⟩ := reports
  obtain ⟨p, member, record⟩ := forall₂_mem h.posts written
  obtain ⟨l, hl, ends⟩ := forall₂_mem h.links linked
  refine ⟨p, Store.mem_postsOf.2 ⟨member, l, hl, ends.incident.unique names, ?_⟩, record⟩
  rw [ends.post.unique holds', record.id.unique holds]

/-- Linked rows are typed where the posts that report on the run are. -/
theorem RowsOf.typed (h : RowsOf L rows posts links)
    (typed : ∀ post, L.Reports id post → ∃ postId time, post = (.text postId, .int time)) :
    ∀ p ∈ postsOf posts links id, p.Typed := by
  intro p member
  obtain ⟨post, reports, record⟩ := h.reports member
  obtain ⟨postId, time, rfl⟩ := typed post reports
  have named : p.id = .text postId := Cell.Holds.text_iff.1 record.id
  have timed : p.createAt = .int time := record.createAt.int
  exact ⟨by rw [named]; rfl, by rw [timed]; rfl⟩

/-- The posts read for a run are those that report on it. -/
theorem RowsOf.reportedBy (h : RowsOf L rows posts links)
    (sound : Sound ⟨some rows, some posts, some links⟩)
    (typed : ∀ post, L.Reports id post → ∃ postId time, post = (.text postId, .int time)) :
    L.ReportedBy id ((postsOf posts links id).map PostRow.toPost) := by
  have typedRows := h.typed typed
  have own : ((postsOf posts links id).map PostRow.id).Nodup := nodup_postsOf sound.posts
  refine ⟨pairwise_postsOf typedRows, ?_, fun x => ⟨fun member => ?_, fun reports => ?_⟩, ?_⟩
  · rw [List.map_map]
    refine List.Nodup.map_on (fun p hp q hq same => ?_) (own.of_map _)
    refine List.inj_on_of_nodup_map own hp hq ?_
    rw [(typedRows p hp).1, (typedRows q hq).1]
    exact congrArg Cell.text same
  · obtain ⟨p, hp, rfl⟩ := List.mem_map.1 member
    obtain ⟨post, reports, record⟩ := h.reports hp
    obtain ⟨postId, time, rfl⟩ := typed post reports
    have named : p.id = .text postId := Cell.Holds.text_iff.1 record.id
    have timed : p.createAt = .int time := record.createAt.int
    simpa [PostRow.toPost, named, timed, Cell.intValue] using reports
  · obtain ⟨p, hp, record⟩ := h.mem_postsOf reports
    have named : p.id = .text x.postId := Cell.Holds.text_iff.1 record.id
    have timed : p.createAt = .int x.createdAt := record.createAt.int
    refine List.mem_map.2 ⟨p, hp, ?_⟩
    simp [PostRow.toPost, named, timed, Cell.intValue]
  · intro link linked names
    obtain ⟨l, hl, ends⟩ := forall₂_mem h.links linked
    obtain ⟨-, p, hp, same⟩ := sound.points l hl
    have member : p ∈ postsOf posts links id :=
      Store.mem_postsOf.2 ⟨hp, l, hl, ends.incident.unique names, same.symm⟩
    refine ⟨p.toPost, List.mem_map_of_mem member, ?_⟩
    have held := ends.post
    rw [← same, (typedRows p member).1] at held
    exact held

/-! ## Reading back -/

/-- A run that was written is read as its incident, in seconds, whatever operations came before and
after it and whichever of them failed. If the posts linked to it were written with texts and whole
numbers, its details list just these, each once and earliest first. A run that was written with a
time at which it was deleted is not found. -/
theorem written_is_read (before after : List Operation) {attributes : Json.Fields}
    (written : attributes ∈ (empty.ledger before).runs) (typed : RunColumn.Typed attributes) :
    let L := empty.ledger (before ++ after)
    let s := empty.performAll (before ++ after)
    let x := Incident.ofAttributes attributes
    (RunColumn.deleteAt.intOf attributes = 0 →
      s.summary x.id = .ok x.inSeconds ∧
      ((∀ post, L.Reports x.id post → ∃ postId time, post = (.text postId, .int time)) →
        ∃ posts, s.detail x.id = .ok (.ofPosts x.inSeconds posts) ∧ L.ReportedBy x.id posts)) ∧
    (RunColumn.deleteAt.intOf attributes ≠ 0 →
      s.summary x.id = .error (.noIncident "incidents" x.id) ∧
      s.detail x.id = .error (.noIncident "incidents" x.id)) := by
  intro L s x
  have sound : s.Sound := sound_empty.performAll (before ++ after)
  have entered : attributes ∈ L.runs := by
    simp only [L, ledger_append, Ledger.runs_append]
    exact List.mem_append_left _ written
  obtain ⟨rows, posts, links, tables, recorded⟩ :=
    (enters_performAll empty (before ++ after)).rowsOf
  rw [show s = _ from tables] at sound ⊢
  obtain ⟨r, member, record⟩ := forall₂_mem recorded.runs entered
  have named : r.id = .text x.id := record.text typed .id rfl rfl
  have reads : r.ReadAs x.inSeconds := record.readAs typed
  have found := find_eq (s := ⟨some rows, some posts, some links⟩) rfl sound.runs member named
  refine ⟨fun kept => ?_, fun deleted => ?_⟩
  · rw [if_pos ((record.isLive_iff typed).2 kept)] at found
    refine ⟨summary_eq found reads, fun typedPosts => ?_⟩
    have legible := fun p hp => (recorded.typed typedPosts p hp).legible
    exact ⟨_, detail_eq found reads rfl rfl legible, recorded.reportedBy sound typedPosts⟩
  · rw [if_neg fun live => deleted ((record.isLive_iff typed).1 live)] at found
    constructor
    · rw [summary, incidentOf, found]
      rfl
    · rw [detail, found]
      rfl

/-- A run is recorded with a post and without a time for it. A transaction that writes another post
is given up, a later one writes it with another time and links it, and a last post has an id that
is taken. -/
theorem written_is_read_of_undone_post :
    let attributes : Json.Fields := [("ID", .text "i"), ("Name", .text "n"),
      ("CommanderUserID", .text "u"), ("TeamID", .text "t"), ("CreateAt", .int 2999)]
    let before : List Operation := [.unit (.runWithPost attributes (.text "p") .null)]
    let after : List Operation :=
      [.transaction [(.post (.text "q") (.int 5), true), (.giveUp unopened, false)],
        .unit (.statusUpdate (.text "i") (.text "q") (.int 1000)),
        .unit (.post (.text "p") (.int 7))]
    let s := empty.performAll (before ++ after)
    let x : Incident := ⟨"i", "n", "", true, 2, 0, "u", "t", ""⟩
    attributes ∈ (empty.ledger before).runs ∧ RunColumn.Typed attributes ∧
      s.summary "i" = .ok x ∧ s.detail "i" = .ok (.ofPosts x [⟨"q", 1000⟩, ⟨"p", 2999⟩]) := by
  intro attributes before after s x
  have written : attributes ∈ (empty.ledger before).runs := .head _
  have typed : RunColumn.Typed attributes := by
    intro c v read given
    cases c <;> cases given <;> trivial
  obtain ⟨summary, details⟩ := (written_is_read before after written typed).1 rfl
  have posts : (empty.ledger (before ++ after)).posts =
      [(.text "p", .int 2999), (.text "q", .int 1000)] := rfl
  obtain ⟨listed, detail, -⟩ := details fun post reports => by
    have member := reports.1
    rw [posts] at member
    simp only [List.mem_cons, List.not_mem_nil, or_false] at member
    rcases member with rfl | rfl <;> exact ⟨_, _, rfl⟩
  have rows : s.posts = some [⟨.text "p", .int 2999⟩, ⟨.text "q", .int 1000⟩] ∧
      s.links = some [⟨.text "i", .text "p"⟩, ⟨.text "i", .text "q"⟩] := ⟨rfl, rfl⟩
  have sorted : postsOf [⟨.text "p", .int 2999⟩, ⟨.text "q", .int 1000⟩]
      [⟨.text "i", .text "p"⟩, ⟨.text "i", .text "q"⟩] "i" =
      [⟨.text "q", .int 1000⟩, ⟨.text "p", .int 2999⟩] := by cbv
  have typedRows : ∀ p ∈ [(⟨.text "q", .int 1000⟩ : PostRow), ⟨.text "p", .int 2999⟩], p.Typed := by
    simp [PostRow.Typed, Cell.IsText, Cell.IsInt, Cell.intValue]
  let row : RunRow := ⟨.text "i", .text "n", .text "", .int 1, .text "u", .text "t", .text "",
    .int 2999, .int 0, .int 0, .int 0, .text "", .text ""⟩
  have reads : row.ReadAs x := RunRow.toIncident_eq_ok_iff.1 rfl
  have same := detail_eq (s := s) (r := row) rfl reads rows.1 rows.2 fun p hp =>
    (typedRows p (sorted ▸ hp)).legible
  rw [sorted] at same
  exact ⟨written, typed, summary, detail.trans (detail.symm.trans same)⟩

end Store

end IncidentBoard

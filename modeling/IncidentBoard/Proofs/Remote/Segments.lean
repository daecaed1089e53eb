import IncidentBoard.Proofs.Remote.Transparent
import IncidentBoard.Proofs.Text.Escapes
import IncidentBoard.Proofs.Text.Pieces

/-!
# Segments of targets

Which segments the path of a request has, split at its slashes and decoded one by one. Dot segments
are resolved; a number sign or a question mark ends the path.

## Main definitions

* `Url.Plain` — the texts that stand for themselves as one segment.
* `Url.segments` — the decoded segments of a target.
-/

namespace IncidentBoard

namespace Url

open Percent

/-! ## Encoded paths -/

theorem keptInPath_of_hexDigit? {c : Char} (digit : (Json.hexDigit? c).isSome = true) :
    keptInPath c = true := by
  have digits : ∀ n < 0x80, (Json.hexDigit? (Char.ofNat n)).isSome = true →
      keptInPath (Char.ofNat n) = true := by decide
  obtain ⟨x, value⟩ := Option.isSome_iff_exists.1 digit
  have kept := digits c.toNat (toNat_lt_of_hexDigit? value)
  rw [Char.ofNat_toNat] at kept
  exact kept digit

/-- What an encoded path stands for is what the path does. -/
theorem decode_encode (s : String) : decode (encode keptInPath s) = decode s := by
  unfold decode
  rw [toList_encode, decodeOctets_encoded (by decide) fun c => keptInPath_of_hexDigit?]

@[simp] theorem decode_comp_encode : decode ∘ encode keptInPath = decode := by
  funext s
  rw [Function.comp_apply, decode_encode]

theorem slash_not_mem_encodeChar {c : Char} (other : c ≠ '/') :
    '/' ∉ encodeChar keptInPath c := by
  unfold encodeChar
  split
  · simpa using other.symm
  · intro member
    obtain ⟨n, octets, digit⟩ := List.mem_flatMap.1 member
    exact absurd (mem_octet (octetsOf_lt octets) digit) (by decide)

/-- The segments of an encoded path are the encoded segments. -/
theorem splitOn_encode (s : String) :
    (encode keptInPath s).splitOn "/" = (s.splitOn "/").map (encode keptInPath) := by
  have chars (cs : List Char) : (cs.flatMap (encodeChar keptInPath)).splitOn '/' =
      (cs.splitOn '/').map (·.flatMap (encodeChar keptInPath)) := by
    induction cs with
    | nil => simp
    | cons c cs ih =>
      obtain ⟨first, later, split⟩ := List.exists_cons_of_ne_nil (List.splitOn_ne_nil '/' cs)
      rw [split] at ih
      rw [List.flatMap_cons, List.splitOn_cons_eq_if_modifyHead, split]
      by_cases slash : c = '/'
      · subst slash
        have kept : encodeChar keptInPath '/' = ['/'] := by decide
        rw [kept, List.singleton_append, List.splitOn_cons_eq_if_modifyHead, ih]
        rfl
      · rw [splitOn_append_of_not_mem (slash_not_mem_encodeChar slash), ih,
          if_neg (mt beq_iff_eq.1 slash)]
        simp
  have piece (cs : List Char) : encode keptInPath (String.ofList cs) =
      String.ofList (cs.flatMap (encodeChar keptInPath)) := by
    rw [encode, String.toList_ofList]
    rfl
  rw [splitOn_slash, splitOn_slash, toList_encode, chars, List.map_map, List.map_map]
  exact List.map_congr_left fun cs _ => (piece cs).symm

/-! ## Dot segments -/

section Resolved

variable {stack segs : List String}

/-- Resolving takes segments away and adds some that are no dot segments. -/
theorem foldl_resolveStep (segs stack : List String) : ∃ pushed base,
    segs.foldl resolveStep stack = pushed ++ base ∧ base <:+ stack ∧
      ∀ s ∈ pushed, s ∈ segs ∧ s ≠ "." ∧ s ≠ ".." := by
  induction segs generalizing stack with
  | nil => exact ⟨[], stack, rfl, List.suffix_refl _, by simp⟩
  | cons s segs ih =>
    obtain ⟨pushed, base, result, suffix, plain⟩ := ih (resolveStep stack s)
    have later : ∀ t ∈ pushed, t ∈ s :: segs ∧ t ≠ "." ∧ t ≠ ".." :=
      fun t member => ⟨.tail _ (plain t member).1, (plain t member).2⟩
    rw [List.foldl_cons, result]
    unfold resolveStep at suffix
    split_ifs at suffix with dot dots root
    · exact ⟨pushed, base, rfl, suffix, later⟩
    · exact ⟨pushed, base, rfl, suffix, later⟩
    · exact ⟨pushed, base, rfl, suffix.trans (List.drop_suffix 1 stack), later⟩
    · rcases List.suffix_cons_iff.1 suffix with rfl | suffix
      · refine ⟨pushed ++ [s], stack, by simp, List.suffix_refl _, fun t member => ?_⟩
        rcases List.mem_append.1 member with member | member
        · exact later t member
        · rw [List.mem_singleton.1 member]
          exact ⟨.head _, dot, dots⟩
      · exact ⟨pushed, base, rfl, suffix, later⟩

/-- Without dot segments nothing is resolved. -/
theorem foldl_resolveStep_of_plain (plain : ∀ s ∈ segs, s ≠ "." ∧ s ≠ "..")
    (stack : List String) : segs.foldl resolveStep stack = segs.reverse ++ stack := by
  induction segs generalizing stack with
  | nil => rfl
  | cons s segs ih =>
    have pushed : resolveStep stack s = s :: stack := by
      rw [resolveStep, if_neg (plain s (.head _)).1, if_neg (plain s (.head _)).2]
    rw [List.foldl_cons, pushed, ih fun t member => plain t (.tail _ member)]
    simp

/-- The front of a path that begins with a slash stays. -/
theorem foldl_resolveStep_ne_nil (segs : List String) (front : stack.getLast? = some "") :
    segs.foldl resolveStep stack ≠ [] := by
  induction segs generalizing stack with
  | nil =>
    rintro rfl
    cases front
  | cons s segs ih =>
    refine ih ?_
    unfold resolveStep
    split_ifs with dot dots root
    · exact front
    · exact front
    · match stack, front, root with
      | [only], front, root => simp_all
      | _ :: second :: rest, front, _ => simpa using front
    · rw [List.getLast?_cons, front]
      rfl

end Resolved

/-! ## Paths of requests -/

/-- An address that has neither a path of its own nor a query. -/
structure Pathless (u : Url) : Prop where
  path : u.path = "/"
  query : u.query = none

/-- What of a path is sent as a path: a number sign or a question mark ends it. -/
def sentPath (path : String) : String :=
  String.ofList (path.toList.takeWhile fun c => decide (c ≠ '#') && decide (c ≠ '?'))

theorem sentPath_sublist (path : String) : (sentPath path).toList.Sublist path.toList := by
  rw [sentPath, String.toList_ofList]
  exact List.takeWhile_sublist _

theorem not_mem_sentPath {c : Char} (cut : c = '#' ∨ c = '?') (path : String) :
    c ∉ (sentPath path).toList := by
  intro member
  rw [sentPath, String.toList_ofList] at member
  have passed := List.mem_takeWhile_imp member
  rcases cut with rfl | rfl <;> simp at passed

/-- Nothing of a text without a number sign and a question mark is cut off. -/
theorem sentPath_of_not_mem {s : String} (number : '#' ∉ s.toList) (mark : '?' ∉ s.toList) :
    sentPath s = s := by
  have kept : ∀ c ∈ s.toList, (decide (c ≠ '#') && decide (c ≠ '?')) = true := by
    intro c member
    rw [Bool.and_eq_true, decide_eq_true_iff, decide_eq_true_iff]
    exact ⟨fun same => number (same ▸ member), fun same => mark (same ▸ member)⟩
  rw [sentPath, List.takeWhile_eq_self_iff.2 kept, String.ofList_toList]

/-- What is behind a text is sent if nothing of the text is cut off. -/
theorem sentPath_append (s t : String) :
    sentPath (s ++ t) = if sentPath s = s then s ++ sentPath t else sentPath s := by
  have whole : (s.toList.takeWhile fun c => decide (c ≠ '#') && decide (c ≠ '?')).length =
      s.toList.length ↔ sentPath s = s := by
    constructor
    · intro length
      rw [sentPath, (List.takeWhile_prefix _).eq_of_length length, String.ofList_toList]
    · intro same
      rw [← String.toList_ofList (l := s.toList.takeWhile _), ← sentPath, same]
  rw [← String.toList_inj, sentPath, String.toList_ofList, String.toList_append,
    List.takeWhile_append]
  simp only [whole]
  split
  · rw [String.toList_append, sentPath, String.toList_ofList]
  · rw [sentPath, String.toList_ofList]

theorem splitAt_of_not_mem {c : Char} {s : String} (apart : c ∉ s.toList) :
    splitAt c s = (s, none) := by
  have kept : ∀ d ∈ s.toList, decide (d ≠ c) = true := by
    intro d hd
    rw [decide_eq_true_iff]
    rintro rfl
    exact apart hd
  unfold splitAt
  rw [List.takeWhile_eq_self_iff.2 kept]
  simp

theorem fst_splitAt_splitAt (path : String) :
    (splitAt '?' (splitAt '#' path).1).1 = sentPath path := by
  simp only [splitAt, String.toList_ofList, sentPath]
  congr 1
  induction path.toList with
  | nil => rfl
  | cons c cs ih =>
    by_cases number : c = '#'
    · simp [number]
    · by_cases mark : c = '?'
      · simp [mark]
      · simpa [number, mark] using ih

theorem withTarget_path (u : Url) {path : String} (mark : '?' ∉ path.toList) :
    u.withTarget path = { u with path := encode keptInPath (resolve path), query := none } := by
  rw [withTarget, splitAt_of_not_mem mark]
  rfl

theorem withTarget_query (u : Url) {path : String} (mark : '?' ∉ path.toList) (query : String) :
    u.withTarget (path ++ ("?" ++ query)) = { u with
      path := encode keptInPath (resolve path), query := some (encode keptInQuery query) } := by
  have parts : (path ++ ("?" ++ query)).toList = path.toList ++ '?' :: query.toList := by simp
  rw [withTarget, splitAt_eq mark parts, String.ofList_toList, String.ofList_toList]
  rfl

/-! ## Bases -/

theorem resolve_empty : encode keptInPath (resolve "") = "" := by
  rw [resolve, splitOn_slash]
  decide

theorem resolve_slash : encode keptInPath (resolve "/") = "/" := by
  rw [resolve, splitOn_slash]
  decide

/-- A text of slashes. -/
def slashes (n : Nat) : String := String.ofList (List.replicate n '/')

theorem dropSlashes_append {s : String} {c : Char} (last : s.toList.getLast? = some c)
    (other : c ≠ '/') (n : Nat) : dropSlashes (s ++ slashes n) = s := by
  obtain ⟨front, text⟩ : ∃ front, s.toList = front ++ [c] := List.getLast?_eq_some_iff.1 last
  have all : ∀ d ∈ List.replicate n '/', (d == '/') = true := by simp
  have kept : (s.toList.reverse.dropWhile (· == '/')) = s.toList.reverse := by
    simp [text, other]
  rw [dropSlashes, slashes, String.toList_append, String.toList_ofList, List.reverse_append,
    List.reverse_replicate, List.dropWhile_append_of_pos all, kept, List.reverse_reverse,
    String.ofList_toList]

theorem pathless_withTarget (u : Url) :
    (if (u.withTarget "").target.endsWith "/" then u.withTarget ""
      else (u.withTarget "").withTarget ((u.withTarget "").target ++ "/")).Pathless := by
  have empty : (u.withTarget "").target = "" := by
    rw [withTarget_path u (by simp), resolve_empty]
    rfl
  have noSlash : ("" : String).endsWith "/" = false := by
    rw [String.endsWith_eq_endsWith_toSlice, String.Slice.endsWith_string_eq_false_iff]
    simp
  rw [empty, noSlash, if_neg Bool.false_ne_true, String.empty_append,
    withTarget_path _ (by decide), resolve_slash]
  exact ⟨rfl, rfl⟩

/-- The address of a base that is a scheme and a server has no path, whatever slashes follow. -/
theorem pathless_ofBase {scheme server : String} (colon : ':' ∉ scheme.toList)
    (named : server ≠ "") (plain : ∀ c ∈ ['/', '?', '#'], c ∉ server.toList) (n : Nat) :
    (ofBase (scheme ++ "://" ++ server ++ slashes n)).Pathless := by
  have dropped : dropSlashes (scheme ++ "://" ++ server ++ slashes n) =
      scheme ++ "://" ++ server := by
    obtain ⟨last, found⟩ : ∃ c, server.toList.getLast? = some c :=
      Option.isSome_iff_exists.1 (by simpa using named)
    have ends : (scheme ++ "://" ++ server).toList.getLast? = some last := by
      simp [List.getLast?_append, List.getLast?_cons, found]
    refine dropSlashes_append ends ?_ n
    rintro rfl
    exact plain '/' (by simp) (List.mem_of_getLast? found)
  have cut : splitAt ':' (scheme ++ "://" ++ server) = (scheme, some ("//" ++ server)) := by
    have text : (scheme ++ "://" ++ server).toList =
        scheme.toList ++ ':' :: ("//" ++ server).toList := by simp
    rw [splitAt_eq colon text, String.ofList_toList, String.ofList_toList]
  have marks : ("//" ++ server).startsWith "//" = true := by
    rw [String.startsWith_string_iff]
    simp
  have rest : (("//" ++ server).drop 2).toString = server := by
    rw [← String.toList_inj]
    exact String.toList_copy_drop.trans (by simp)
  have whole : breakAt ['/', '?', '#'] server = (server, "") := by
    have all : ∀ c ∈ server.toList, (!(['/', '?', '#'].contains c)) = true := by
      intro c member
      rw [Bool.not_eq_true', ← Bool.not_eq_true, List.contains_iff_mem]
      exact fun stop => plain c stop member
    unfold breakAt
    rw [List.takeWhile_eq_self_iff.2 all]
    simp
  have number : splitAt '#' "" = ("", none) := rfl
  simp only [ofBase, dropped, cut, marks, if_true, rest, whole, number]
  exact pathless_withTarget _

section Below

variable {base : Url} {path : String}

theorem Pathless.target_eq (pathless : base.Pathless) : base.target = "/" := by
  rw [target, pathless.path, pathless.query]
  rfl

/-- The address of a path that begins with one slash, below a base without a path. -/
theorem below_eq (pathless : base.Pathless) {c : Char} {rest : List Char}
    (front : (encode keptInPath (sentPath path)).toList = '/' :: c :: rest) (single : c ≠ '/') :
    base.below path none = { base with
      path := encode keptInPath (resolve (encode keptInPath (sentPath path)))
      query := (splitAt '?' (splitAt '#' path).1).2.map
        (encode keptInQuery ∘ encode keptInQuery) } := by
  have mark : '?' ∉ (encode keptInPath (sentPath path)).toList :=
    not_mem_encode _ (by decide) (by decide)
  have text : "/" ++ String.ofList
      ((encode keptInPath (sentPath path)).toList.dropWhile (· == '/')) =
        encode keptInPath (sentPath path) := by
    rw [← String.toList_inj, front]
    simp [single]
  obtain ⟨sent, fragment, cut⟩ : ∃ a b, splitAt '#' path = (a, b) := ⟨_, _, rfl⟩
  obtain ⟨p, query, parts⟩ : ∃ a b, splitAt '?' sent = (a, b) := ⟨_, _, rfl⟩
  have same : sentPath path = p := by rw [← fst_splitAt_splitAt, cut, parts]
  rw [same] at mark text ⊢
  simp only [below, cut, parts, pathless.target_eq, text]
  cases query with
  | none =>
    rw [String.append_empty, withTarget_path base mark]
    rfl
  | some q =>
    rw [withTarget_query base mark]
    rfl

end Below

/-! ## Segments -/

/-- The segments of the path of a target, decoded. -/
def segments (target : String) : List String :=
  ((splitAt '?' target).1.splitOn "/").map decode

/-- A target leads along some segments, and asks no query. -/
def LeadsTo (target : String) (segs : List String) : Prop :=
  queryOf target = "" ∧ segments target = segs

theorem splitAt_target (u : Url) (mark : '?' ∉ u.path.toList) :
    splitAt '?' u.target = (u.path, u.query) := by
  cases query : u.query with
  | none =>
    have text : u.target = u.path := by simp [target, query]
    rw [text, splitAt_of_not_mem mark]
  | some q =>
    have text : u.target.toList = u.path.toList ++ '?' :: q.toList := by simp [target, query]
    rw [splitAt_eq mark text, String.ofList_toList, String.ofList_toList]

/-- The segments of a resolved path. -/
theorem splitOn_resolve {path : String} {rest : List Char} (front : path.toList = '/' :: rest) :
    (resolve path).splitOn "/" = ((path.splitOn "/").foldl resolveStep []).reverse := by
  obtain ⟨segs, split⟩ : ∃ segs, path.splitOn "/" = "" :: segs := by
    rw [splitOn_slash, front, List.splitOn_cons_eq_if_modifyHead]
    exact ⟨_, rfl⟩
  refine splitOn_intercalate_slash ?_ fun piece member => ?_
  · rw [split, List.foldl_cons, Ne, List.reverse_eq_nil_iff]
    exact foldl_resolveStep_ne_nil segs rfl
  · obtain ⟨pushed, base, result, suffix, plain⟩ := foldl_resolveStep (path.splitOn "/") []
    rw [result, List.suffix_nil.1 suffix, List.append_nil, List.mem_reverse] at member
    exact (mem_splitOn_slash (plain piece member).1).1

/-- The segments of the target of a path that begins with one slash, below a base without a path:
what a number sign or a question mark does not cut off, resolved. -/
theorem segments_below {base : Url} {path : String} (pathless : base.Pathless) {c : Char}
    {rest : List Char} (front : (encode keptInPath (sentPath path)).toList = '/' :: c :: rest)
    (single : c ≠ '/') : segments (base.below path none).target =
      ((((sentPath path).splitOn "/").map (encode keptInPath)).foldl resolveStep []).reverse.map
        decode := by
  have sent := congrArg Url.path (below_eq pathless front single)
  dsimp only at sent
  have mark : '?' ∉ (base.below path none).path.toList := by
    rw [sent]
    exact not_mem_encode _ (by decide) (by decide)
  rw [segments, splitAt_target _ mark, sent, splitOn_encode, splitOn_resolve front, splitOn_encode,
    List.map_map, decode_comp_encode]

/-- A query that is given with a path does not change the segments. -/
theorem segments_below_query (base : Url) (path query : String) :
    segments (base.below path (some query)).target = segments (base.below path none).target := by
  obtain ⟨sent, encoded⟩ : ∃ sent, (base.below path none).path = encode keptInPath sent :=
    ⟨_, rfl⟩
  have same : (base.below path (some query)).path = (base.below path none).path := rfl
  have mark : '?' ∉ (base.below path none).path.toList := by
    rw [encoded]
    exact not_mem_encode _ (by decide) (by decide)
  rw [segments, segments, splitAt_target _ mark, splitAt_target _ (same ▸ mark), same]

/-- A path that neither a number sign nor a question mark ends asks no query. -/
theorem queryOf_below {base : Url} {path : String} (pathless : base.Pathless) {c : Char}
    {rest : List Char} (front : (encode keptInPath (sentPath path)).toList = '/' :: c :: rest)
    (single : c ≠ '/') (number : '#' ∉ path.toList) (mark : '?' ∉ path.toList) :
    queryOf (base.below path none).target = "" := by
  have sent := below_eq pathless front single
  rw [splitAt_of_not_mem number, splitAt_of_not_mem mark] at sent
  have encoded : '?' ∉ (base.below path none).path.toList := by
    rw [sent]
    exact not_mem_encode _ (by decide) (by decide)
  rw [queryOf, splitAt_target _ encoded, sent]
  rfl

/-- A text that is one segment of a path, stands for itself and does not end the path. -/
structure Plain (s : String) : Prop where
  slash : '/' ∉ s.toList
  mark : '?' ∉ s.toList
  number : '#' ∉ s.toList
  dot : s ≠ "."
  dots : s ≠ ".."
  escape : hasEscape s.toList = false

theorem plain_iff {s : String} : Plain s ↔ '/' ∉ s.toList ∧ '?' ∉ s.toList ∧ '#' ∉ s.toList ∧
    s ≠ "." ∧ s ≠ ".." ∧ hasEscape s.toList = false :=
  ⟨fun ⟨a, b, c, d, e, f⟩ => ⟨a, b, c, d, e, f⟩, fun ⟨a, b, c, d, e, f⟩ => ⟨a, b, c, d, e, f⟩⟩

instance (s : String) : Decidable (Plain s) := decidable_of_iff _ plain_iff.symm

theorem Plain.decode_eq {s : String} (plain : Plain s) : decode s = s :=
  decode_of_not_hasEscape plain.escape

/-- A text that is no dot segment is none either when it is encoded. -/
theorem Plain.encode_ne {s : String} (plain : Plain s) :
    encode keptInPath s ≠ "." ∧ encode keptInPath s ≠ ".." := by
  have stands : decode (encode keptInPath s) = s := (decode_encode s).trans plain.decode_eq
  have dot : decode "." = "." := decode_of_not_hasEscape (by decide)
  have dots : decode ".." = ".." := decode_of_not_hasEscape (by decide)
  constructor
  · intro same
    rw [same, dot] at stands
    exact plain.dot stands.symm
  · intro same
    rw [same, dots] at stands
    exact plain.dots stands.symm

end Url

end IncidentBoard

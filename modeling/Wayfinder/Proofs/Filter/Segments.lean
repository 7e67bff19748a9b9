import Wayfinder.Proofs.Filter.Canonical

/-!
# The first occurrence of a parameter

`ofQuery_join_first`: of a query that is joined from segments, the values that declared keys get depend
on nothing but the first value under each declared name. So segments may change places as long as those
of one name keep their order, undeclared and repeated ones may go, and empty segments and a question
mark in front may be added.

Joining and splitting undo each other because no segment holds an ampersand, and the question mark
that is taken off is never a segment's own because none begins with one (`params_texts`). The names
are compared as they decode, so `q` and `%71` are one name.
-/

namespace Wayfinder

open Url

/-! ## Segments of a query -/

/-- A text between two ampersands of a query, still escaped, that is not empty and does not begin
with a question mark. -/
structure QuerySegment where
  text : String
  ne_empty : text ≠ ""
  no_ampersand : '&' ∉ text.toList
  no_mark : text.toList.head? ≠ some '?'
deriving DecidableEq

namespace QuerySegment

/-- The name and the value, decoded. -/
def pair (seg : QuerySegment) : String × String := decodeSegment seg.text.toList

/-- What stands before the first equals sign, decoded. -/
def name (seg : QuerySegment) : String := seg.pair.1

/-- What stands after the first equals sign, decoded. -/
def value (seg : QuerySegment) : String := seg.pair.2

/-- The query of segments. -/
def join (segs : List QuerySegment) : String := "&".intercalate (segs.map text)

/-- The value of the first segment with a name. -/
def firstValue? (name : String) (segs : List QuerySegment) : Option String :=
  (segs.find? (·.name = name)).map value

end QuerySegment

/-! ## The pairs of joined texts -/

namespace FilterStore

section texts

open QuerySegment

variable {texts : List String} {segs : List QuerySegment}

/-- Every text is empty or that of a segment. -/
theorem eq_empty_or_segment (h : texts.filter (· ≠ "") = segs.map text) {t : String} (ht : t ∈ texts) :
    t = "" ∨ ∃ seg ∈ segs, seg.text = t := by
  by_cases hempty : t = ""
  · exact Or.inl hempty
  · have hmem : t ∈ texts.filter (· ≠ "") := List.mem_filter.mpr ⟨ht, decide_eq_true hempty⟩
    rw [h] at hmem
    exact Or.inr (List.mem_map.mp hmem)

theorem decodePairs_texts (h : texts.filter (· ≠ "") = segs.map text) :
    decodePairs ("&".intercalate texts).toList = segs.map pair := by
  have hamp : ∀ cs ∈ texts.map String.toList, '&' ∉ cs := by
    intro cs hcs
    obtain ⟨t, ht, rfl⟩ := List.mem_map.mp hcs
    rcases eq_empty_or_segment h ht with rfl | ⟨seg, -, rfl⟩
    · exact List.not_mem_nil
    · exact seg.no_ampersand
  have hfull : (fun t : String => !t.toList.isEmpty) = fun t => decide (t ≠ "") := by
    funext t
    rw [Bool.eq_iff_iff, decide_eq_true_eq, Bool.not_eq_true', ← Bool.not_eq_true,
      List.isEmpty_iff, String.toList_eq_nil_iff]
  have hsplit : ("&".intercalate texts).toList = ['&'].intercalate (texts.map String.toList) :=
    String.toList_intercalate
  rw [hsplit, decodePairs_intercalate hamp, List.filter_map]
  have hkept : texts.filter ((fun cs => !cs.isEmpty) ∘ String.toList) = segs.map text := by
    rw [← h]
    exact congrArg texts.filter hfull
  rw [hkept, List.map_map, List.map_map]
  rfl

/-- The first character of joined texts is an ampersand or that of a segment. -/
theorem head?_intercalate_ne (h : ∀ t ∈ texts, t.toList.head? ≠ some '?') :
    ("&".intercalate texts).toList.head? ≠ some '?' := by
  rw [String.toList_intercalate]
  cases texts with
  | nil => simp [List.intercalate]
  | cons t rest =>
    have ht := h t List.mem_cons_self
    cases rest with
    | nil => simpa using ht
    | cons u rest =>
      rw [List.map_cons, List.map_cons, List.intercalate_cons_cons]
      cases hcs : t.toList with
      | nil => simp
      | cons c cs =>
        rw [hcs] at ht
        exact ht

/-- Reading joined texts, empty ones among them, gives the pairs of the segments. -/
theorem params_texts (h : texts.filter (· ≠ "") = segs.map text) :
    decodePairs (withoutMark ("&".intercalate texts).toList) = segs.map pair := by
  have hhead : ∀ t ∈ texts, t.toList.head? ≠ some '?' := by
    intro t ht
    rcases eq_empty_or_segment h ht with rfl | ⟨seg, -, rfl⟩
    · decide
    · exact seg.no_mark
  rw [withoutMark_of_head? (head?_intercalate_ne hhead), decodePairs_texts h]

end texts

/-! ## First values -/

section firstValue

open QuerySegment

variable {segs segs' : List QuerySegment} {name : String}

theorem find?_map_pair (name : String) (segs : List QuerySegment) :
    OrderedMap.find? name (segs.map pair) = firstValue? name segs := by
  induction segs with
  | nil => rfl
  | cons seg segs ih =>
    unfold firstValue? at ih ⊢
    rw [List.map_cons, OrderedMap.find?, ih]
    change (if seg.name = name then some seg.value else _) = _
    by_cases hname : seg.name = name
    · rw [if_pos hname, List.find?_cons_of_pos (by simpa using hname)]
      rfl
    · rw [if_neg hname, List.find?_cons_of_neg (by simpa using hname)]

/-- The first of all segments is the first of those with the name. -/
theorem firstValue?_congr (h : segs'.filter (·.name = name) = segs.filter (·.name = name)) :
    firstValue? name segs' = firstValue? name segs := by
  unfold firstValue?
  rw [← List.head?_filter, ← List.head?_filter, h]

/-- No first value changes when the segments of each name keep their order. -/
theorem firstValue?_reordered (hperm : segs'.Perm segs)
    (horder : ∀ seg ∈ segs, segs'.filter (·.name = seg.name) = segs.filter (·.name = seg.name))
    (name : String) : firstValue? name segs' = firstValue? name segs := by
  apply firstValue?_congr
  by_cases hname : name ∈ segs.map QuerySegment.name
  · obtain ⟨seg, hseg, rfl⟩ := List.mem_map.mp hname
    exact horder seg hseg
  · have hnone : ∀ seg ∈ segs, ¬ decide (seg.name = name) = true := by
      intro seg hseg hsame
      exact hname (of_decide_eq_true hsame ▸ List.mem_map_of_mem hseg)
    rw [List.filter_eq_nil_iff.mpr hnone,
      List.filter_eq_nil_iff.mpr fun seg hseg => hnone seg (hperm.mem_iff.mp hseg)]

/-- The first value of a name stays when segments of other names go. -/
theorem firstValue?_kept {names : List String}
    (h : segs'.filter (·.name ∈ names) = segs.filter (·.name ∈ names)) (hname : name ∈ names) :
    firstValue? name segs' = firstValue? name segs := by
  apply firstValue?_congr
  have hamong : ∀ l : List QuerySegment,
      l.filter (·.name = name) = (l.filter (·.name ∈ names)).filter (·.name = name) := by
    intro l
    rw [List.filter_filter]
    refine List.filter_congr fun seg _ => ?_
    by_cases hsame : seg.name = name
    · have hmem : seg.name ∈ names := hsame ▸ hname
      rw [decide_eq_true hmem, Bool.and_true]
    · rw [decide_eq_false hsame, Bool.false_and]
  rw [hamong segs', hamong segs, h]

/-- A segment whose name stands in front of it is never the first of a name. -/
theorem firstValue?_repeated {before after : List QuerySegment} {seg : QuerySegment}
    (hseg : seg.name ∈ before.map QuerySegment.name) (name : String) :
    firstValue? name (before ++ after) = firstValue? name (before ++ seg :: after) := by
  unfold firstValue?
  rw [List.find?_append, List.find?_append]
  by_cases hname : seg.name = name
  · -- a segment of this name is found in front
    obtain ⟨first, hfirst, hsame⟩ := List.mem_map.mp hseg
    have hfound : (before.find? (·.name = name)).isSome = true :=
      List.find?_isSome.mpr ⟨first, hfirst, decide_eq_true (hsame.trans hname)⟩
    obtain ⟨other, hother⟩ := Option.isSome_iff_exists.mp hfound
    rw [hother, Option.some_or, Option.some_or]
  · rw [List.find?_cons_of_neg (by simpa using hname)]

end firstValue

/-! ## The values of a query -/

section store

open QuerySegment

variable (keys : List FilterKey) {texts : List String} {segs segs' : List QuerySegment}

theorem ofQuery_texts (h : texts.filter (· ≠ "") = segs.map text) :
    FilterStore.ofQuery ("&".intercalate texts) keys = ofParams (segs.map pair) keys := by
  unfold ofQuery ofParams
  rw [params_texts h]

theorem ofQuery_mark_texts (h : texts.filter (· ≠ "") = segs.map text) :
    FilterStore.ofQuery ("?" ++ "&".intercalate texts) keys = ofParams (segs.map pair) keys := by
  have hmark : ("?" ++ "&".intercalate texts).toList = '?' :: ("&".intercalate texts).toList :=
    String.toList_append
  unfold ofQuery ofParams
  rw [hmark]
  -- the mark that is taken off is the one in front, so nothing is asked of the texts here
  show OrderedMap.ofList (keys.filterMap (readKey? (decodePairs ("&".intercalate texts).toList))) = _
  rw [decodePairs_texts h]

theorem filter_map_text (segs : List QuerySegment) :
    (segs.map text).filter (· ≠ "") = segs.map text := by
  rw [List.filter_eq_self]
  intro t ht
  obtain ⟨seg, -, rfl⟩ := List.mem_map.mp ht
  exact decide_eq_true seg.ne_empty

theorem ofQuery_join (segs : List QuerySegment) :
    FilterStore.ofQuery (join segs) keys = ofParams (segs.map pair) keys :=
  ofQuery_texts keys (filter_map_text segs)

/-- Each declared key reads the first value under its name. -/
theorem ofQuery_join_eq (segs : List QuerySegment) :
    FilterStore.ofQuery (join segs) keys =
      .ofList (keys.filterMap fun k => ((firstValue? k.key segs).bind k.readValue?).map (k.key, ·)) := by
  rw [ofQuery_join]
  refine congrArg OrderedMap.ofList (List.filterMap_congr fun k _ => ?_)
  unfold readKey?
  rw [find?_map_pair]

theorem ofQuery_join_congr (h : ∀ k ∈ keys, firstValue? k.key segs' = firstValue? k.key segs) :
    FilterStore.ofQuery (join segs') keys = FilterStore.ofQuery (join segs) keys := by
  rw [ofQuery_join_eq, ofQuery_join_eq]
  refine congrArg OrderedMap.ofList (List.filterMap_congr fun k hk => ?_)
  rw [h k hk]

end store

/-- **Only the first occurrence of a declared parameter counts.** The values that a query of segments
gives to declared keys are what the keys read, one after the other, in the first value under each name.
They stay the same when the segments change places and those of each name keep their order, when
undeclared or repeated ones are left out, and when empty segments or one question mark in front are
added. -/
theorem ofQuery_join_first (keys : List FilterKey) (segs : List QuerySegment) :
    let d := FilterStore.ofQuery (QuerySegment.join segs) keys
    d = .ofList (keys.filterMap fun k =>
      ((QuerySegment.firstValue? k.key segs).bind k.readValue?).map (k.key, ·)) ∧
    (∀ segs' : List QuerySegment,
      (∀ k ∈ keys, QuerySegment.firstValue? k.key segs' = QuerySegment.firstValue? k.key segs) →
      FilterStore.ofQuery (QuerySegment.join segs') keys = d) ∧
    (∀ segs' : List QuerySegment, segs'.Perm segs →
      (∀ seg ∈ segs, segs'.filter (·.name = seg.name) = segs.filter (·.name = seg.name)) →
      FilterStore.ofQuery (QuerySegment.join segs') keys = d) ∧
    (∀ kept : List QuerySegment, kept.Sublist segs →
      kept.filter (·.name ∈ keys.map FilterKey.key) =
        segs.filter (·.name ∈ keys.map FilterKey.key) →
      FilterStore.ofQuery (QuerySegment.join kept) keys = d) ∧
    (∀ before seg after, segs = before ++ seg :: after →
      seg.name ∈ before.map QuerySegment.name →
      FilterStore.ofQuery (QuerySegment.join (before ++ after)) keys = d) ∧
    (∀ texts : List String, texts.filter (· ≠ "") = segs.map QuerySegment.text →
      FilterStore.ofQuery ("&".intercalate texts) keys = d ∧
        FilterStore.ofQuery ("?" ++ "&".intercalate texts) keys = d) ∧
    FilterStore.ofQuery ("?" ++ QuerySegment.join segs) keys = d := by
  refine ⟨ofQuery_join_eq keys segs, ?first, ?reordered, ?undeclared, ?repeated, ?empty, ?mark⟩
  case first =>
    intro segs' hfirst
    exact ofQuery_join_congr keys hfirst
  case reordered =>
    intro segs' hperm horder
    apply ofQuery_join_congr
    intro k _
    exact firstValue?_reordered hperm horder k.key
  case undeclared =>
    intro kept _ hdeclared
    apply ofQuery_join_congr
    intro k hk
    exact firstValue?_kept hdeclared (List.mem_map_of_mem hk)
  case repeated =>
    rintro before seg after rfl hseg
    apply ofQuery_join_congr
    intro k _
    exact firstValue?_repeated hseg k.key
  case empty =>
    intro texts htexts
    have hplain := (ofQuery_texts keys htexts).trans (ofQuery_join keys segs).symm
    have hmark := (ofQuery_mark_texts keys htexts).trans (ofQuery_join keys segs).symm
    exact ⟨hplain, hmark⟩
  case mark =>
    exact (ofQuery_mark_texts keys (filter_map_text segs)).trans (ofQuery_join keys segs).symm

/-- An escaped second spelling of a name, an undeclared name, and a name without a value. -/
theorem ofQuery_join_first_escaped :
    let keys := [FilterKey.ofSearch "q" "Search", .ofBoolean "mine" "Mine", .ofSearch "a b" "Range"]
    let d := FilterStore.ofQuery "q=1&page=3&%71=2&mine=true&a+b" keys
    d.entries = [("q", .text "1"), ("mine", .flag true), ("a b", .text "")] ∧
      FilterStore.ofQuery "a+b&q=1&mine=true&%71=2&page=3" keys = d ∧
      FilterStore.ofQuery "q=1&%71=2&mine=true&a+b" keys = d ∧
      FilterStore.ofQuery "q=1&page=3&mine=true&a+b" keys = d ∧
      FilterStore.ofQuery "?&q=1&&page=3&%71=2&mine=true&a+b&" keys = d := by
  intro keys
  let q : QuerySegment := ⟨"q=1", by decide, by decide, by decide⟩
  let page : QuerySegment := ⟨"page=3", by decide, by decide, by decide⟩
  let escaped : QuerySegment := ⟨"%71=2", by decide, by decide, by decide⟩
  let mine : QuerySegment := ⟨"mine=true", by decide, by decide, by decide⟩
  let range : QuerySegment := ⟨"a+b", by decide, by decide, by decide⟩
  obtain ⟨-, -, hreordered, hundeclared, hrepeated, hempty, -⟩ :=
    ofQuery_join_first keys [q, page, escaped, mine, range]
  refine ⟨by decide, hreordered [range, q, mine, escaped, page] (by decide) (by decide),
    hundeclared [q, escaped, mine, range] (by decide) (by decide),
    hrepeated [q, page] escaped [mine, range] rfl (by decide),
    (hempty ["", "q=1", "", "page=3", "%71=2", "mine=true", "a+b", ""] (by decide)).2⟩

end FilterStore

end Wayfinder

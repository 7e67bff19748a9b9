import Wayfinder.Proofs.Json.RoundTrip
import Wayfinder.Proofs.OrderedMap
import Wayfinder.Proofs.Vocabulary.TermSet

/-!
# Readers that undo writers

A reader and a writer of JSON values make a codec if every value that is written is plain and is
read back (`Codec`). Codecs of leaves carry over to lists, sets of terms and maps, and a record
reads back if each of its fields does: `bind_fields?_obj` and `bind_fields?_objOf` reduce reading a
record to looking up its fields as they were written, the second where some of them are left out.
-/

namespace Wayfinder.Json

open DataTree

variable {α : Type} {read : Json → Option α} {write : α → Json}

/-- What is written is plain, and reading it gives back what was written. -/
structure Codec (read : Json → Option α) (write : α → Json) : Prop where
  plain : ∀ a, (write a).Plain
  read_write : ∀ a, read (write a) = some a

/-- What is written is read back from the text of either layout. -/
theorem Codec.bind_ofText? (c : Codec read write) (a : α) {text : String}
    (h : text ∈ [(write a).compact, (write a).pretty]) : (ofText? text).bind read = some a := by
  have hvalue : ofText? text = some (write a) := by
    simp only [List.mem_cons, List.not_mem_nil, or_false] at h
    rcases h with rfl | rfl
    · exact ofText?_compact (c.plain a)
    · exact ofText?_pretty (c.plain a)
  rw [hvalue, Option.bind_some, c.read_write]

/-! ## Leaves -/

theorem codec_text : Codec DataTree.text? str :=
  ⟨.str, fun _ => rfl⟩

theorem codec_flag : Codec flag? bool :=
  ⟨.bool, fun _ => rfl⟩

theorem codec_term [Term α] : Codec (term? : Json → Option α) term :=
  ⟨fun _ => .str _, Term.ofName?_name⟩

/-! ## Lists and maps -/

theorem mapM_map {β : Type} {f : β → Option α} {g : α → β} (h : ∀ a, f (g a) = some a)
    (as : List α) : (as.map g).mapM f = some as := by
  have hfg : f ∘ g = fun a => pure (id a) := funext h
  rw [List.mapM_map, hfg, List.mapM_pure, List.map_id]
  rfl

theorem Codec.listOf (c : Codec read write) : Codec (listOf? read) fun as => arr (as.map write) where
  plain as := .arr fun v hv => by
    obtain ⟨a, -, rfl⟩ := List.mem_map.mp hv
    exact c.plain a
  read_write as := mapM_map c.read_write as

theorem codec_texts : Codec (listOf? DataTree.text?) texts :=
  codec_text.listOf

theorem codec_termSet [DecidableEq α] [Term α] :
    Codec (termSet? : Json → Option (TermSet α)) fun s => terms s.toList where
  plain s := codec_term.listOf.plain s.toList
  read_write s := by
    have hlist : listOf? term? (terms s.toList) = some s.toList := codec_term.listOf.read_write _
    rw [termSet?, hlist, Option.map_some, TermSet.ofList_toList]

theorem Codec.mapOf (c : Codec read write) :
    Codec (mapOf? read) fun m : OrderedMap α => obj (m.entries.map fun e => (e.1, write e.2)) where
  plain m := .obj fun v hv => by
    obtain ⟨e, -, rfl⟩ := List.mem_map.mp hv
    exact c.plain e.2
  read_write m := by
    have hentries : (m.entries.map fun e => (e.1, write e.2)).mapM
        (fun e : String × Json => (read e.2).map (e.1, ·)) = some m.entries :=
      mapM_map (fun e => by rw [c.read_write]; rfl) m.entries
    have hmap : OrderedMap.ofList m.entries = m :=
      OrderedMap.ext_entries (OrderedMap.entries_ofList m.nodup_keys)
    show Option.bind (List.mapM _ (m.entries.map fun e : String × α => (e.1, write e.2))) _ = _
    rw [hentries]
    exact congrArg some hmap

/-! ## Records -/

/-- A member that is plain if it is there. -/
def PlainPart (o : Option Json) : Prop := ∀ j, o = some j → j.Plain

theorem Codec.plain_some (c : Codec read write) (a : α) : PlainPart (some (write a)) :=
  fun _ h => Option.some.inj h ▸ c.plain a

theorem Codec.plain_map (c : Codec read write) (o : Option α) : PlainPart (o.map write) := by
  intro j hj
  obtain ⟨a, -, rfl⟩ := Option.map_eq_some_iff.mp hj
  exact c.plain a

theorem plain_objOf {members : List (String × Option Json)} (h : ∀ m ∈ members, PlainPart m.2) :
    (objOf members).Plain := by
  refine .obj fun m hm => ?_
  obtain ⟨m', hm', hpair⟩ := List.mem_filterMap.mp hm
  obtain ⟨j, hj, rfl⟩ := Option.map_eq_some_iff.mp hpair
  exact h m' hm' j hj

/-- To read a record, it is enough to look up its fields as they were written. -/
theorem bind_fields?_obj {members : List (String × Json)} {names : List String}
    {k : List (String × Json) → Option α} {a : α} (hnames : (members.map Prod.fst).Nodup)
    (h : ∀ fs, (∀ m ∈ members, OrderedMap.find? m.1 fs = some m.2) → k fs = some a) :
    (fields? names (obj members)).bind k = some a := by
  have hfields : fields? names (obj members) = some members := if_pos (hnames.filter _)
  rw [hfields, Option.bind_some]
  exact h members fun m hm => OrderedMap.find?_of_mem hnames hm

theorem bind_fields?_objOf {members : List (String × Option Json)} {names : List String}
    {k : List (String × Json) → Option α} {a : α} (hnames : (members.map Prod.fst).Nodup)
    (h : ∀ fs, (∀ m ∈ members, OrderedMap.find? m.1 fs = m.2) → k fs = some a) :
    (fields? names (objOf members)).bind k = some a := by
  have hpresent := hnames.sublist (OrderedMap.map_fst_filterMap_sublist (f := Prod.snd))
  have hfields : fields? names (objOf members) =
      some (members.filterMap fun m => m.2.map (m.1, ·)) := if_pos (hpresent.filter _)
  rw [hfields, Option.bind_some]
  refine h _ fun m hm => OrderedMap.find?_filterMap (fun b hb c hc hbc => ?_) hm
  rw [List.inj_on_of_nodup_map hnames hb hc hbc]

section fields

variable {fs : List (String × Json)} {name : String}

theorem Codec.required (c : Codec read write) {a : α}
    (h : OrderedMap.find? name fs = some (write a)) : required? fs name read = some a := by
  rw [required?, h, Option.bind_some, c.read_write]

theorem Codec.field (c : Codec read write) {a default : α}
    (h : OrderedMap.find? name fs = some (write a)) : field? fs name read default = some a := by
  rw [field?, h]
  exact c.read_write a

theorem Codec.field_option (c : Codec read write) (hnull : ∀ a, isNull (write a) = false)
    {o : Option α} (h : OrderedMap.find? name fs = o.map write) :
    field? fs name (nullable read) none = some o := by
  rw [field?, h]
  cases o with
  | none => rfl
  | some a =>
    show nullable read (write a) = some (some a)
    rw [nullable, hnull, if_neg Bool.false_ne_true, c.read_write]
    rfl

end fields

end Wayfinder.Json

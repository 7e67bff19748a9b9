import Wayfinder.Filter.Data
import Wayfinder.Proofs.Filter.Validation
import Wayfinder.Proofs.Policy.Codec

/-!
# Schemas in JSON

Filter keys are read back as they were written (`FilterKey.codec`), so what JSON says of a schema is
checked like any other list of keys: main result `FilterSchema.validation`, which keys make a
schema, what is reported when they make none, and that reading a schema from a text decides alike.
-/

namespace Wayfinder

open DataTree Json

/-! ## Filter keys -/

theorem FilterOption.codec : Codec FilterOption.read? FilterOption.toJson where
  plain o := by
    refine .obj ?_
    simp only [List.forall_mem_cons]
    exact ⟨codec_text.plain _, codec_text.plain _, List.forall_mem_nil _⟩
  read_write o := by
    unfold FilterOption.read? FilterOption.toJson
    refine bind_fields?_obj (by simp) fun fs hfind => ?_
    simp only [List.forall_mem_cons] at hfind
    obtain ⟨hvalue, hlabel, -⟩ := hfind
    simp only [codec_text.required hvalue, codec_text.required hlabel, Option.bind_eq_bind,
      Option.bind_some]
    rfl

theorem FilterKey.codec : Codec FilterKey.read? FilterKey.toJson where
  plain k := by
    refine plain_objOf ?_
    simp only [List.forall_mem_cons]
    exact ⟨codec_text.plain_some _, codec_text.plain_some _, codec_term.plain_some _,
      FilterOption.codec.listOf.plain_nonempty _ _, codec_text.plain_map _,
      codec_termSet.plain_nonempty _ _, List.forall_mem_nil _⟩
  read_write k := by
    refine bind_fields?_objOf (by simp) fun fs hfind => ?_
    simp only [List.forall_mem_cons] at hfind
    obtain ⟨hkey, hlabel, hkind, hoptions, hplaceholder, hhidden, -⟩ := hfind
    simp only [codec_text.required hkey, codec_text.required hlabel, codec_term.required hkind,
      FilterOption.codec.listOf.field_nonempty hoptions List.isEmpty_iff.mp,
      codec_text.field_option (fun _ => rfl) hplaceholder,
      codec_termSet.field_nonempty hhidden TermSet.eq_empty_of_isEmpty,
      Option.bind_eq_bind, Option.bind_some]
    rfl

theorem codec_filterKeys :
    Codec filterKeys? fun ks : List FilterKey => arr (ks.map FilterKey.toJson) :=
  FilterKey.codec.listOf

/-! ## Schemas -/

namespace FilterSchema

theorem read?_eq_some_iff {v : Json} {s : FilterSchema} :
    read? v = some s ↔ ∃ ks, filterKeys? v = some ks ∧ ofKeys ks = .ok s := by
  rw [read?, Option.bind_eq_bind, Option.bind_eq_some_iff]
  refine exists_congr fun ks => and_congr_right fun _ => ?_
  cases ofKeys ks <;> simp [Except.toOption]

theorem codec : Codec read? toJson where
  plain s := codec_filterKeys.plain s.keys
  read_write s := read?_eq_some_iff.mpr ⟨s.keys, codec_filterKeys.read_write s.keys, ofKeys_keys s⟩

/-- **Which filter keys make a schema**, what is reported when they make none, and what the schema
that they make holds. A text that spells the keys is read as that schema, or as none. -/
theorem validation (ks : List FilterKey) :
    ((∃ s, ofKeys ks = .ok s) ↔ Acceptable ks) ∧
      (∀ e, ofKeys ks = .error e ↔
        ∃ before k after, ks = before ++ k :: after ∧ Acceptable before ∧ k.Fault before e) ∧
      (∀ s, ofKeys ks = .ok s →
        s.keys = ks ∧
          (∀ key, (∀ k, s.get? key = some k ↔ ks.filter (·.key = key) = [k]) ∧
            (s.get? key = none ↔ ∀ k ∈ ks, k.key ≠ key)) ∧
          ∀ text ∈ [s.toJson.compact, s.toJson.pretty], (ofText? text).bind read? = some s) ∧
      (∀ text ∈ [(arr (ks.map FilterKey.toJson)).compact, (arr (ks.map FilterKey.toJson)).pretty],
        (ofText? text).bind filterKeys? = some ks) ∧
      ∀ text, (ofText? text).bind filterKeys? = some ks →
        ∀ s, (ofText? text).bind read? = some s ↔ ofKeys ks = .ok s := by
  refine ⟨exists_ofKeys_eq_ok_iff, fun e => ?_, fun s hs => ?_, fun text => ?_, fun text h s => ?_⟩
  · rw [ofKeys_eq_error_iff, firstKeyFault?_nil_eq_some_iff]
  · obtain ⟨-, rfl⟩ := ofKeys_eq_ok_iff.mp hs
    refine ⟨rfl, fun key => ⟨fun k => ?_, find?_name_eq_none_iff⟩, fun text => codec.bind_ofText? s⟩
    rw [get?_eq_some_iff, filter_name_eq_singleton_iff s.nodup_keys]
  · exact codec_filterKeys.bind_ofText? ks
  · obtain ⟨v, hv, hks⟩ := Option.bind_eq_some_iff.mp h
    rw [hv, Option.bind_some, read?_eq_some_iff, hks]
    simp

/-- The second search box is also declared twice, which comes first; the blank key after it is not
looked at. -/
example :
    ofKeys [.ofSearch "q" "Search", .ofChoice "s" "State" [⟨"OPEN", "Open"⟩], .ofSearch "q" "Again",
        .ofBoolean "\u3000" "Blank"] = .error (.duplicateKey "q") := by
  rfl

example :
    ofKeys [.ofSearch "q" "Search", .ofBoolean "mine" "Mine", .ofSearch "term" "Term"] =
      .error (.multipleSearchKeys "q" "term") := by
  rfl

end FilterSchema

end Wayfinder

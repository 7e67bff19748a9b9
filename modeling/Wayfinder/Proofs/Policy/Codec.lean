import Wayfinder.Policy.Data
import Wayfinder.Proofs.Json.Codec

/-!
# Filter values, actions and policies read back

`FilterValue.codec`, `Action.codec`, `Policy.codec` and `Policies.codec`: each is read back as it
was written. A part of a policy is left out only where it is empty, which is what the reader puts in
its place (`field_nonempty`).
-/

namespace Wayfinder

open DataTree Json

/-! ## Parts that are left out -/

namespace Json

variable {α : Type} {read : Json → Option α} {write : α → Json}

theorem Codec.plain_nonempty (c : Codec read write) (isEmpty : Bool) (a : α) :
    PlainPart (nonempty isEmpty (write a)) := by
  cases isEmpty with
  | true => exact fun j hj => by cases hj
  | false => exact c.plain_some a

/-- A field that is left out exactly where it has the value that the reader puts in its place. -/
theorem Codec.field_nonempty (c : Codec read write) {a default : α} {isEmpty : Bool}
    {fs : List (String × Json)} {name : String}
    (h : OrderedMap.find? name fs = nonempty isEmpty (write a))
    (hdefault : isEmpty = true → a = default) : field? fs name read default = some a := by
  cases isEmpty with
  | true => rw [field?, h, hdefault rfl]; rfl
  | false => exact c.field h

end Json

/-! ## Filter values -/

theorem FilterValue.codec : Codec FilterValue.read? FilterValue.toJson where
  plain v := by
    cases v with
    | flag b => exact .bool b
    | text s => exact .str s
  read_write v := by
    cases v with
    | flag b => rfl
    | text s => rfl

theorem codec_filterValues : Codec (mapOf? FilterValue.read?) filterValuesToJson :=
  FilterValue.codec.mapOf

/-! ## Actions and policies -/

theorem Action.codec : Codec Action.read? Action.toJson where
  plain a := by
    refine plain_objOf ?_
    simp only [List.forall_mem_cons]
    exact ⟨codec_text.plain_some _, codec_text.plain_some _, codec_term.plain_map _,
      codec_flag.plain_some _, List.forall_mem_nil _⟩
  read_write a := by
    refine bind_fields?_objOf (by simp) fun fs hfind => ?_
    simp only [List.forall_mem_cons] at hfind
    obtain ⟨hkey, hlabel, hcapability, hmutating, -⟩ := hfind
    simp only [codec_text.required hkey, codec_text.required hlabel,
      codec_term.field_option (fun _ => rfl) hcapability, codec_flag.field hmutating,
      Option.bind_eq_bind, Option.bind_some]
    rfl

theorem Policy.codec : Codec Policy.read? Policy.toJson where
  plain p := by
    refine plain_objOf ?_
    simp only [List.forall_mem_cons]
    exact ⟨codec_term.plain_some _, codec_term.plain_some _, codec_filterValues.plain_nonempty _ _,
      codec_texts.plain_nonempty _ _, codec_texts.plain_nonempty _ _,
      Action.codec.listOf.plain_nonempty _ _, List.forall_mem_nil _⟩
  read_write p := by
    refine bind_fields?_objOf (by simp) fun fs hfind => ?_
    simp only [List.forall_mem_cons] at hfind
    obtain ⟨hdensity, hpanel, hfilters, hcolumns, hmetrics, hactions, -⟩ := hfind
    simp only [codec_term.field hdensity, codec_term.field hpanel,
      codec_filterValues.field_nonempty hfilters OrderedMap.eq_empty_of_isEmpty,
      codec_texts.field_nonempty hcolumns List.isEmpty_iff.mp,
      codec_texts.field_nonempty hmetrics List.isEmpty_iff.mp,
      Action.codec.listOf.field_nonempty hactions List.isEmpty_iff.mp,
      Option.bind_eq_bind, Option.bind_some]
    rfl

/-! ## Policies by preset -/

theorem Policies.get?_insertAll (declared : Preset → Option Policy) (presets : List Preset)
    (ps : Policies) (q : Preset) :
    ((presets.filterMap fun p => (declared p).map (p, ·)).foldl
        (fun ps e => ps.insert e.1 e.2) ps).get? q =
      if q ∈ presets then (declared q).or (ps.get? q) else ps.get? q := by
  induction presets generalizing ps with
  | nil => simp
  | cons p presets ih =>
    cases hp : declared p with
    | none =>
      rw [List.filterMap_cons_none (by simp [hp]), ih]
      by_cases hq : q = p
      · simp [hq, hp]
      · simp [hq]
    | some policy =>
      rw [List.filterMap_cons_some (by rw [hp]; rfl), List.foldl_cons, ih]
      by_cases hq : q = p
      · simp [hq, hp, Policies.insert]
      · simp [hq, Policies.insert]

/-- Every preset is among those that are listed. -/
theorem Policies.ofList_toList (ps : Policies) : ofList ps.toList = ps := by
  have hget : (ofList ps.toList).get? = ps.get? := by
    funext p
    have hmem : p ∈ Preset.all := Term.mem_all p
    rw [ofList, toList, get?_insertAll, if_pos hmem]
    exact Option.or_none
  cases ps with
  | mk get? => exact congrArg Policies.mk hget

theorem Policies.codec : Codec Policies.read? Policies.toJson where
  plain ps := .obj fun v hv => by
    obtain ⟨e, -, rfl⟩ := List.mem_map.mp hv
    exact Policy.codec.plain e.2
  read_write ps := by
    have hentry : ∀ e : Preset × Policy, (do
        return ((← Term.ofName? e.1.name : Preset), (← Policy.read? e.2.toJson))) = some e := by
      intro e
      have hname : Term.ofName? e.1.name = some e.1 := Term.ofName?_name e.1
      rw [hname, Policy.codec.read_write]
      rfl
    show Option.bind (List.mapM _
      (ps.toList.map fun e : Preset × Policy => (e.1.name, e.2.toJson))) _ = _
    rw [mapM_map hentry]
    exact congrArg some ps.ofList_toList

end Wayfinder

import Wayfinder.Catalog.Basic
import Wayfinder.Proofs.Policy.Codec
import Wayfinder.Proofs.Registry.Lookup

/-!
# Catalogs read back

A document that lists nodes is read back as those nodes (`Catalog.codec`), so a catalog written as
JSON, in either layout, gives the registry that its nodes give, or their first fault
(`ofJson_compact`, `ofJson_pretty`). Main result `ofJson_toJson`: nodes that make a registry are
written and read back as they are, in their order.
-/

namespace Wayfinder

open DataTree Json

/-! ## Templates and nodes -/

theorem Link.Template.codec : Codec Link.Template.read? Link.Template.toJson where
  plain t := by
    refine .obj ?_
    simp only [List.forall_mem_cons]
    exact ⟨codec_text.plain _, codec_texts.plain _, List.forall_mem_nil _⟩
  read_write t := by
    unfold Link.Template.read? Link.Template.toJson
    refine bind_fields?_obj (by simp) fun fs hfind => ?_
    simp only [List.forall_mem_cons] at hfind
    obtain ⟨hpattern, hparams, -⟩ := hfind
    simp only [codec_text.required hpattern, codec_texts.field hparams, Option.bind_eq_bind,
      Option.bind_some]
    rfl

theorem codec_int32 : Codec int32? fun n => .int n.toInt where
  plain n := .int _
  read_write n := by
    have hlo : Int32.minValue.toInt ≤ n.toInt := Int32.le_toInt n
    have hhi : n.toInt ≤ Int32.maxValue.toInt := Int32.toInt_le n
    show ((some n.toInt).filter _).map Int32.ofInt = some n
    rw [Option.filter_some, if_pos]
    · exact congrArg some (Int32.ofInt_toInt n)
    · rw [Bool.and_eq_true, decide_eq_true_eq, decide_eq_true_eq]
      exact ⟨hlo, hhi⟩

theorem Node.codec : Codec Node.read? Node.toJson where
  plain n := by
    refine .obj ?_
    simp only [List.forall_mem_cons]
    exact ⟨codec_text.plain _, codec_text.plain _, codec_text.plain _, codec_term.plain _,
      codec_termSet.plain _, codec_termSet.plain _, codec_texts.plain _, codec_termSet.plain _,
      codec_texts.plain _, codec_texts.plain _, codec_term.plain _, Policies.codec.plain _,
      Link.Template.codec.listOf.plain _, codec_int32.plain _, codec_texts.plain _,
      List.forall_mem_nil _⟩
  read_write n := by
    unfold Node.read? Node.toJson
    refine bind_fields?_obj (by simp) fun fs hfind => ?_
    simp only [List.forall_mem_cons] at hfind
    obtain ⟨hid, hlabel, hroute, hdomain, hcapabilities, hintents, hquestions, hentities,
      hkeywords, hmetrics, hpreset, hpolicies, hlinks, hpriority, hhints, -⟩ := hfind
    simp only [codec_text.required hid, codec_text.required hlabel, codec_text.required hroute,
      codec_term.required hdomain, codec_termSet.field hcapabilities, codec_termSet.field hintents,
      codec_texts.field hquestions, codec_termSet.field hentities, codec_texts.field hkeywords,
      codec_texts.field hmetrics, codec_term.required hpreset, Policies.codec.field hpolicies,
      Link.Template.codec.listOf.field hlinks, codec_int32.field hpriority,
      codec_texts.field hhints, Option.bind_eq_bind, Option.bind_some]
    rfl

/-! ## Documents -/

namespace Catalog

theorem codec : Codec nodes? toJson where
  plain ns := by
    refine .obj ?_
    simp only [List.forall_mem_cons]
    exact ⟨Node.codec.listOf.plain ns, List.forall_mem_nil _⟩
  read_write ns := by
    unfold nodes? toJson
    refine bind_fields?_obj (by simp) fun fs hfind => ?_
    exact Node.codec.listOf.field (hfind _ List.mem_cons_self)

variable (ns : List Node)

theorem ofJson_of_ofText? {text : String} (h : Json.ofText? text = some (toJson ns)) :
    ofJson text = (Registry.ofNodes ns).mapError .invalid := by
  rw [ofJson, registry, h, Option.bind_some, codec.read_write]

theorem ofJson_compact :
    ofJson (toJson ns).compact = (Registry.ofNodes ns).mapError .invalid :=
  ofJson_of_ofText? ns (ofText?_compact (codec.plain ns))

theorem ofJson_pretty :
    ofJson (toJson ns).pretty = (Registry.ofNodes ns).mapError .invalid :=
  ofJson_of_ofText? ns (ofText?_pretty (codec.plain ns))

variable {ns}

/-- A catalog of nodes that make a registry is read back as that registry, which lists the nodes as
they were, in their order. -/
theorem ofJson_toJson {r : Registry} (h : Registry.ofNodes ns = .ok r) :
    ofJson (toJson ns).compact = .ok r ∧ ofJson (toJson ns).pretty = .ok r ∧ r.nodes = ns := by
  refine ⟨?_, ?_, (Registry.ofNodes_eq_ok_iff.mp h).2⟩
  · rw [ofJson_compact, h]
    rfl
  · rw [ofJson_pretty, h]
    rfl

/-- A board that opens on a text that spells a toggle, then a toggle, then a text with a quote and a
control character; it has no columns to hide, and an action without a required capability. -/
def board : Node where
  id := "board"
  label := "보드 \"1\""
  route := "/board"
  domain := .execution
  requiredCapabilities := .ofList [.viewKanban, .viewIssues]
  defaultPreset := .pmWork
  policies := Policies.empty.insert .pmWork {
    density := .detailed
    panel := .opened
    defaultFilters := .ofList [("mine", .text "true"), ("open", .flag true), ("q", .text "\"\x01")]
    suggestedActions := [{ key := "move", label := "Move", mutating := true }] }
  links := [.ofPattern "/board/{projectId}"]
  priority := -3

theorem ofJson_toJson_board :
    let ns : List Node := [board, { id := "home", label := "", route := "/", domain := .overview }]
    let r : Registry := ⟨ns, by decide, by decide, by decide⟩
    Registry.ofNodes ns = .ok r ∧ ofJson (toJson ns).compact = .ok r ∧
      ofJson (toJson ns).pretty = .ok r ∧ r.nodes = ns := by
  intro ns r
  have h : Registry.ofNodes ns = .ok r := Registry.ofNodes_eq_ok_iff.mpr ⟨by decide, rfl⟩
  exact ⟨h, ofJson_toJson h⟩

end Catalog

end Wayfinder

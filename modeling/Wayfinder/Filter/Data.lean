import Wayfinder.Filter.State
import Wayfinder.Policy.Data

/-!
# Filter keys in data files

How filter keys and schemas are read from any data file and written as JSON.
-/

namespace Wayfinder

open DataTree

variable {V : Type} [DataTree V]

/-- Reads a choice. -/
def FilterOption.read? (v : V) : Option FilterOption := do
  let fs ← fields? ["value", "label"] v
  return ⟨← required? fs "value" text?, ← required? fs "label" text?⟩

/-- A choice with both its parts. -/
def FilterOption.toJson (o : FilterOption) : Json :=
  .obj [("value", .str o.value), ("label", .str o.label)]

/-- Reads a filter key. -/
def FilterKey.read? (v : V) : Option FilterKey := do
  let fs ← fields? ["key", "label", "type", "options", "placeholder", "hidden_in_presets"] v
  return {
    key := ← required? fs "key" text?
    label := ← required? fs "label" text?
    kind := ← required? fs "type" term?
    options := ← field? fs "options" (listOf? FilterOption.read?) []
    placeholder := ← field? fs "placeholder" (nullable text?) none
    hiddenIn := ← field? fs "hidden_in_presets" termSet? .empty }

/-- A filter key without its empty parts. -/
def FilterKey.toJson (k : FilterKey) : Json :=
  .objOf [
    ("key", some (.str k.key)),
    ("label", some (.str k.label)),
    ("type", some (.term k.kind)),
    ("options", nonempty k.options.isEmpty (.arr (k.options.map FilterOption.toJson))),
    ("placeholder", k.placeholder.map .str),
    ("hidden_in_presets", nonempty k.hiddenIn.isEmpty (.terms k.hiddenIn.toList))]

/-- Reads a list of filter keys, faults not looked for. -/
def filterKeys? (v : V) : Option (List FilterKey) :=
  listOf? FilterKey.read? v

/-- Reads a schema: filter keys without a fault. -/
def FilterSchema.read? (v : V) : Option FilterSchema := do
  (FilterSchema.ofKeys (← filterKeys? v)).toOption

/-- The keys of a schema. -/
def FilterSchema.toJson (s : FilterSchema) : Json :=
  .arr (s.keys.map FilterKey.toJson)

/-- A filter bar: its schema, and its values in order. -/
def FilterState.toJson (s : FilterState) : Json :=
  .obj [("schema", s.schema.toJson), ("values", filterValuesToJson s.values)]

end Wayfinder

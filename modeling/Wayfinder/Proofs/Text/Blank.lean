import Wayfinder.Text.Basic
import Mathlib.Data.List.Basic

/-!
# Trimmed texts

What trimming leaves is known by where it begins and ends (`trim_eq`). So nothing is left of a text if
and only if all its characters are blank, trimming twice is trimming once (`trim_trim`), and it commutes
with a change of characters that makes no blank and takes none away (`trim_map`).
-/

namespace Wayfinder.Text

theorem dropWhile_isBlank_append {front cs : List Char} (hfront : ∀ c ∈ front, isBlank c = true)
    (hcs : ∀ c ∈ cs.head?, isBlank c = false) : (front ++ cs).dropWhile isBlank = cs := by
  rw [List.dropWhile_append_of_pos hfront]
  cases cs with
  | nil => rfl
  | cons c cs => exact List.dropWhile_cons_of_neg (by simp [hcs c rfl])

theorem trim_eq {s t : String} {front back : List Char} (hs : s.toList = front ++ t.toList ++ back)
    (hblank : ∀ c ∈ front ++ back, isBlank c = true)
    (hhead : ∀ c ∈ t.toList.head?, isBlank c = false)
    (hlast : ∀ c ∈ t.toList.getLast?, isBlank c = false) : trim s = t := by
  obtain ⟨hfront, hback⟩ := List.forall_mem_append.mp hblank
  apply String.toList_injective
  rw [toList_trim, hs, List.append_assoc]
  by_cases ht : t.toList = []
  · have hnone : ((front ++ back) ++ []).dropWhile isBlank = [] :=
      dropWhile_isBlank_append hblank (by simp)
    rw [ht, List.nil_append, ← List.append_nil (front ++ back), hnone]
    rfl
  · rw [dropWhile_isBlank_append hfront, List.reverse_append, dropWhile_isBlank_append,
      List.reverse_reverse]
    · simpa using hback
    · rwa [List.head?_reverse]
    · rwa [List.head?_append, Option.or_of_isSome (by simpa using ht)]

theorem trim_eq_empty_iff {s : String} : trim s = "" ↔ isBlankText s = true := by
  rw [isBlankText, List.all_eq_true]
  constructor
  · intro h
    obtain ⟨front, back, hs, hblank, -, -⟩ := exists_trim s
    rwa [hs, h, String.toList_empty, List.append_nil]
  · intro h
    have hs : s.toList = s.toList ++ String.toList "" ++ [] := by simp
    exact trim_eq hs (by simpa using h) (by simp) (by simp)

theorem trim_trim (s : String) : trim (trim s) = trim s := by
  obtain ⟨_, _, -, -, hhead, hlast⟩ := exists_trim s
  have hs : (trim s).toList = [] ++ (trim s).toList ++ [] := by simp
  exact trim_eq hs (by simp) hhead hlast

theorem trim_map {f : Char → Char} (hf : ∀ c, isBlank (f c) = isBlank c) (s : String) :
    trim (String.ofList (s.toList.map f)) = String.ofList ((trim s).toList.map f) := by
  obtain ⟨front, back, hs, hblank, hhead, hlast⟩ := exists_trim s
  have hsplit : (String.ofList (s.toList.map f)).toList =
      front.map f ++ (String.ofList ((trim s).toList.map f)).toList ++ back.map f := by
    rw [String.toList_ofList, String.toList_ofList, hs, List.map_append, List.map_append]
  refine trim_eq hsplit ?_ ?_ ?_
  · rw [← List.map_append, List.forall_mem_map]
    exact fun c hc => (hf c).trans (hblank c hc)
  · simpa [hf] using hhead
  · simpa [hf] using hlast

end Wayfinder.Text

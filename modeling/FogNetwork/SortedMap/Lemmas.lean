import FogNetwork.SortedMap.Basic

/-! What each operation on a sorted map does to its look-ups, and extensionality: maps with the
same look-ups are equal. -/

namespace FogNetwork
namespace SortedMap

variable {κ α β : Type} [Ord κ]

theorem lookup_insertEntry [DecidableEq κ] [Std.TransOrd κ] [Std.LawfulEqOrd κ]
    (key wanted : κ) (value : α) (entries : List (κ × α)) :
    lookup wanted (insertEntry key value entries) =
      if wanted = key then some value else lookup wanted entries := by
  induction entries with
  | nil => simp [insertEntry, lookup]
  | cons first rest ih =>
      simp only [insertEntry]
      split
      next => simp [lookup]
      next same =>
        have equal := Std.LawfulEqOrd.eq_of_compare same
        by_cases chosen : wanted = key <;>
          simp [lookup, chosen, equal ▸ chosen]
      next greater =>
        have differs : key ≠ first.1 := by
          intro equal
          rw [Std.LawfulEqOrd.compare_eq_iff_eq.mpr equal] at greater
          cases greater
        simp only [lookup, Std.LawfulEqOrd.compare_eq_iff_eq, ih]
        by_cases chosen : wanted = key
        · have other : wanted ≠ first.1 := chosen ▸ differs
          simp [chosen, differs]
        · simp [chosen]

@[simp] theorem get?_empty (key : κ) : (empty : SortedMap κ α).get? key = none := rfl

@[simp] theorem entries_empty : (empty : SortedMap κ α).entries = [] := rfl

theorem get?_insert [DecidableEq κ] [Std.TransOrd κ] [Std.LawfulEqOrd κ]
    (map : SortedMap κ α) (key wanted : κ) (value : α) :
    (map.insert key value).get? wanted = if wanted = key then some value else map.get? wanted :=
  lookup_insertEntry key wanted value map.entries

@[simp] theorem get?_insert_self [DecidableEq κ] [Std.TransOrd κ] [Std.LawfulEqOrd κ]
    (map : SortedMap κ α) (key : κ) (value : α) : (map.insert key value).get? key = some value := by
  simp [get?_insert]

theorem get?_insert_of_ne [DecidableEq κ] [Std.TransOrd κ] [Std.LawfulEqOrd κ] (map : SortedMap κ α)
    {key wanted : κ} (value : α) (differs : wanted ≠ key) :
    (map.insert key value).get? wanted = map.get? wanted := by
  simp [get?_insert, differs]

theorem lookup_filter_ne [DecidableEq κ] [Std.LawfulEqOrd κ] (key wanted : κ)
    (entries : List (κ × α)) :
    lookup wanted (entries.filter fun entry => compare key entry.1 ≠ .eq) =
      if wanted = key then none else lookup wanted entries := by
  induction entries with
  | nil => simp [lookup]
  | cons first rest ih =>
      by_cases removed : key = first.1
      · by_cases chosen : wanted = key
        · simp_all
        · have other : wanted ≠ first.1 := removed ▸ chosen
          simp_all [lookup]
      · by_cases chosen : wanted = key
        · simp_all [lookup]
        · by_cases here : wanted = first.1 <;>
            simp_all [lookup]

theorem get?_erase [DecidableEq κ] [Std.LawfulEqOrd κ] (map : SortedMap κ α) (key wanted : κ) :
    (map.erase key).get? wanted = if wanted = key then none else map.get? wanted :=
  lookup_filter_ne key wanted map.entries

theorem get?_mapValues [Std.LawfulEqOrd κ] (map : SortedMap κ α) (change : κ → α → β) (key : κ) :
    (map.mapValues change).get? key = (map.get? key).map (change key) := by
  obtain ⟨entries, ascending⟩ := map
  simp only [get?, mapValues]
  clear ascending
  induction entries with
  | nil => rfl
  | cons first rest ih =>
      by_cases here : key = first.1
      · simp [lookup, here]
      · simpa [lookup, here] using ih

theorem get?_modify [DecidableEq κ] [Std.LawfulEqOrd κ] (map : SortedMap κ α) (key wanted : κ)
    (change : α → α) :
    (map.modify key change).get? wanted =
      if wanted = key then (map.get? wanted).map change else map.get? wanted := by
  simp only [modify, get?_mapValues, Std.LawfulEqOrd.compare_eq_iff_eq]
  by_cases chosen : wanted = key
  · simp [chosen]
  · have other : ¬key = wanted := fun equal => chosen equal.symm
    simp [chosen, other]

theorem get?_update [DecidableEq κ] [Std.TransOrd κ] [Std.LawfulEqOrd κ]
    (map : SortedMap κ α) (key wanted : κ) (initial : α) (change : α → α) :
    (map.update key initial change).get? wanted =
      if wanted = key then some (change (map.getD key initial)) else map.get? wanted :=
  get?_insert map key wanted _

theorem lookup_eq_some_iff [Std.TransOrd κ] [Std.LawfulEqOrd κ] {key : κ} {value : α}
    {entries : List (κ × α)}
    (ascending : entries.Pairwise (fun earlier later => compare earlier.1 later.1 = .lt)) :
    lookup key entries = some value ↔ (key, value) ∈ entries := by
  induction ascending with
  | nil => simp [lookup]
  | @cons first rest below tail ih =>
      by_cases here : key = first.1
      · have absent : (key, value) ∉ rest := by
          intro member
          have less := below _ member
          simp [here] at less
        simp only [lookup, here, Std.LawfulEqOrd.compare_eq_iff_eq, ↓reduceIte, List.mem_cons]
        rw [here] at absent
        simp only [absent, or_false, Option.some.injEq]
        constructor
        · rintro rfl
          rfl
        · intro equal
          rw [← equal]
      · have other : (key, value) ≠ first := fun equal => here (by rw [← equal])
        simp [lookup, here, ih, other]

theorem get?_eq_some_iff [Std.TransOrd κ] [Std.LawfulEqOrd κ] {map : SortedMap κ α} {key : κ}
    {value : α} : map.get? key = some value ↔ (key, value) ∈ map.entries :=
  lookup_eq_some_iff map.ascending

theorem mem_keys_iff [Std.TransOrd κ] [Std.LawfulEqOrd κ] {map : SortedMap κ α} {key : κ} :
    key ∈ map.keys ↔ ∃ value, map.get? key = some value := by
  simp [keys, get?_eq_some_iff]

theorem keys_ascending (map : SortedMap κ α) :
    map.keys.Pairwise (fun earlier later => compare earlier later = .lt) :=
  List.pairwise_map.mpr map.ascending

theorem entries_ext [Std.TransOrd κ] [Std.LawfulEqOrd κ] {left right : List (κ × α)}
    (leftAscending : left.Pairwise (fun earlier later => compare earlier.1 later.1 = .lt))
    (rightAscending : right.Pairwise (fun earlier later => compare earlier.1 later.1 = .lt))
    (same : ∀ entry, entry ∈ left ↔ entry ∈ right) : left = right := by
  induction leftAscending generalizing right with
  | nil =>
      cases right with
      | nil => rfl
      | cons first rest => exact absurd ((same first).mpr (by simp)) (by simp)
  | @cons first rest below tail ih =>
      cases rightAscending with
      | nil => exact absurd ((same first).mp (by simp)) (by simp)
      | @cons other others above otherTail =>
          have equal : first = other := by
            rcases List.mem_cons.mp ((same first).mp (by simp)) with equal | later
            · exact equal
            · rcases List.mem_cons.mp ((same other).mpr (by simp)) with equal | earlier
              · exact equal.symm
              · exact absurd (below _ earlier)
                  (Std.OrientedCmp.not_lt_of_lt (above _ later))
          subst equal
          congr 1
          apply ih otherTail
          intro entry
          constructor
          · intro member
            rcases List.mem_cons.mp ((same entry).mp (by simp [member])) with equal | later
            · have less := below _ member
              simp [equal] at less
            · exact later
          · intro member
            rcases List.mem_cons.mp ((same entry).mpr (by simp [member])) with equal | later
            · have less := above _ member
              simp [equal] at less
            · exact later

@[ext] theorem ext [Std.TransOrd κ] [Std.LawfulEqOrd κ] {left right : SortedMap κ α}
    (same : ∀ key, left.get? key = right.get? key) : left = right := by
  obtain ⟨leftEntries, leftAscending⟩ := left
  obtain ⟨rightEntries, rightAscending⟩ := right
  congr 1
  apply entries_ext leftAscending rightAscending
  intro entry
  rw [← lookup_eq_some_iff leftAscending, ← lookup_eq_some_iff rightAscending]
  exact iff_of_eq (congrArg (· = some entry.2) (same entry.1))

end SortedMap
end FogNetwork

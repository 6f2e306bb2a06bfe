import FogNetwork.SortedMap.Lemmas
import Mathlib.Algebra.BigOperators.Group.List.Basic
import Mathlib.Data.List.Induction
import Mathlib.Data.List.Nodup

/-! Which entries of a sorted map an operation touches, and sums over the values of a map. -/

namespace FogNetwork
namespace SortedMap

variable {κ α M : Type} [Ord κ] [Std.TransOrd κ] [Std.LawfulEqOrd κ] [AddCommMonoid M]
variable {map : SortedMap κ α} {key : κ} {old : α}

def total (map : SortedMap κ α) (measure : α → M) : M := (map.values.map measure).sum

theorem insertEntry_of_mem {entries : List (κ × α)}
    (ascending : entries.Pairwise (fun earlier later => compare earlier.1 later.1 = .lt))
    (member : (key, old) ∈ entries) :
    ∃ front back, entries = front ++ (key, old) :: back ∧
      (∀ value, insertEntry key value entries = front ++ (key, value) :: back) ∧
      (entries.filter fun entry => compare key entry.1 ≠ .eq) = front ++ back := by
  induction ascending with
  | nil => cases member
  | @cons first rest below tail ih =>
      rcases List.mem_cons.mp member with same | later
      · refine ⟨[], rest, by simp [same], ?_, ?_⟩
        · intro value
          simp [insertEntry, ← same]
        · have kept : rest.filter (fun entry => compare key entry.1 ≠ .eq) = rest := by
            rw [List.filter_eq_self]
            intro entry member
            have less := below entry member
            rw [← same] at less
            simp [less]
          rw [List.filter_cons, kept, ← same]
          simp
      · obtain ⟨front, back, split, inserted, erased⟩ := ih later
        have greater : compare key first.1 = .gt := Std.OrientedCmp.gt_of_lt (below _ later)
        refine ⟨first :: front, back, by simp [split], ?_, ?_⟩
        · intro value
          simp [insertEntry, greater, inserted value]
        · rw [List.filter_cons, erased]
          simp [greater]

omit [Std.TransOrd κ] in
theorem insertEntry_of_forall_ne {entries : List (κ × α)}
    (absent : ∀ entry ∈ entries, entry.1 ≠ key) :
    ∃ front back, entries = front ++ back ∧
      ∀ value, insertEntry key value entries = front ++ (key, value) :: back := by
  induction entries with
  | nil => exact ⟨[], [], rfl, fun _ => rfl⟩
  | cons first rest ih =>
      cases order : compare key first.1 with
      | lt => exact ⟨[], first :: rest, rfl, fun value => by simp [insertEntry, order]⟩
      | eq =>
          have same := Std.LawfulEqOrd.eq_of_compare order
          exact absurd same.symm (absent first (by simp))
      | gt =>
          obtain ⟨front, back, split, inserted⟩ := ih fun entry member =>
            absent entry (by simp [member])
          refine ⟨first :: front, back, by simp [split], ?_⟩
          intro value
          simp [insertEntry, order, inserted value]

theorem entries_of_get?_eq_some (found : map.get? key = some old) :
    ∃ front back, map.entries = front ++ (key, old) :: back ∧
      (∀ value, (map.insert key value).entries = front ++ (key, value) :: back) ∧
      (map.erase key).entries = front ++ back :=
  insertEntry_of_mem map.ascending (get?_eq_some_iff.mp found)

theorem entries_of_get?_eq_none (absent : map.get? key = none) :
    ∃ front back, map.entries = front ++ back ∧
      ∀ value, (map.insert key value).entries = front ++ (key, value) :: back := by
  apply insertEntry_of_forall_ne
  intro entry member same
  have found : map.get? key = some entry.2 := by
    rw [get?_eq_some_iff, ← same]
    exact member
  rw [absent] at found
  cases found

theorem contains_iff_mem_keys : map.contains key = true ↔ key ∈ map.keys := by
  rw [contains, Option.isSome_iff_exists, mem_keys_iff]

theorem keys_insert_of_none (absent : map.get? key = none) (value : α) :
    (map.insert key value).keys.Perm (key :: map.keys) := by
  obtain ⟨front, back, split, inserted⟩ := entries_of_get?_eq_none absent
  simp [keys, split, inserted]

theorem keys_insert_of_some (found : map.get? key = some old) (value : α) :
    (map.insert key value).keys = map.keys := by
  obtain ⟨front, back, split, inserted, _⟩ := entries_of_get?_eq_some found
  simp [keys, split, inserted]

theorem keys_erase_of_some (found : map.get? key = some old) :
    map.keys.Perm (key :: (map.erase key).keys) := by
  obtain ⟨front, back, split, _, erased⟩ := entries_of_get?_eq_some found
  simp [keys, split, erased]

omit [Std.TransOrd κ] in
theorem keys_nodup (map : SortedMap κ α) : map.keys.Nodup := by
  refine map.keys_ascending.imp ?_
  rintro left right less rfl
  rw [Std.LawfulEqOrd.compare_eq_iff_eq.mpr rfl] at less
  cases less

omit [Std.TransOrd κ] in
theorem filter_keys [DecidableEq κ] (known : key ∈ map.keys) :
    map.keys.filter (· == key) = [key] := by
  rw [List.filter_beq, List.count_eq_one_of_mem map.keys_nodup known]
  rfl

theorem entries_apart (found : map.get? key = some old) :
    ∃ front back, map.entries = front ++ (key, old) :: back ∧
      (∀ entry ∈ front, entry.1 ≠ key) ∧ ∀ entry ∈ back, entry.1 ≠ key := by
  obtain ⟨front, back, split, _⟩ := entries_of_get?_eq_some found
  have apart := map.keys_nodup
  rw [keys, split, List.map_append, List.map_cons, List.nodup_append, List.nodup_cons] at apart
  obtain ⟨_, ⟨absent, _⟩, before⟩ := apart
  refine ⟨front, back, split, ?_, ?_⟩
  · intro entry member
    exact before entry.1 (List.mem_map_of_mem member) key (by simp)
  · intro entry member same
    have listed := List.mem_map_of_mem (f := Prod.fst) member
    rw [same] at listed
    exact absent listed

theorem flatMap_entries {β : Type} {make : κ × α → List β}
    (others : ∀ entry ∈ map.entries, entry.1 ≠ key → make entry = []) :
    map.entries.flatMap make = (map.get? key).elim [] fun value => make (key, value) := by
  cases found : map.get? key with
  | none =>
      rw [Option.elim_none, List.flatMap_eq_nil_iff]
      intro entry member
      refine others entry member fun same => ?_
      have known := get?_eq_some_iff.mpr member
      rw [same, found] at known
      cases known
  | some value =>
      obtain ⟨front, back, split, before, behind⟩ := entries_apart found
      have early : front.flatMap make = [] := by
        rw [List.flatMap_eq_nil_iff]
        exact fun entry member => others entry (by simp [split, member]) (before entry member)
      have late : back.flatMap make = [] := by
        rw [List.flatMap_eq_nil_iff]
        exact fun entry member => others entry (by simp [split, member]) (behind entry member)
      rw [split, List.flatMap_append, List.flatMap_cons, early, late, List.nil_append,
        List.append_nil]
      rfl

theorem total_eq_keys (map : SortedMap κ α) (measure : α → M) :
    map.total measure = (map.keys.map fun key => ((map.get? key).map measure).getD 0).sum := by
  rw [total, values, keys, List.map_map, List.map_map]
  congr 1
  apply List.map_congr_left
  intro entry member
  have found : map.get? entry.1 = some entry.2 := get?_eq_some_iff.mpr member
  simp [found]

theorem total_of_get?_eq_some (found : map.get? key = some old) (measure : α → M) :
    ∃ others, map.total measure = measure old + others ∧
      ∀ value, (map.insert key value).total measure = measure value + others := by
  obtain ⟨front, back, split, inserted, _⟩ := entries_of_get?_eq_some found
  refine ⟨((front ++ back).map fun entry => measure entry.2).sum, ?_, ?_⟩
  · simp only [total, values, split, List.map_append, List.map_cons, List.map_map,
      List.sum_append, List.sum_cons]
    exact add_left_comm _ _ _
  · intro value
    simp only [total, values, inserted, List.map_append, List.map_cons, List.map_map,
      List.sum_append, List.sum_cons]
    exact add_left_comm _ _ _

theorem total_insert_of_none (absent : map.get? key = none) (value : α) (measure : α → M) :
    (map.insert key value).total measure = measure value + map.total measure := by
  obtain ⟨front, back, split, inserted⟩ := entries_of_get?_eq_none absent
  simp only [total, values, split, inserted, List.map_append, List.map_cons, List.map_map,
    List.sum_append, List.sum_cons]
  exact add_left_comm _ _ _

theorem total_update (map : SortedMap κ α) (key : κ) (initial : α) (change : α → α)
    (measure : α → M) (free : measure initial = 0) :
    ∃ others, map.total measure = measure (map.getD key initial) + others ∧
      (map.update key initial change).total measure =
        measure (change (map.getD key initial)) + others := by
  cases found : map.get? key with
  | none =>
      have missing : map.getD key initial = initial := by simp [getD, found]
      refine ⟨map.total measure, by simp [missing, free], ?_⟩
      exact total_insert_of_none found _ measure
  | some old =>
      obtain ⟨others, split, inserted⟩ := total_of_get?_eq_some found measure
      have present : map.getD key initial = old := by simp [getD, found]
      exact ⟨others, by rw [present, split], inserted _⟩

theorem getD_update [DecidableEq κ] (map : SortedMap κ α) (key wanted : κ) (initial : α)
    (change : α → α) :
    (map.update key initial change).getD wanted initial =
      if wanted = key then change (map.getD key initial) else map.getD wanted initial := by
  rw [getD, get?_update]
  split
  · rfl
  · rfl

omit [Std.TransOrd κ] [Std.LawfulEqOrd κ] in
theorem mem_getD_nil_iff {β : Type} {map : SortedMap κ (List β)} {item : β} :
    item ∈ map.getD key [] ↔ ∃ items, map.get? key = some items ∧ item ∈ items := by
  rw [getD]
  cases map.get? key with
  | none => simp
  | some items => simp

theorem mem_keys_update [DecidableEq κ] {key wanted : κ} {initial : α} {change : α → α} :
    wanted ∈ (map.update key initial change).keys ↔ wanted = key ∨ wanted ∈ map.keys := by
  simp only [mem_keys_iff, get?_update]
  by_cases here : wanted = key
  · simp [here]
  · simp [here]

theorem mem_keys_foldl_update [DecidableEq κ] {ι : Type} {initial : α} {key : ι → κ}
    {change : ι → α → α} {items : List ι} {wanted : κ} :
    wanted ∈ (items.foldl (fun map item => map.update (key item) initial (change item)) map).keys ↔
      wanted ∈ items.map key ∨ wanted ∈ map.keys := by
  induction items generalizing map with
  | nil => simp
  | cons first rest ih =>
      rw [List.foldl_cons, ih, mem_keys_update, List.map_cons, List.mem_cons]
      exact or_left_comm.trans or_assoc.symm

theorem getD_foldl_update [DecidableEq κ] {ι : Type} {initial : α} {key : ι → κ} {change : ι → α → α}
    {items : List ι} {wanted : κ} :
    (items.foldl (fun map item => map.update (key item) initial (change item)) map).getD wanted
        initial =
      (items.filter (key · = wanted)).foldl (fun value item => change item value)
        (map.getD wanted initial) := by
  induction items generalizing map with
  | nil => rfl
  | cons first rest ih =>
      rw [List.foldl_cons, ih, getD_update]
      by_cases here : key first = wanted
      · simp [here]
      · simp [here, Ne.symm here]

theorem getLast?_filter_eq_some_iff (map : SortedMap κ α) (keep : α → Bool) {entry : κ × α} :
    (map.entries.filter (keep ·.2)).getLast? = some entry ↔
      map.get? entry.1 = some entry.2 ∧ keep entry.2 = true ∧
        ∀ key value, map.get? key = some value → keep value = true →
          (compare key entry.1).isLE = true := by
  have ascending : (map.entries.filter (keep ·.2)).Pairwise
      (fun earlier later => compare earlier.1 later.1 = .lt) :=
    map.ascending.sublist List.filter_sublist
  constructor
  · intro last
    obtain ⟨front, split⟩ := List.getLast?_eq_some_iff.mp last
    obtain ⟨listed, kept⟩ := List.mem_filter.mp (List.mem_of_getLast? last)
    refine ⟨get?_eq_some_iff.mpr listed, kept, fun key value found chosen => ?_⟩
    have member : (key, value) ∈ map.entries.filter (keep ·.2) :=
      List.mem_filter.mpr ⟨get?_eq_some_iff.mp found, chosen⟩
    rw [split] at ascending member
    rcases List.mem_append.mp member with earlier | own
    · have before := (List.pairwise_append.mp ascending).2.2 _ earlier entry (by simp)
      simp [before]
    · obtain rfl := List.mem_singleton.mp own
      simp
  · rintro ⟨found, kept, greatest⟩
    have member : entry ∈ map.entries.filter (keep ·.2) :=
      List.mem_filter.mpr ⟨get?_eq_some_iff.mp found, kept⟩
    cases last : (map.entries.filter (keep ·.2)).getLast? with
    | none =>
        rw [List.getLast?_eq_none_iff.mp last] at member
        cases member
    | some other =>
        obtain ⟨front, split⟩ := List.getLast?_eq_some_iff.mp last
        obtain ⟨listed, chosen⟩ := List.mem_filter.mp (List.mem_of_getLast? last)
        have least := greatest other.1 other.2 (get?_eq_some_iff.mpr listed) chosen
        rw [split] at ascending member
        rcases List.mem_append.mp member with earlier | own
        · have before := (List.pairwise_append.mp ascending).2.2 entry earlier other (by simp)
          simp [Std.OrientedCmp.gt_iff_lt.mpr before] at least
        · rw [List.mem_singleton.mp own]

theorem get?_ofList_map [DecidableEq κ] (names : List κ) (figure : κ → α) (wanted : κ) :
    (ofList (names.map fun name => (name, figure name))).get? wanted =
      if wanted ∈ names then some (figure wanted) else none := by
  have entered (names : List κ) (map : SortedMap κ α) :
      ((names.map fun name => (name, figure name)).foldl
          (fun map entry => map.insert entry.1 entry.2) map).get? wanted =
        if wanted ∈ names then some (figure wanted) else map.get? wanted := by
    induction names generalizing map with
    | nil => simp
    | cons first rest ih =>
        rw [List.map_cons, List.foldl_cons, ih, get?_insert]
        by_cases later : wanted ∈ rest
        · simp [later]
        · by_cases here : wanted = first
          · simp [here]
          · simp [later, here]
  exact (entered names empty).trans (by simp)

theorem ofList_append_singleton (entries : List (κ × α)) (entry : κ × α) :
    ofList (entries ++ [entry]) = (ofList entries).insert entry.1 entry.2 := by
  simp [ofList]

theorem get?_ofList [DecidableEq κ] (entries : List (κ × α)) (wanted : κ) :
    (ofList entries).get? wanted =
      ((entries.filter (·.1 = wanted)).getLast?).map Prod.snd := by
  induction entries using List.reverseRecOn with
  | nil => rfl
  | append_singleton entries last ih =>
      rw [ofList_append_singleton, get?_insert, ih]
      by_cases here : last.1 = wanted
      · simp [here]
      · simp [here, Ne.symm here]

theorem get?_ofList_split [DecidableEq κ] {front back : List (κ × α)} {value : α}
    (last : ∀ entry ∈ back, entry.1 ≠ key) :
    (ofList (front ++ (key, value) :: back)).get? key = some value := by
  have none : back.filter (·.1 = key) = [] := List.filter_eq_nil_iff.mpr (by simpa using last)
  rw [get?_ofList, List.filter_append, List.filter_cons_of_pos (by simp), none,
    List.getLast?_concat, Option.map_some]

theorem get?_ofList_eq_none_iff [DecidableEq κ] {entries : List (κ × α)} :
    (ofList entries).get? key = none ↔ ∀ entry ∈ entries, entry.1 ≠ key := by
  rw [get?_ofList, Option.map_eq_none_iff, List.getLast?_eq_none_iff, List.filter_eq_nil_iff]
  simp

theorem get?_ofList_values {β ι : Type} [Ord ι] [Std.TransOrd ι] [Std.LawfulEqOrd ι] [DecidableEq ι]
    {value : α} (name : α → ι) (figure : α → β)
    (found : map.get? key = some value)
    (greatest : ∀ other later, map.get? other = some later → name later = name value →
      (compare other key).isLE = true) :
    (ofList (map.values.map fun value => (name value, figure value))).get? (name value) =
      some (figure value) := by
  have last : (map.entries.filter fun entry => decide (name entry.2 = name value)).getLast? =
      some (key, value) :=
    (map.getLast?_filter_eq_some_iff fun other => decide (name other = name value)).mpr
      ⟨found, by simp, by simpa using greatest⟩
  rw [get?_ofList, values, List.map_map, List.filter_map, List.getLast?_map]
  exact congrArg (fun entry => Option.map _ (Option.map _ entry)) last

theorem mem_of_get?_ofList [DecidableEq κ] {entries : List (κ × α)} {key : κ} {value : α}
    (found : (ofList entries).get? key = some value) : (key, value) ∈ entries := by
  induction entries using List.reverseRecOn with
  | nil => cases found
  | append_singleton entries last ih =>
      rw [ofList_append_singleton, get?_insert] at found
      split at found
      next here =>
        cases found
        simp [here]
      next _ => simp [ih found]

theorem get?_ofList_eq_some_iff [DecidableEq κ] {entries : List (κ × α)}
    (distinct : (entries.map Prod.fst).Nodup) {key : κ} {value : α} :
    (ofList entries).get? key = some value ↔ (key, value) ∈ entries := by
  refine ⟨mem_of_get?_ofList, ?_⟩
  induction entries using List.reverseRecOn with
  | nil => simp
  | append_singleton entries last ih =>
      intro member
      simp only [List.map_append, List.map_cons, List.map_nil, List.nodup_append,
        List.mem_singleton] at distinct
      obtain ⟨earlier, -, apart⟩ := distinct
      rw [ofList_append_singleton, get?_insert]
      rcases List.mem_append.mp member with before | here
      · have other : key ≠ last.1 := apart key (List.mem_map_of_mem before) last.1 rfl
        rw [if_neg other, ih earlier before]
      · cases List.mem_singleton.mp here
        exact if_pos rfl

theorem ofList_entries [DecidableEq κ] (map : SortedMap κ α) : ofList map.entries = map := by
  ext key value
  rw [get?_ofList_eq_some_iff map.keys_nodup, get?_eq_some_iff]

theorem ofList_perm [DecidableEq κ] {entries others : List (κ × α)} (perm : entries.Perm others)
    (distinct : (entries.map Prod.fst).Nodup) : ofList entries = ofList others := by
  ext key value
  rw [get?_ofList_eq_some_iff distinct,
    get?_ofList_eq_some_iff ((perm.map Prod.fst).nodup_iff.mp distinct), perm.mem_iff]

def All (map : SortedMap κ α) (holds : α → Prop) : Prop :=
  ∀ key value, map.get? key = some value → holds value

omit [Std.TransOrd κ] [Std.LawfulEqOrd κ] in
theorem all_empty (holds : α → Prop) : (empty : SortedMap κ α).All holds := nofun

theorem mem_values_of_get? {value : α} (found : map.get? key = some value) : value ∈ map.values :=
  List.mem_map.mpr ⟨(key, value), get?_eq_some_iff.mp found, rfl⟩

theorem All.mem_values {holds : α → Prop} (all : map.All holds) {value : α}
    (member : value ∈ map.values) : holds value := by
  obtain ⟨entry, found, rfl⟩ := List.mem_map.mp member
  exact all entry.1 entry.2 (get?_eq_some_iff.mpr found)

theorem All.insert [DecidableEq κ] {holds : α → Prop} (all : map.All holds) {value : α}
    (own : holds value) : (map.insert key value).All holds := by
  intro wanted other found
  rw [get?_insert] at found
  split at found
  · cases found
    exact own
  · exact all wanted other found

omit [Std.TransOrd κ] in
theorem All.mapValues {β : Type} {holds : α → Prop} {becomes : β → Prop} {change : κ → α → β}
    (all : map.All holds) (changed : ∀ key value, holds value → becomes (change key value)) :
    (map.mapValues change).All becomes := by
  intro wanted other found
  rw [get?_mapValues, Option.map_eq_some_iff] at found
  obtain ⟨value, found, rfl⟩ := found
  exact changed wanted value (all wanted value found)

omit [Std.TransOrd κ] in
theorem All.modify {holds : α → Prop} {change : α → α} (all : map.All holds)
    (changed : ∀ value, holds value → holds (change value)) :
    (map.modify key change).All holds := by
  refine all.mapValues ?_
  intro other value own
  split
  · exact changed value own
  · exact own

def Keyed (map : SortedMap κ α) (name : α → κ) : Prop :=
  ∀ key value, map.get? key = some value → name value = key

omit [Std.TransOrd κ] [Std.LawfulEqOrd κ] in
theorem keyed_empty (name : α → κ) : (empty : SortedMap κ α).Keyed name := nofun

theorem Keyed.insert [DecidableEq κ] {name : α → κ} (keyed : map.Keyed name) {value : α}
    (own : name value = key) : (map.insert key value).Keyed name := by
  intro wanted other found
  rw [get?_insert] at found
  split at found
  next same =>
    cases found
    exact own.trans same.symm
  · exact keyed wanted other found

omit [Std.TransOrd κ] in
theorem Keyed.mapValues {name : α → κ} (keyed : map.Keyed name) {change : κ → α → α}
    (same : ∀ key value, name (change key value) = name value) :
    (map.mapValues change).Keyed name := by
  intro wanted other found
  rw [get?_mapValues, Option.map_eq_some_iff] at found
  obtain ⟨value, found, rfl⟩ := found
  exact (same wanted value).trans (keyed wanted value found)

omit [Std.TransOrd κ] in
theorem Keyed.modify {name : α → κ} (keyed : map.Keyed name) {change : α → α}
    (same : ∀ value, name (change value) = name value) : (map.modify key change).Keyed name := by
  refine keyed.mapValues ?_
  intro other value
  split
  · exact same value
  · rfl

theorem Keyed.enter [DecidableEq κ] {name : α → κ} (keyed : map.Keyed name) (items : List α) :
    (items.foldl (fun map item => map.insert (name item) item) map).Keyed name := by
  induction items generalizing map with
  | nil => exact keyed
  | cons first rest ih => exact ih (keyed.insert rfl)

theorem Keyed.filter_values [DecidableEq κ] {name : α → κ} (keyed : map.Keyed name) {value : α}
    (found : map.get? key = some value) : map.values.filter (name · == key) = [value] := by
  have same : map.values.filter (name · == key) =
      map.entries.flatMap fun entry => [entry.2].filter (name · == key) := by
    rw [values, List.filter_map, ← List.flatMap_singleton' map.entries, List.filter_flatMap,
      List.map_flatMap]
    simp only [List.flatMap_singleton', ← List.filter_map]
    rfl
  rw [same, flatMap_entries, found]
  · simp [keyed key value found]
  · intro entry member differs
    have own := keyed entry.1 entry.2 (get?_eq_some_iff.mpr member)
    simp [own, differs]

theorem All.enter [DecidableEq κ] {holds : α → Prop} {name : α → κ} (all : map.All holds)
    {items : List α} (own : ∀ item ∈ items, holds item) :
    (items.foldl (fun map item => map.insert (name item) item) map).All holds := by
  induction items generalizing map with
  | nil => exact all
  | cons first rest ih =>
      exact ih (all.insert (own first (by simp))) fun other member => own other (by simp [member])

theorem total_eq_zero {measure : α → M} (none : map.All fun value => measure value = 0) :
    map.total measure = 0 := by
  apply List.sum_eq_zero
  intro count member
  obtain ⟨value, found, rfl⟩ := List.mem_map.mp member
  exact none.mem_values found

end SortedMap
end FogNetwork

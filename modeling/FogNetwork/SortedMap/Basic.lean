/-! Finite maps kept in ascending order of their keys, so that equal contents are equal maps and
every report that walks a map walks it in the same order. -/

namespace FogNetwork

structure SortedMap (κ α : Type) [Ord κ] where
  entries : List (κ × α)
  ascending : entries.Pairwise (fun earlier later => compare earlier.1 later.1 = .lt)

namespace SortedMap

variable {κ α β : Type} [Ord κ]

def insertEntry (key : κ) (value : α) : List (κ × α) → List (κ × α)
  | [] => [(key, value)]
  | entry :: rest =>
      match compare key entry.1 with
      | .lt => (key, value) :: entry :: rest
      | .eq => (key, value) :: rest
      | .gt => entry :: insertEntry key value rest

def lookup (key : κ) : List (κ × α) → Option α
  | [] => none
  | entry :: rest => if compare key entry.1 = .eq then some entry.2 else lookup key rest

theorem mem_insertEntry {key : κ} {value : α} {entry : κ × α} {entries : List (κ × α)}
    (member : entry ∈ insertEntry key value entries) : entry = (key, value) ∨ entry ∈ entries := by
  induction entries with
  | nil => simpa [insertEntry] using member
  | cons first rest ih =>
      simp only [insertEntry] at member
      split at member
      · simpa using member
      · simp only [List.mem_cons] at member ⊢
        exact member.imp_right .inr
      · simp only [List.mem_cons] at member ⊢
        rcases member with same | later
        · exact .inr (.inl same)
        · exact (ih later).imp_right .inr

theorem insertEntry_ascending [Std.TransOrd κ] [Std.LawfulEqOrd κ] (key : κ) (value : α)
    {entries : List (κ × α)}
    (ascending : entries.Pairwise (fun earlier later => compare earlier.1 later.1 = .lt)) :
    (insertEntry key value entries).Pairwise
      (fun earlier later => compare earlier.1 later.1 = .lt) := by
  induction ascending with
  | nil => simp [insertEntry]
  | @cons first rest below tail ih =>
      simp only [insertEntry]
      split
      next less =>
        refine .cons ?_ (.cons below tail)
        intro entry member
        rcases List.mem_cons.mp member with same | later
        · exact same ▸ less
        · exact Std.TransCmp.lt_trans less (below entry later)
      next same =>
        have equal := Std.LawfulEqOrd.eq_of_compare same
        exact .cons (fun entry member => equal ▸ below entry member) tail
      next greater =>
        refine .cons ?_ ih
        intro entry member
        rcases mem_insertEntry member with same | later
        · exact same ▸ Std.OrientedCmp.lt_of_gt greater
        · exact below entry later

def empty : SortedMap κ α := ⟨[], .nil⟩

instance : Inhabited (SortedMap κ α) := ⟨empty⟩

def get? (map : SortedMap κ α) (key : κ) : Option α := lookup key map.entries

def contains (map : SortedMap κ α) (key : κ) : Bool := (map.get? key).isSome

def getD (map : SortedMap κ α) (key : κ) (default : α) : α := (map.get? key).getD default

def size (map : SortedMap κ α) : Nat := map.entries.length

def keys (map : SortedMap κ α) : List κ := map.entries.map Prod.fst

def values (map : SortedMap κ α) : List α := map.entries.map Prod.snd

def insert [Std.TransOrd κ] [Std.LawfulEqOrd κ] (map : SortedMap κ α) (key : κ) (value : α) :
    SortedMap κ α :=
  ⟨insertEntry key value map.entries, insertEntry_ascending key value map.ascending⟩

def erase (map : SortedMap κ α) (key : κ) : SortedMap κ α :=
  ⟨map.entries.filter fun entry => compare key entry.1 ≠ .eq, map.ascending.filter _⟩

def mapValues (map : SortedMap κ α) (change : κ → α → β) : SortedMap κ β :=
  ⟨map.entries.map fun entry => (entry.1, change entry.1 entry.2),
    List.pairwise_map.mpr map.ascending⟩

def modify (map : SortedMap κ α) (key : κ) (change : α → α) : SortedMap κ α :=
  map.mapValues fun other value => if compare key other = .eq then change value else value

def update [Std.TransOrd κ] [Std.LawfulEqOrd κ] (map : SortedMap κ α) (key : κ) (initial : α)
    (change : α → α) : SortedMap κ α :=
  map.insert key (change (map.getD key initial))

/-- Inserts the entries in order, so the last one under a key stays. -/
def ofList [Std.TransOrd κ] [Std.LawfulEqOrd κ] (entries : List (κ × α)) : SortedMap κ α :=
  entries.foldl (fun map entry => map.insert entry.1 entry.2) empty

end SortedMap
end FogNetwork

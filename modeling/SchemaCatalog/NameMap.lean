/-!
Finite maps from names to values. The entries stand in the code-point order of their names,
so two maps with the same look-ups are the same list. A list of pairs in which a name may
repeat is read as a map by `ofList`: the last pair with a name wins.
-/
namespace SchemaCatalog

structure NameMap (α : Type) where
  entries : List (String × α)
  ascending : entries.Pairwise fun a b => a.1 < b.1
deriving DecidableEq

namespace NameMap

variable {α β : Type}

/-- The entries of a map after `name` has been given `value`. -/
def insertEntry (name : String) (value : α) : List (String × α) → List (String × α)
  | [] => [(name, value)]
  | (other, old) :: rest =>
      if name < other then (name, value) :: (other, old) :: rest
      else if name = other then (name, value) :: rest
      else (other, old) :: insertEntry name value rest

theorem fst_mem_insertEntry {name : String} {value : α} {entries : List (String × α)}
    {p : String × α} (h : p ∈ insertEntry name value entries) :
    p = (name, value) ∨ p ∈ entries := by
  induction entries with
  | nil => simpa [insertEntry] using h
  | cons q rest ih =>
    simp only [insertEntry] at h
    split at h
    · simpa using h
    · split at h
      · rcases List.mem_cons.mp h with h | h
        · exact .inl h
        · exact .inr (List.mem_cons_of_mem _ h)
      · rcases List.mem_cons.mp h with h | h
        · exact .inr (h ▸ List.mem_cons_self)
        · exact (ih h).imp_right (List.mem_cons_of_mem _)

theorem insertEntry_ascending (name : String) (value : α) {entries : List (String × α)}
    (h : entries.Pairwise fun a b => a.1 < b.1) :
    (insertEntry name value entries).Pairwise fun a b => a.1 < b.1 := by
  induction entries with
  | nil => simp [insertEntry]
  | cons q rest ih =>
    obtain ⟨hq, hrest⟩ := List.pairwise_cons.mp h
    simp only [insertEntry]
    split
    · rename_i hlt
      refine List.pairwise_cons.mpr ⟨fun p hp => ?_, h⟩
      rcases List.mem_cons.mp hp with rfl | hp
      · exact hlt
      · exact String.lt_trans hlt (hq p hp)
    · split
      · rename_i heq
        exact List.pairwise_cons.mpr ⟨fun p hp => heq ▸ hq p hp, hrest⟩
      · rename_i hlt hne
        refine List.pairwise_cons.mpr ⟨fun p hp => ?_, ih hrest⟩
        rcases fst_mem_insertEntry hp with rfl | hp
        · rcases String.le_total q.1 name with hle | hle
          · exact Decidable.byContradiction fun hge =>
              hne (String.le_antisymm (String.not_lt.mp hge) hle)
          · exact absurd (String.le_antisymm hle (String.not_lt.mp hlt)) hne
        · exact hq p hp

def empty : NameMap α := ⟨[], .nil⟩

instance : Inhabited (NameMap α) := ⟨empty⟩

def insert (m : NameMap α) (name : String) (value : α) : NameMap α :=
  ⟨insertEntry name value m.entries, insertEntry_ascending name value m.ascending⟩

def find? (m : NameMap α) (name : String) : Option α := m.entries.lookup name

def contains (m : NameMap α) (name : String) : Bool := (m.find? name).isSome

def names (m : NameMap α) : List String := m.entries.map (·.1)

def size (m : NameMap α) : Nat := m.entries.length

def isEmpty (m : NameMap α) : Bool := m.entries.isEmpty

def map (f : α → β) (m : NameMap α) : NameMap β :=
  ⟨m.entries.map fun p => (p.1, f p.2), m.ascending.map _ fun _ _ h => h⟩

/-- The value of the last pair with a name. -/
def findLast? (name : String) : List (String × α) → Option α
  | [] => none
  | (other, value) :: rest =>
      (findLast? name rest).or (if other = name then some value else none)

/-- A list of pairs read as a map: a later pair takes the place of an earlier one of its name. -/
def ofList (pairs : List (String × α)) : NameMap α :=
  pairs.foldl (fun m p => m.insert p.1 p.2) empty

/-- A partial function on every value, in the order of names; the first fault is the fault. -/
def traverse {ε : Type} (f : String → α → Except ε β) (m : NameMap α) : Except ε (NameMap β) := do
  let entries ← m.entries.mapM fun (name, value) => do return (name, ← f name value)
  return ofList entries

theorem insertEntry_map (f : α → β) (name : String) (value : α) (entries : List (String × α)) :
    insertEntry name (f value) (entries.map fun p => (p.1, f p.2)) =
      (insertEntry name value entries).map fun p => (p.1, f p.2) := by
  induction entries with
  | nil => rfl
  | cons q rest ih =>
    simp only [insertEntry, List.map_cons]
    split
    · rfl
    · split
      · rfl
      · simp [ih]

theorem map_insert (f : α → β) (m : NameMap α) (name : String) (value : α) :
    (m.insert name value).map f = (m.map f).insert name (f value) := by
  simp only [insert, map, insertEntry_map]

/-- Reading a list as a map commutes with a function on the values. -/
theorem ofList_map (f : α → β) (pairs : List (String × α)) :
    ofList (pairs.map fun p => (p.1, f p.2)) = (ofList pairs).map f := by
  have step : ∀ (ps : List (String × α)) (m : NameMap α),
      (ps.map fun p => (p.1, f p.2)).foldl (fun m p => m.insert p.1 p.2) (m.map f) =
        (ps.foldl (fun m p => m.insert p.1 p.2) m).map f := by
    intro ps
    induction ps with
    | nil => intro m; rfl
    | cons p rest ih => intro m; simp only [List.map_cons, List.foldl_cons, ← map_insert, ih]
  exact step pairs empty

end NameMap

end SchemaCatalog

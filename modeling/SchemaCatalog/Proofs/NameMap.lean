import SchemaCatalog.NameMap
import Mathlib.Data.List.Forall2

/-!
Look-ups in finite maps. A map is determined by its look-ups, an insertion changes one of them,
and a list of pairs read as a map finds the last pair of a name. Functions on the values may be
applied before or after that; one that can fail leaves under each name what it makes of the value
there.
-/
namespace SchemaCatalog

/-- What not all members of a list have is missed by one of them first. -/
theorem exists_first_of_not_forall {α : Type} {good : α → Prop} {xs : List α}
    (h : ¬ ∀ x ∈ xs, good x) :
    ∃ before x after, xs = before ++ x :: after ∧ (∀ y ∈ before, good y) ∧ ¬ good x := by
  induction xs with
  | nil => simp at h
  | cons x xs ih =>
    by_cases hx : good x
    · have hxs : ¬ ∀ y ∈ xs, good y := fun hxs => h (List.forall_mem_cons.mpr ⟨hx, hxs⟩)
      obtain ⟨before, y, after, rfl, hbefore, hy⟩ := ih hxs
      exact ⟨x :: before, y, after, rfl, List.forall_mem_cons.mpr ⟨hx, hbefore⟩, hy⟩
    · exact ⟨[], x, xs, rfl, by simp, hx⟩

theorem bind_eq_ok_iff {ε α β : Type} {first : Except ε α} {next : α → Except ε β} {value : β} :
    first >>= next = .ok value ↔ ∃ middle, first = .ok middle ∧ next middle = .ok value := by
  cases first <;> simp [bind, Except.bind]

theorem bind_eq_error_iff {ε α β : Type} {first : Except ε α} {next : α → Except ε β} {fault : ε} :
    first >>= next = .error fault ↔
      first = .error fault ∨ ∃ middle, first = .ok middle ∧ next middle = .error fault := by
  cases first <;> simp [bind, Except.bind]

theorem mapError_eq_ok_iff {ε δ α : Type} {f : ε → δ} {outcome : Except ε α} {value : α} :
    outcome.mapError f = .ok value ↔ outcome = .ok value := by
  cases outcome <;> simp [Except.mapError]

theorem mapError_eq_error_iff {ε δ α : Type} {f : ε → δ} {outcome : Except ε α} {fault : δ} :
    outcome.mapError f = .error fault ↔ ∃ inner, outcome = .error inner ∧ f inner = fault := by
  cases outcome <;> simp [Except.mapError]

theorem toOption_eq_some_iff {ε α : Type} {outcome : Except ε α} {value : α} :
    outcome.toOption = some value ↔ outcome = .ok value := by
  cases outcome <;> simp [Except.toOption]

theorem mapM_eq_ok_iff {ε α β : Type} {f : α → Except ε β} {xs : List α} {ys : List β} :
    xs.mapM f = .ok ys ↔ List.Forall₂ (fun x y => f x = .ok y) xs ys := by
  induction xs generalizing ys with
  | nil => simp [pure, Except.pure, eq_comm]
  | cons x xs ih =>
    simp only [List.mapM_cons, bind_eq_ok_iff, ih, List.forall₂_cons_left_iff, pure, Except.pure,
      Except.ok.injEq]
    constructor
    · rintro ⟨y, hy, zs, hzs, rfl⟩
      exact ⟨y, zs, hy, hzs, rfl⟩
    · rintro ⟨y, zs, hy, hzs, rfl⟩
      exact ⟨y, hy, zs, hzs, rfl⟩

/-- A computation over a list that fails does so at the first member for which it does. -/
theorem exists_of_mapM_eq_error {ε α β : Type} {f : α → Except ε β} {xs : List α} {fault : ε}
    (h : xs.mapM f = .error fault) :
    ∃ before x after, xs = before ++ x :: after ∧ (∀ y ∈ before, ∃ z, f y = .ok z) ∧
      f x = .error fault := by
  induction xs with
  | nil => cases h
  | cons x xs ih =>
    rw [List.mapM_cons] at h
    rcases bind_eq_error_iff.mp h with hx | ⟨y, hx, hrest⟩
    · exact ⟨[], x, xs, rfl, by simp, hx⟩
    · rcases bind_eq_error_iff.mp hrest with hxs | ⟨ys, -, hdone⟩
      · obtain ⟨before, z, after, rfl, hbefore, hz⟩ := ih hxs
        exact ⟨x :: before, z, after, rfl, List.forall_mem_cons.mpr ⟨⟨y, hx⟩, hbefore⟩, hz⟩
      · cases hdone

theorem exists_getElem?_of_forall₂ {α β : Type} {relation : α → β → Prop} {xs : List α}
    {ys : List β} (h : List.Forall₂ relation xs ys) {index : Nat} {y : β}
    (hy : ys[index]? = some y) : ∃ x, xs[index]? = some x ∧ relation x y := by
  induction h generalizing index with
  | nil => simp at hy
  | cons hhead _ ih =>
    cases index with
    | zero => exact ⟨_, rfl, Option.some.inj hy ▸ hhead⟩
    | succ index => exact ih hy

namespace NameMap

variable {α β : Type}

@[simp] theorem find?_empty (name : String) : (empty : NameMap α).find? name = none := rfl

private theorem lookup_cons_ite (name key : String) (value : α) (rest : List (String × α)) :
    ((key, value) :: rest).lookup name = if name = key then some value else rest.lookup name := by
  by_cases h : name = key
  · simp [h]
  · simp [List.lookup_cons, beq_eq_false_iff_ne.mpr h, h]

theorem lookup_insertEntry (name other : String) (value : α) (entries : List (String × α)) :
    (insertEntry name value entries).lookup other =
      if other = name then some value else entries.lookup other := by
  induction entries with
  | nil => simp only [insertEntry, lookup_cons_ite, List.lookup_nil]
  | cons entry rest ih =>
    obtain ⟨key, old⟩ := entry
    simp only [insertEntry]
    split
    · rw [lookup_cons_ite]
    · split
      · rename_i heq
        subst heq
        by_cases h : other = name <;> simp [lookup_cons_ite, h]
      · rename_i hne
        rw [lookup_cons_ite, lookup_cons_ite, ih]
        by_cases hkey : other = key
        · subst hkey
          simp [Ne.symm hne]
        · simp [hkey]

@[simp] theorem find?_insert (m : NameMap α) (name other : String) (value : α) :
    (m.insert name value).find? other = if other = name then some value else m.find? other :=
  lookup_insertEntry name other value m.entries

theorem contains_insert (m : NameMap α) (name other : String) (value : α) :
    (m.insert name value).contains other = (decide (other = name) || m.contains other) := by
  by_cases h : other = name <;> simp [contains, h]

private theorem lookup_eq_some_of_mem {entries : List (String × α)} {name : String} {value : α}
    (ascending : entries.Pairwise fun a b => a.1 < b.1) (h : (name, value) ∈ entries) :
    entries.lookup name = some value := by
  induction entries with
  | nil => simp at h
  | cons entry rest ih =>
    obtain ⟨hentry, hrest⟩ := List.pairwise_cons.mp ascending
    rcases List.mem_cons.mp h with rfl | hmem
    · simp
    · have hlt : entry.1 < name := hentry (name, value) hmem
      have hne : name ≠ entry.1 := by
        intro heq
        exact String.lt_irrefl _ (heq ▸ hlt)
      obtain ⟨key, old⟩ := entry
      rw [lookup_cons_ite, if_neg hne, ih hrest hmem]

private theorem mem_of_lookup_eq_some {entries : List (String × α)} {name : String} {value : α}
    (h : entries.lookup name = some value) : (name, value) ∈ entries := by
  induction entries with
  | nil => simp at h
  | cons entry rest ih =>
    obtain ⟨key, old⟩ := entry
    rw [lookup_cons_ite] at h
    by_cases heq : name = key
    · simp_all
    · rw [if_neg heq] at h
      exact List.mem_cons_of_mem _ (ih h)

theorem mem_entries_iff {m : NameMap α} {name : String} {value : α} :
    (name, value) ∈ m.entries ↔ m.find? name = some value :=
  ⟨lookup_eq_some_of_mem m.ascending, mem_of_lookup_eq_some⟩

theorem exists_entries_eq_append {m : NameMap α} {name : String} {value : α}
    (h : m.find? name = some value) :
    ∃ before after, m.entries = before ++ (name, value) :: after ∧
      ∀ p ∈ before, m.find? p.1 = some p.2 ∧ p.1 < name := by
  obtain ⟨before, after, heq⟩ := List.append_of_mem (mem_entries_iff.mpr h)
  refine ⟨before, after, heq, fun p hp => ⟨?_, ?_⟩⟩
  · exact mem_entries_iff.mp (heq ▸ List.mem_append_left _ hp)
  · have hascending := heq ▸ m.ascending
    exact (List.pairwise_append.mp hascending).2.2 p hp (name, value) List.mem_cons_self

theorem mem_before_of_lt {m : NameMap α} {before after : List (String × α)} {name other : String}
    {value earlier : α} (h : m.entries = before ++ (name, value) :: after)
    (hother : m.find? other = some earlier) (hlt : other < name) : (other, earlier) ∈ before := by
  have hascending := h ▸ m.ascending
  have hafter := (List.pairwise_cons.mp (List.pairwise_append.mp hascending).2.1).1
  have hmem : (other, earlier) ∈ before ++ (name, value) :: after :=
    h ▸ mem_entries_iff.mpr hother
  rcases List.mem_append.mp hmem with hin | hin
  · exact hin
  · rcases List.mem_cons.mp hin with hsame | hlater
    · obtain ⟨rfl, rfl⟩ := Prod.mk.inj hsame
      exact absurd hlt (String.lt_irrefl _)
    · exact absurd (String.lt_trans hlt (hafter _ hlater)) (String.lt_irrefl _)

/-- A property that not all values have is missed by one first of all. -/
theorem exists_first_not {m : NameMap α} {good : String → α → Prop}
    (h : ¬ ∀ name value, m.find? name = some value → good name value) :
    ∃ name value, m.find? name = some value ∧ ¬ good name value ∧
      ∀ other earlier, m.find? other = some earlier → other < name → good other earlier := by
  have hentries : ¬ ∀ p ∈ m.entries, good p.1 p.2 :=
    fun hall => h fun name value hfind => hall (name, value) (mem_entries_iff.mpr hfind)
  obtain ⟨before, ⟨name, value⟩, after, heq, hbefore, hbad⟩ := exists_first_of_not_forall hentries
  refine ⟨name, value, mem_entries_iff.mp (heq ▸ by simp), hbad, ?_⟩
  intro other earlier hother hlt
  exact hbefore _ (mem_before_of_lt heq hother hlt)

/-- Two ascending lists with the same members are the same list. -/
private theorem entries_eq_of_mem_iff {xs ys : List (String × α)}
    (hxs : xs.Pairwise fun a b => a.1 < b.1) (hys : ys.Pairwise fun a b => a.1 < b.1)
    (h : ∀ p, p ∈ xs ↔ p ∈ ys) : xs = ys := by
  have hirrefl : ∀ p : String × α, ¬ p.1 < p.1 := fun p => String.lt_irrefl p.1
  have hnodup : ∀ {zs : List (String × α)}, zs.Pairwise (fun a b => a.1 < b.1) → zs.Nodup := by
    intro zs hzs
    refine hzs.imp ?_
    intro a b hab heq
    exact hirrefl b (heq ▸ hab)
  have hperm : xs.Perm ys := (List.perm_ext_iff_of_nodup (hnodup hxs) (hnodup hys)).mpr h
  refine hperm.eq_of_pairwise ?_ hxs hys
  intro a b _ _ hab hba
  exact absurd (String.lt_trans hab hba) (String.lt_irrefl a.1)

theorem eq_of_find?_eq {m n : NameMap α} (h : ∀ name, m.find? name = n.find? name) : m = n := by
  have hmem : ∀ p, p ∈ m.entries ↔ p ∈ n.entries := by
    rintro ⟨name, value⟩
    rw [mem_entries_iff, mem_entries_iff, h name]
  cases m
  cases n
  simpa using entries_eq_of_mem_iff ‹_› ‹_› hmem

theorem length_insertEntry_of_lookup_eq_none {entries : List (String × α)} {name : String}
    (value : α) (h : entries.lookup name = none) :
    (insertEntry name value entries).length = entries.length + 1 := by
  induction entries with
  | nil => rfl
  | cons entry rest ih =>
    obtain ⟨key, old⟩ := entry
    rw [lookup_cons_ite] at h
    have hne : name ≠ key := by
      rintro rfl
      simp at h
    have hrest : rest.lookup name = none := by
      rwa [if_neg hne] at h
    simp only [insertEntry, hne, if_false]
    split
    · rfl
    · simp [ih hrest]

theorem size_insert_of_find?_eq_none {m : NameMap α} {name : String} (value : α)
    (h : m.find? name = none) : (m.insert name value).size = m.size + 1 :=
  length_insertEntry_of_lookup_eq_none value h

theorem find?_foldl_insert (pairs : List (String × α)) (m : NameMap α) (name : String) :
    (pairs.foldl (fun m p => m.insert p.1 p.2) m).find? name =
      (findLast? name pairs).or (m.find? name) := by
  induction pairs generalizing m with
  | nil => rfl
  | cons pair rest ih =>
    rw [List.foldl_cons, ih, find?_insert]
    by_cases h : name = pair.1
    · subst h
      simp [findLast?]
    · simp [findLast?, h, Ne.symm h]

/-- A list of pairs read as a map finds the last pair of a name. -/
theorem find?_ofList (pairs : List (String × α)) (name : String) :
    (ofList pairs).find? name = findLast? name pairs := by
  simp [ofList, find?_foldl_insert]

theorem findLast?_append (name : String) (xs ys : List (String × α)) :
    findLast? name (xs ++ ys) = (findLast? name ys).or (findLast? name xs) := by
  induction xs with
  | nil => simp [findLast?]
  | cons pair rest ih => simp only [List.cons_append, findLast?, ih, Option.or_assoc]

theorem findLast?_eq_none_iff {name : String} {pairs : List (String × α)} :
    findLast? name pairs = none ↔ ∀ p ∈ pairs, p.1 ≠ name := by
  induction pairs with
  | nil => simp [findLast?]
  | cons pair rest ih => simp [findLast?, Option.or_eq_none_iff, ih, and_comm]

theorem isSome_findLast?_iff {name : String} {pairs : List (String × α)} :
    (findLast? name pairs).isSome ↔ name ∈ pairs.map (·.1) := by
  rw [← not_iff_not, Bool.not_eq_true, Option.isSome_eq_false_iff, Option.isNone_iff_eq_none,
    findLast?_eq_none_iff]
  simp only [List.mem_map, not_exists, not_and, ne_eq]

theorem mem_of_findLast?_eq_some {pairs : List (String × α)} {name : String} {value : α}
    (h : findLast? name pairs = some value) : (name, value) ∈ pairs := by
  induction pairs with
  | nil => simp [findLast?] at h
  | cons pair rest ih =>
    simp only [findLast?, Option.or_eq_some_iff] at h
    rcases h with hlast | ⟨-, hhere⟩
    · exact List.mem_cons_of_mem _ (ih hlast)
    · obtain ⟨heq, hvalue⟩ := Option.ite_none_right_eq_some.mp hhere
      obtain rfl := Option.some.inj hvalue
      exact heq ▸ List.mem_cons_self

theorem mem_of_find?_ofList_eq_some {pairs : List (String × α)} {name : String} {value : α}
    (h : (ofList pairs).find? name = some value) : (name, value) ∈ pairs :=
  mem_of_findLast?_eq_some (find?_ofList pairs name ▸ h)

theorem findLast?_map (f : String → α → β) (name : String) (pairs : List (String × α)) :
    findLast? name (pairs.map fun p => (p.1, f p.1 p.2)) = (findLast? name pairs).map (f name) := by
  induction pairs with
  | nil => rfl
  | cons pair rest ih =>
    simp only [List.map_cons, findLast?, ih]
    by_cases h : pair.1 = name
    · subst h
      cases findLast? pair.1 rest <;> simp
    · cases findLast? name rest <;> simp [h]

theorem findLast?_entries (m : NameMap α) (name : String) :
    findLast? name m.entries = m.find? name := by
  cases h : findLast? name m.entries with
  | some value => exact (mem_entries_iff.mp (mem_of_findLast?_eq_some h)).symm
  | none =>
    cases hfind : m.find? name with
    | none => rfl
    | some value =>
      exact absurd rfl (findLast?_eq_none_iff.mp h (name, value) (mem_entries_iff.mpr hfind))

/-- The last pair of a name is in the last list that has one. -/
theorem findLast?_flatMap {γ : Type} (name : String) (items : List γ)
    (pairs : γ → List (String × α)) :
    findLast? name (items.flatMap pairs) =
      items.reverse.findSome? fun item => findLast? name (pairs item) := by
  induction items with
  | nil => rfl
  | cons item rest ih =>
    rw [List.flatMap_cons, findLast?_append, ih, List.reverse_cons, List.findSome?_append]
    cases h : findLast? name (pairs item) <;> simp [h]

/-- Neighbours of different names may change places. -/
theorem findLast?_swap {p q : String × α} (h : p.1 ≠ q.1) (before after : List (String × α))
    (name : String) :
    findLast? name (before ++ p :: q :: after) = findLast? name (before ++ q :: p :: after) := by
  have hone : p.1 ≠ name ∨ q.1 ≠ name := by
    by_cases hp : p.1 = name
    · exact .inr fun hq => h (hp.trans hq.symm)
    · exact .inl hp
  simp only [findLast?_append, findLast?]
  rcases hone with hp | hq
  · simp [hp]
  · simp [hq]

/-- A function that sees names and values may be applied before or after a list is read as a
map. -/
theorem entries_ofList_map (f : String → α → β) (pairs : List (String × α)) :
    (ofList (pairs.map fun p => (p.1, f p.1 p.2))).entries =
      (ofList pairs).entries.map fun p => (p.1, f p.1 p.2) := by
  refine entries_eq_of_mem_iff (ofList _).ascending
    ((ofList pairs).ascending.map _ fun _ _ h => h) ?_
  rintro ⟨name, value⟩
  rw [mem_entries_iff, find?_ofList, findLast?_map, Option.map_eq_some_iff, List.mem_map]
  constructor
  · rintro ⟨old, hold, rfl⟩
    exact ⟨(name, old), mem_entries_iff.mpr (find?_ofList pairs name ▸ hold), rfl⟩
  · rintro ⟨⟨key, old⟩, hmem, heq⟩
    obtain ⟨rfl, rfl⟩ := Prod.mk.inj heq
    exact ⟨old, find?_ofList pairs key ▸ mem_entries_iff.mp hmem, rfl⟩

theorem find?_map (f : α → β) (m : NameMap α) (name : String) :
    (m.map f).find? name = (m.find? name).map f := by
  rw [← findLast?_entries, ← findLast?_entries]
  exact findLast?_map (fun _ => f) name m.entries

theorem ofList_entries (m : NameMap α) : ofList m.entries = m :=
  eq_of_find?_eq fun name => by rw [find?_ofList, findLast?_entries]

/-- What a partial function leaves under a name comes from what was there. -/
theorem exists_of_traverse {ε : Type} {f : String → α → Except ε β} {m : NameMap α} {n : NameMap β}
    (h : m.traverse f = .ok n) {name : String} {value : β} (hfind : n.find? name = some value) :
    ∃ old, m.find? name = some old ∧ f name old = .ok value := by
  obtain ⟨entries, hentries, hofList⟩ := bind_eq_ok_iff.mp h
  obtain rfl : ofList entries = n := Except.ok.inj hofList
  obtain ⟨index, hindex⟩ := List.mem_iff_getElem?.mp (mem_of_find?_ofList_eq_some hfind)
  obtain ⟨⟨key, old⟩, hold, hvalue⟩ :=
    exists_getElem?_of_forall₂ (mapM_eq_ok_iff.mp hentries) hindex
  obtain ⟨other, hother, hpair⟩ := bind_eq_ok_iff.mp hvalue
  cases hpair
  exact ⟨old, mem_entries_iff.mp (List.mem_of_getElem? hold), hother⟩

theorem map_map {γ : Type} (f : α → β) (g : β → γ) (m : NameMap α) :
    (m.map f).map g = m.map fun value => g (f value) :=
  eq_of_find?_eq fun name => by simp [find?_map, Function.comp_def]

theorem map_id (m : NameMap α) : m.map id = m := by
  simp [map]

@[simp] theorem names_map (f : α → β) (m : NameMap α) : (m.map f).names = m.names := by
  simp [names, map, Function.comp_def]

@[simp] theorem length_names (m : NameMap α) : m.names.length = m.size :=
  List.length_map _

theorem mem_names_iff {m : NameMap α} {name : String} :
    name ∈ m.names ↔ (m.find? name).isSome := by
  rw [← findLast?_entries, isSome_findLast?_iff, names]

/-- Maps that have values in the same places have the same names. -/
theorem names_eq_of_isSome_find? {m : NameMap α} {n : NameMap β}
    (h : ∀ name, (m.find? name).isSome = (n.find? name).isSome) : m.names = n.names := by
  have hunit : ∀ value : Option α, value.map (fun _ => ()) = if value.isSome then some () else none :=
    fun value => by cases value <;> rfl
  have hunits : ∀ value : Option β, value.map (fun _ => ()) = if value.isSome then some () else none :=
    fun value => by cases value <;> rfl
  have hmap : m.map (fun _ => ()) = n.map (fun _ => ()) := by
    refine eq_of_find?_eq fun name => ?_
    rw [find?_map, find?_map, hunit, hunits, h name]
  simpa using congrArg names hmap

theorem names_of_traverse {ε : Type} {f : String → α → Except ε β} {m : NameMap α}
    {n : NameMap β} (h : m.traverse f = .ok n) : n.names = m.names := by
  obtain ⟨entries, hentries, hofList⟩ := bind_eq_ok_iff.mp h
  obtain rfl : ofList entries = n := Except.ok.inj hofList
  have hnames : List.Forall₂ (fun p q => q.1 = p.1) m.entries entries := by
    refine (mapM_eq_ok_iff.mp hentries).imp ?_
    rintro ⟨name, value⟩ q hq
    obtain ⟨result, -, hpair⟩ := bind_eq_ok_iff.mp hq
    cases hpair
    rfl
  have hmap : entries.map (·.1) = m.entries.map (·.1) := by
    rw [← List.forall₂_eq_eq_eq, List.forall₂_map_left_iff, List.forall₂_map_right_iff]
    exact hnames.flip
  refine names_eq_of_isSome_find? fun name => ?_
  rw [find?_ofList, ← findLast?_entries, Bool.eq_iff_iff, isSome_findLast?_iff,
    isSome_findLast?_iff, hmap]

theorem find?_of_traverse {ε : Type} {f : String → α → Except ε β} {m : NameMap α} {n : NameMap β}
    (h : m.traverse f = .ok n) (name : String) :
    n.find? name = (m.find? name).bind fun value => (f name value).toOption := by
  cases hfind : n.find? name with
  | some value =>
    obtain ⟨old, hold, hvalue⟩ := exists_of_traverse h hfind
    rw [hold, Option.bind_some, hvalue]
    rfl
  | none =>
    have hnone : name ∉ m.names := by
      rw [← names_of_traverse h, mem_names_iff, hfind]
      exact Bool.false_ne_true
    rw [mem_names_iff, Option.not_isSome_iff_eq_none] at hnone
    rw [hnone]
    rfl

/-- A partial function that fails on a map does so at the first name for which it does. -/
theorem exists_of_traverse_eq_error {ε : Type} {f : String → α → Except ε β} {m : NameMap α}
    {fault : ε} (h : m.traverse f = .error fault) :
    ∃ name value, m.find? name = some value ∧ f name value = .error fault ∧
      ∀ other earlier, m.find? other = some earlier → other < name →
        ∃ result, f other earlier = .ok result := by
  rcases bind_eq_error_iff.mp h with hentries | ⟨entries, -, hdone⟩
  · obtain ⟨before, ⟨name, value⟩, after, heq, hbefore, hfails⟩ :=
      exists_of_mapM_eq_error hentries
    refine ⟨name, value, mem_entries_iff.mp (heq ▸ by simp), ?_, ?_⟩
    · rcases bind_eq_error_iff.mp hfails with hvalue | ⟨result, -, hdone⟩
      · exact hvalue
      · cases hdone
    · intro other earlier hother hlt
      obtain ⟨pair, hpair⟩ := hbefore _ (mem_before_of_lt heq hother hlt)
      obtain ⟨result, hresult, -⟩ := bind_eq_ok_iff.mp hpair
      exact ⟨result, hresult⟩
  · cases hdone

/-- A partial function that has a value wherever a map has one gives the map of its values. -/
theorem traverse_map_eq_ok {ε γ : Type} {f : String → α → Except ε β} {g : γ → α} {result : γ → β}
    {m : NameMap γ} (h : ∀ name value, m.find? name = some value →
      f name (g value) = .ok (result value)) : (m.map g).traverse f = .ok (m.map result) := by
  refine bind_eq_ok_iff.mpr ⟨(m.map result).entries, mapM_eq_ok_iff.mpr ?_,
    congrArg Except.ok (ofList_entries (m.map result))⟩
  refine List.forall₂_map_left_iff.mpr (List.forall₂_map_right_iff.mpr (List.forall₂_same.mpr ?_))
  rintro ⟨name, value⟩ hmem
  exact bind_eq_ok_iff.mpr ⟨result value, h name value (mem_entries_iff.mp hmem), rfl⟩

end NameMap

end SchemaCatalog

import Mathlib.Data.List.Perm.Subperm
import SchemaCatalog.Proofs.Plurals
import SchemaCatalog.Proofs.Registrations
import SchemaCatalog.Proofs.Structures

/-!
Lists of lists. Every list around a list takes one plural suffix off the name around it for the name
of its items. As long as there are suffixes the lists have names of their own, and their chain leads
to the innermost items. When none is left each list further inside takes the same name again: the
outermost of these is kept, and names itself as its items.
-/
namespace SchemaCatalog

namespace Naming

variable {naming : Naming} {stem : String}

/-- A name with a number of plural suffixes after it. -/
def plural (naming : Naming) (stem : String) : Nat → String
  | 0 => stem
  | count + 1 => plural naming stem count ++ naming.pluralSuffix

theorem length_plural (naming : Naming) (stem : String) (count : Nat) :
    (naming.plural stem count).length = stem.length + count * naming.pluralSuffix.length := by
  induction count with
  | zero => simp [plural]
  | succ count ih =>
    rw [plural, String.length_append, ih, Nat.succ_mul, Nat.add_assoc]

theorem plural_inj (hsuffix : naming.pluralSuffix ≠ "") {m n : Nat} :
    naming.plural stem m = naming.plural stem n ↔ m = n := by
  refine ⟨fun h => ?_, congrArg _⟩
  have hlength := congrArg String.length h
  rw [length_plural, length_plural] at hlength
  have hpos : naming.pluralSuffix.length ≠ 0 := by simpa using hsuffix
  exact Nat.eq_of_mul_eq_mul_right (Nat.pos_of_ne_zero hpos) (Nat.add_left_cancel hlength)

theorem plural_ne_empty (hstem : stem ≠ "") (count : Nat) : naming.plural stem count ≠ "" := by
  intro h
  have hlength := congrArg String.length h
  rw [length_plural, String.length_empty] at hlength
  have hpos : stem.length ≠ 0 := by simpa using hstem
  omega

/-- That a name is no plural, for a naming that has plurals. -/
structure Singular (naming : Naming) (stem : String) : Prop where
  suffix : naming.pluralSuffix ≠ ""
  nonempty : stem ≠ ""
  element : (naming.split stem).element = stem

/-- A list with a plural name leaves one suffix less to its items. -/
theorem Singular.split_plural_succ (h : naming.Singular stem) (count : Nat) :
    naming.split (naming.plural stem (count + 1)) =
      ⟨naming.plural stem (count + 1), naming.plural stem count⟩ :=
  split_append h.suffix (plural_ne_empty h.nonempty count)

theorem Singular.split_eq (h : naming.Singular stem) :
    naming.split stem = ⟨naming.plural stem 1, stem⟩ :=
  split_of_not_isPlural (mt element_ne_iff.mpr (not_not.mpr h.element))

theorem Singular.split_plural (h : naming.Singular stem) (count : Nat) :
    naming.split (naming.plural stem count) =
      ⟨naming.plural stem (max count 1), naming.plural stem (count - 1)⟩ := by
  cases count with
  | zero => exact h.split_eq
  | succ count =>
    have hmax : max (count + 1) 1 = count + 1 := by omega
    rw [h.split_plural_succ, hmax, Nat.add_sub_cancel]

theorem Singular.nodup_plural (h : naming.Singular stem) {number count : Nat}
    (hnumber : number ≤ count) :
    ((List.range number).map fun level => naming.plural stem (count - level)).Nodup := by
  refine List.Nodup.map_on ?_ List.nodup_range
  intro i hi j hj heq
  rw [plural_inj h.suffix] at heq
  rw [List.mem_range] at hi hj
  omega

end Naming

namespace Schema

/-- Arrays around a leaf, with the limits of their numbers of items, the outermost first. -/
inductive Nested (leaf : Schema) : List LengthRange → Schema → Prop
  | leaf : Nested leaf [] leaf
  | array {items minItems maxItems description lengths} (hitems : Nested leaf lengths items) :
      Nested leaf (.ofLimits minItems maxItems :: lengths)
        ⟨.array (some items) minItems maxItems, description⟩

/-- The suffixes of the name by which a schema with `depth` lists around its leaf is known. -/
def pluralCount (count depth : Nat) : Nat := if depth = 0 then count else max count 1

section Nested

variable {settings : Settings} {stem : String} {leaf schema : Schema} {lengths : List LengthRange}
  {field : Field} {count : Nat}

theorem scalarField?_ne_list {kind : Kind} {name element : String} {length : LengthRange} :
    kind.scalarField? settings name ≠ some (.list element length) := by
  intro h
  cases kind with
  | integer shape =>
    obtain ⟨format, minimum, maximum⟩ := shape
    cases format <;> cases h
  | _ => cases h

theorem isReference_of_scalar {name : String}
    (h : leaf.kind.scalarField? settings name = some field) : leaf.isReference = false := by
  obtain ⟨kind, description⟩ := leaf
  cases kind with
  | reference path target => cases h
  | _ => rfl

theorem Nested.supported (h : Nested leaf lengths schema) (hleaf : leaf.Supported) :
    schema.Supported := by
  induction h with
  | leaf => exact hleaf
  | array _ ih => exact .array ih

theorem Nested.isReference (h : Nested leaf lengths schema) (hleaf : leaf.isReference = false) :
    schema.isReference = false := by
  cases h with
  | leaf => exact hleaf
  | array _ => rfl

variable (hstem : settings.naming.Singular stem)

include hstem

theorem Nested.typeName_plural (h : Nested leaf lengths schema) {name : String}
    (hleaf : leaf.kind.scalarField? settings name = some field) (count : Nat) :
    schema.typeName settings.naming (settings.naming.plural stem count) =
      settings.naming.plural stem (pluralCount count lengths.length) := by
  cases h with
  | leaf =>
    obtain ⟨kind, description⟩ := leaf
    cases kind with
    | reference path target => cases hleaf
    | array items minItems maxItems => cases hleaf
    | _ => rfl
  | array hitems =>
    have hreference := hitems.isReference (isReference_of_scalar hleaf)
    simp only [typeName, hreference, Bool.false_eq_true, if_false,
      hstem.split_plural]
    rfl

/-- A list of lists registers what its items register with one suffix less, and then itself. -/
theorem Nested.registrations_array {items : Schema} {minItems : Nat} {maxItems : Option Nat}
    {description : Option String} (h : Nested leaf lengths items) {name : String}
    (hleaf : leaf.kind.scalarField? settings name = some field) (count : Nat) :
    registrations settings ⟨.array (some items) minItems maxItems, description⟩
        (settings.naming.plural stem count) =
      items.registrations settings (settings.naming.plural stem (count - 1)) ++
        [.field (settings.naming.plural stem (max count 1))
          (.list (settings.naming.plural stem (pluralCount (count - 1) lengths.length))
            (.ofLimits minItems maxItems))] := by
  have hsupported : Supported ⟨.array (some items) minItems maxItems, description⟩ :=
    .array (h.supported (registrations_scalar hleaf).1)
  have hself : Nested leaf (.ofLimits minItems maxItems :: lengths)
      ⟨.array (some items) minItems maxItems, description⟩ := .array h
  have htype := hself.typeName_plural hstem hleaf count
  rw [Schema.registrations_array hsupported, htype,
    hstem.split_plural,
    h.typeName_plural hstem hleaf]
  rfl

/-- The innermost items keep their field: all lists have longer names. -/
theorem Nested.findLast?_leaf (h : Nested leaf lengths schema)
    (hleaf : leaf.kind.scalarField? settings
      (settings.naming.plural stem (count - lengths.length)) = some field) :
    NameMap.findLast? (settings.naming.plural stem (count - lengths.length))
      ((schema.registrations settings (settings.naming.plural stem count)).filterMap
        Step.field?) = some field := by
  induction h generalizing count with
  | leaf =>
    rw [List.length_nil, Nat.sub_zero] at hleaf ⊢
    rw [(registrations_scalar hleaf).2.2]
    simp [Step.field?, NameMap.findLast?]
  | @array items minItems maxItems description lengths hitems ih =>
    have hcount : count - (lengths.length + 1) = count - 1 - lengths.length := by omega
    rw [List.length_cons, hcount] at hleaf ⊢
    have hne : settings.naming.plural stem (max count 1) ≠
        settings.naming.plural stem (count - 1 - lengths.length) := by
      rw [ne_eq, Naming.plural_inj hstem.suffix]
      omega
    rw [hitems.registrations_array hstem hleaf, List.filterMap_append,
      NameMap.findLast?_append, ih hleaf]
    simp [Step.field?, NameMap.findLast?, hne]

/-- As long as there are suffixes, each list keeps its own field: a list further inside has a
shorter name, or the same name and is registered before. -/
theorem Nested.findLast?_list (h : Nested leaf lengths schema)
    (hleaf : leaf.kind.scalarField? settings
      (settings.naming.plural stem (count - lengths.length)) = some field) {level : Nat}
    {length : LengthRange} (hlength : lengths[level]? = some length)
    (hlevel : level < max count 1) :
    NameMap.findLast? (settings.naming.plural stem (max count 1 - level))
      ((schema.registrations settings (settings.naming.plural stem count)).filterMap
        Step.field?) =
      some (.list (settings.naming.plural stem
        (pluralCount (count - (level + 1)) (lengths.length - (level + 1)))) length) := by
  induction h generalizing count level with
  | leaf => cases hlength
  | @array items minItems maxItems description lengths hitems ih =>
    have hcount : count - (lengths.length + 1) = count - 1 - lengths.length := by omega
    rw [List.length_cons, hcount] at hleaf
    rw [hitems.registrations_array hstem hleaf, List.filterMap_append,
      NameMap.findLast?_append]
    cases level with
    | zero =>
      obtain rfl : .ofLimits minItems maxItems = length := Option.some.inj hlength
      simp [Step.field?, NameMap.findLast?]
    | succ level =>
      have hne : settings.naming.plural stem (max count 1) ≠
          settings.naming.plural stem (max count 1 - (level + 1)) := by
        rw [ne_eq, Naming.plural_inj hstem.suffix]
        omega
      have hname : max count 1 - (level + 1) = max (count - 1) 1 - level := by omega
      have helements : count - 1 - (level + 1) = count - (level + 1 + 1) := by omega
      have hinner := ih hleaf hlength (by omega)
      rw [helements, ← hname] at hinner
      rw [hinner, List.length_cons, Nat.add_sub_add_right]
      simp [Step.field?, NameMap.findLast?, hne]

theorem Nested.mem_registrations (h : Nested leaf lengths schema)
    (hleaf : leaf.kind.scalarField? settings
      (settings.naming.plural stem (count - lengths.length)) = some field) {step : Step}
    (hstep : step ∈ schema.registrations settings (settings.naming.plural stem count)) :
    step = .field (settings.naming.plural stem (count - lengths.length)) field ∨
      ∃ level element length, level < min lengths.length (max count 1) ∧
        step = .field (settings.naming.plural stem (max count 1 - level))
          (.list element length) := by
  induction h generalizing count with
  | leaf =>
    rw [List.length_nil, Nat.sub_zero] at hleaf ⊢
    rw [(registrations_scalar hleaf).2.2] at hstep
    exact .inl (List.mem_singleton.mp hstep)
  | @array items minItems maxItems description lengths hitems ih =>
    have hcount : count - (lengths.length + 1) = count - 1 - lengths.length := by omega
    rw [List.length_cons, hcount] at hleaf ⊢
    rw [hitems.registrations_array hstem hleaf, List.mem_append] at hstep
    rcases hstep with hinner | hself
    · rcases ih hleaf hinner with rfl | ⟨level, element, length, hlevel, rfl⟩
      · exact .inl rfl
      · -- With one suffix or none the list and the one inside it have the same name.
        by_cases hmore : 2 ≤ count
        · have hname : max (count - 1) 1 - level = max count 1 - (level + 1) := by omega
          exact .inr ⟨level + 1, element, length, by omega, by rw [hname]⟩
        · have hname : max (count - 1) 1 - level = max count 1 - level := by omega
          exact .inr ⟨level, element, length, by omega, by rw [hname]⟩
    · obtain rfl := List.mem_singleton.mp hself
      exact .inr ⟨0, _, _, by omega, rfl⟩

end Nested

end Schema

theorem Field.kind_eq_list_iff {field : Field} :
    field.kind = "list" ↔ ∃ element length, field = .list element length := by
  cases field <;> simp [kind]

namespace Catalog

variable {catalog : Catalog} {target : String}

def listNames (catalog : Catalog) : List String :=
  (catalog.fields.entries.filter fun p => p.2.kind == "list").map (·.1)

theorem mem_listNames_iff {name : String} :
    name ∈ catalog.listNames ↔
      ∃ element length, catalog.field? name = some (.list element length) := by
  rw [listNames, List.mem_map]
  constructor
  · rintro ⟨⟨name, field⟩, hmem, rfl⟩
    obtain ⟨hentry, hkind⟩ := List.mem_filter.mp hmem
    obtain ⟨element, length, rfl⟩ := Field.kind_eq_list_iff.mp (eq_of_beq hkind)
    exact ⟨element, length, NameMap.mem_entries_iff.mp hentry⟩
  · rintro ⟨element, length, hfield⟩
    exact ⟨(name, .list element length),
      List.mem_filter.mpr ⟨NameMap.mem_entries_iff.mpr hfield, rfl⟩, rfl⟩

theorem nodup_listNames (catalog : Catalog) : catalog.listNames.Nodup := by
  have hascending : (catalog.fields.entries.filter fun p => p.2.kind == "list").Pairwise
      fun a b => a.1 < b.1 := catalog.fields.ascending.filter _
  exact List.pairwise_map.mpr (hascending.imp String.ne_of_lt)

/-- That lists lead from a name to a target: the name is that of the first list, and each list names
the next as its items. -/
def Leads (catalog : Catalog) (target : String) : List String → String → Prop
  | [], name => name = target
  | list :: rest, name => name = list ∧ ∃ element length,
      catalog.field? name = some (.list element length) ∧ catalog.Leads target rest element

theorem Leads.subset {names : List String} {name : String} (h : catalog.Leads target names name) :
    names ⊆ catalog.listNames := by
  induction names generalizing name with
  | nil => exact List.nil_subset _
  | cons list rest ih =>
    obtain ⟨rfl, element, length, hfield, hrest⟩ := h
    exact List.cons_subset.mpr ⟨mem_listNames_iff.mpr ⟨element, length, hfield⟩, ih hrest⟩

end Catalog

namespace Schema

section Kept

variable {settings : Settings} {stem : String} {leaf schema : Schema} {lengths : List LengthRange}
  {field : Field} {count : Nat} (hstem : settings.naming.Singular stem)
  (hnested : Nested leaf lengths schema)
  (hleaf : leaf.kind.scalarField? settings
    (settings.naming.plural stem (count - lengths.length)) = some field)

/-- What is kept of a list of lists in a catalog of its own. -/
def nestedCatalog (settings : Settings) (schema : Schema) (name : String) : Catalog :=
  Catalog.empty.applyAll (schema.registrations settings name)

include hstem hnested hleaf

theorem field?_leaf :
    (nestedCatalog settings schema (settings.naming.plural stem count)).field?
      (settings.naming.plural stem (count - lengths.length)) = some field := by
  rw [nestedCatalog, Catalog.field?_applyAll, hnested.findLast?_leaf hstem hleaf]
  rfl

theorem field?_list {level : Nat} {length : LengthRange} (hlength : lengths[level]? = some length)
    (hlevel : level < max count 1) :
    (nestedCatalog settings schema (settings.naming.plural stem count)).field?
        (settings.naming.plural stem (max count 1 - level)) =
      some (.list (settings.naming.plural stem
        (pluralCount (count - (level + 1)) (lengths.length - (level + 1)))) length) := by
  rw [nestedCatalog, Catalog.field?_applyAll, hnested.findLast?_list hstem hleaf hlength hlevel]
  rfl

/-- The lists that are kept have as many names as there are suffixes, or lists. -/
theorem listNames_perm :
    (nestedCatalog settings schema (settings.naming.plural stem count)).listNames.Perm
      ((List.range (min lengths.length (max count 1))).map fun level =>
        settings.naming.plural stem (max count 1 - level)) := by
  have hnodup := hstem.nodup_plural
    (Nat.min_le_right lengths.length (max count 1))
  refine (List.perm_ext_iff_of_nodup (Catalog.nodup_listNames _) hnodup).mpr fun name => ?_
  rw [Catalog.mem_listNames_iff, List.mem_map]
  constructor
  · rintro ⟨element, length, hfield⟩
    rcases hnested.mem_registrations hstem hleaf (Catalog.mem_of_field?_eq_some hfield) with
      hself | ⟨level, inner, limits, hlevel, hstep⟩
    · cases hself
      exact absurd hleaf scalarField?_ne_list
    · cases hstep
      exact ⟨level, List.mem_range.mpr hlevel, rfl⟩
  · rintro ⟨level, hlevel, rfl⟩
    have hbounds := List.mem_range.mp hlevel
    have hlength : lengths[level]? = some lengths[level] := List.getElem?_eq_getElem (by omega)
    exact ⟨_, _, field?_list hstem hnested hleaf hlength (by omega)⟩

/-- If there are suffixes enough the lists lead to the leaf, from any of them on. -/
theorem leads_of_le (hle : lengths.length ≤ max count 1) {depth : Nat}
    (hdepth : depth ≤ lengths.length) :
    (nestedCatalog settings schema (settings.naming.plural stem count)).Leads
      (settings.naming.plural stem (count - lengths.length))
      ((List.range' (lengths.length - depth) depth).map fun level =>
        settings.naming.plural stem (max count 1 - level))
      (settings.naming.plural stem (pluralCount (count - (lengths.length - depth)) depth)) := by
  induction depth with
  | zero => rfl
  | succ depth ih =>
    let level := lengths.length - (depth + 1)
    have hnext : lengths.length - depth = level + 1 := by omega
    have hlength : lengths[level]? = some lengths[level] := List.getElem?_eq_getElem (by omega)
    have hname : pluralCount (count - level) (depth + 1) = max count 1 - level := by
      rw [pluralCount, if_neg (Nat.succ_ne_zero depth)]
      omega
    have hrest : lengths.length - (level + 1) = depth := by omega
    have hfield := field?_list hstem hnested hleaf hlength (by omega)
    have hinner := ih (by omega)
    rw [hrest] at hfield
    rw [hnext] at hinner
    rw [List.range'_succ, List.map_cons, hname]
    exact ⟨rfl, _, _, hfield, hinner⟩

end Kept

end Schema

namespace Builder

open Schema

/-- What lists of lists around a scalar come to in a new catalog, under a singular name with any
number of plural suffixes after it. They form a chain as long as there are suffixes for all of them,
or only one list; if not, the last list that is kept has itself for its items. -/
theorem lists_of_lists {leaf schema : Schema} {lengths : List LengthRange} {stem : String}
    {field : Field} {builder : Builder} (count : Nat)
    (hstem : builder.settings.naming.Singular stem) (hnested : Nested leaf lengths schema)
    (hlists : lengths ≠ [])
    (hleaf : leaf.kind.scalarField? builder.settings
      (builder.settings.naming.plural stem (count - lengths.length)) = some field)
    (hempty : builder.catalog = .empty) :
    let plural := builder.settings.naming.plural stem
    let depth := lengths.length
    let most := max count 1
    ∃ after, (dispatch schema (plural count)).run builder =
        (.ok ⟨some (plural most), plural most⟩, after) ∧
      after.catalog.field? (plural (count - depth)) = some field ∧
      after.catalog.listNames.length = min depth most ∧
      ((∃ names, names.length = depth ∧ names.Nodup ∧
        after.catalog.Leads (plural (count - depth)) names (plural most)) ↔ depth ≤ most) ∧
      (most < depth → ∃ length, lengths[most - 1]? = some length ∧
        after.catalog.field? (plural 1) = some (.list (plural 1) length)) := by
  intro plural depth most
  have hpositive : 0 < depth := List.length_pos_iff.mpr hlists
  have hsupported := hnested.supported (registrations_scalar hleaf).1
  have htype : schema.typeName builder.settings.naming (plural count) = plural most := by
    rw [hnested.typeName_plural hstem hleaf, pluralCount, if_neg (by omega)]
  have hregistration : schema.registration builder.settings.naming (plural count) =
      ⟨some (plural most), plural most⟩ := by
    rw [registration, htype, hnested.isReference (isReference_of_scalar hleaf)]
    rfl
  let after := builder.after (schema.registrations builder.settings (plural count))
  have hafter : after.catalog = nestedCatalog builder.settings schema (plural count) := by
    change builder.catalog.applyAll _ = _
    rw [hempty]
    rfl
  have hnames := listNames_perm hstem hnested hleaf
  have hlength : after.catalog.listNames.length = min depth most := by
    rw [hafter, hnames.length_eq, List.length_map, List.length_range]
  refine ⟨after, ?_, ?_, hlength, ⟨?_, ?_⟩, ?_⟩
  · rw [run_dispatch_eq_after hsupported, hregistration]
  · rw [hafter]
    exact field?_leaf hstem hnested hleaf
  · rintro ⟨names, hcount, hnodup, hleads⟩
    have hle := (List.subperm_of_subset hnodup hleads.subset).length_le
    omega
  · intro hle
    have hleads := leads_of_le hstem hnested hleaf hle (Nat.le_refl depth)
    rw [Nat.sub_self, Nat.sub_zero, pluralCount, if_neg (by omega),
      ← List.range_eq_range'] at hleads
    rw [hafter]
    exact ⟨_, by rw [List.length_map, List.length_range], hstem.nodup_plural hle, hleads⟩
  · intro hlt
    have hbound : most - 1 < lengths.length := by omega
    have hkept := field?_list hstem hnested hleaf (List.getElem?_eq_getElem hbound) (by omega)
    have hname : max count 1 - (most - 1) = 1 := by omega
    have helement : pluralCount (count - (most - 1 + 1)) (lengths.length - (most - 1 + 1)) = 1 := by
      rw [pluralCount, if_neg (by omega)]
      omega
    rw [hname, helement] at hkept
    rw [hafter]
    exact ⟨_, List.getElem?_eq_getElem hbound, hkept⟩

/-- Two lists, but no suffix in the name around them: the inner list is lost. -/
theorem lists_of_lists_lost :
    let inner : Schema := ⟨.array (some ⟨.boolean, none⟩) 0 (some 3), none⟩
    let outer : Schema := ⟨.array (some inner) 1 none, none⟩
    ∃ after, (dispatch outer "Tag").run (start ⟨.default, none⟩ none .empty) =
        (.ok ⟨some "Tags", "Tags"⟩, after) ∧
      after.catalog.field? "Tag" = some .boolean ∧ after.catalog.listNames.length = 1 ∧
      (¬ ∃ names, names.length = 2 ∧ names.Nodup ∧ after.catalog.Leads "Tag" names "Tags") ∧
      after.catalog.field? "Tags" = some (.list "Tags" ⟨some 1, none⟩) := by
  intro inner outer
  let builder := start ⟨.default, none⟩ none .empty
  have hstem : builder.settings.naming.Singular "Tag" :=
    ⟨by decide, by decide, by decide +kernel⟩
  have hnested : Nested ⟨.boolean, none⟩ [.ofLimits 1 none, .ofLimits 0 (some 3)] outer :=
    .array (.array .leaf)
  obtain ⟨after, hrun, hleaf, hlists, hchain, hlast⟩ :=
    lists_of_lists 0 hstem hnested (by simp) rfl rfl
  have hplural : builder.settings.naming.plural "Tag" 1 = "Tags" := by decide +kernel
  obtain ⟨length, hlength, hkept⟩ := hlast (by decide)
  obtain rfl : (⟨some 1, none⟩ : LengthRange) = length := Option.some.inj hlength
  rw [hplural] at hkept
  have hmost : builder.settings.naming.plural "Tag" (max 0 1) = "Tags" := hplural
  rw [hmost] at hrun hchain
  exact ⟨after, hrun, hleaf, hlists, fun hleads => absurd (hchain.mp hleads) (by decide), hkept⟩

end Builder

end SchemaCatalog

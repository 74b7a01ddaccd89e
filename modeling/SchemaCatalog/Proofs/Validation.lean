import SchemaCatalog.Proofs.KnownNames

/-!
What the check of a catalog tells. A name that is not known is reported wherever a type refers to
it, so after a build of all components a check that reports no dangling name leaves only one kind
of name without a type: that of a component which is itself a reference and so registers nothing.
-/
namespace SchemaCatalog

namespace Catalog

variable {catalog : Catalog} {document : Document} {owner name : String}

theorem danglingName_mem_danglingNames {names : List String} (hmem : name ∈ names)
    (hknows : catalog.knows document name = false) :
    .danglingName owner name ∈ catalog.danglingNames document owner names :=
  List.mem_map.mpr ⟨name, List.mem_filter.mpr ⟨hmem, by simp [hknows]⟩, rfl⟩

theorem danglingName_of_field? {field : Field} (hfield : catalog.field? owner = some field)
    (hmem : name ∈ field.references) (hknows : catalog.knows document name = false) :
    .danglingName owner name ∈ catalog.problems document :=
  List.mem_append_left _ <| List.mem_flatMap.mpr ⟨_, NameMap.mem_entries_iff.mpr hfield,
    List.mem_append_left _ (danglingName_mem_danglingNames hmem hknows)⟩

theorem exists_danglingName (hknows : catalog.knows document name = false)
    (hrefers : catalog.Refers owner name ∨ catalog.RefersForValues owner name) :
    ∃ place, .danglingName place name ∈ catalog.problems document := by
  rcases hrefers with hrefers | hrefers
  · cases hrefers with
    | @member record label member hrecord hmember =>
      refine ⟨owner ++ "." ++ label, List.mem_append_right _ ?_⟩
      refine List.mem_flatMap.mpr ⟨_, NameMap.mem_entries_iff.mpr hrecord, ?_⟩
      refine List.mem_flatMap.mpr ⟨_, NameMap.mem_entries_iff.mpr hmember, ?_⟩
      exact danglingName_mem_danglingNames (List.mem_singleton_self _) hknows
    | element hfield =>
      exact ⟨owner, danglingName_of_field? hfield (List.mem_singleton_self _) hknows⟩
  · cases hrefers with
    | values hfield =>
      exact ⟨owner, danglingName_of_field? hfield (List.mem_singleton_self _) hknows⟩

theorem no_danglingName_iff :
    (∀ place name, .danglingName place name ∉ catalog.problems document) ↔
      ∀ owner name, catalog.Refers owner name ∨ catalog.RefersForValues owner name →
        catalog.knows document name := by
  constructor
  · intro hnone owner name hrefers
    by_contra hknows
    obtain ⟨place, hproblem⟩ := exists_danglingName (Bool.eq_false_iff.mpr hknows) hrefers
    exact hnone place name hproblem
  · intro hknown place name hproblem
    obtain ⟨⟨owner, hrefers⟩, hknows⟩ := refers_of_danglingName hproblem
    rw [hknown owner name hrefers] at hknows
    cases hknows

end Catalog

namespace Document

variable {document : Document} {options : Options} {catalog : Catalog}

theorem selects_of_unlimited (hincluded : options.included = []) (hexcluded : options.excluded = [])
    (name : String) : options.selects name := by
  simp [Options.selects, hincluded, hexcluded]

/-- After a build of all components a name is known if it is built in, registered, or that of a
component that is a reference. -/
theorem knows_iff (hbuild : document.build options = .ok catalog)
    (hincluded : options.included = []) (hexcluded : options.excluded = []) {name : String} :
    catalog.knows document name ↔ name = stringType ∨ catalog.contains name ∨
      ∃ schema, document.components.find? name = some schema ∧ schema.isReference := by
  have hcomponent : document.components.contains name ↔
      ∃ schema, document.components.find? name = some schema := Option.isSome_iff_exists
  rw [Catalog.knows, Bool.or_eq_true, Bool.or_eq_true, beq_iff_eq, or_assoc, hcomponent]
  refine or_congr_right ⟨?_, ?_⟩
  · rintro (hcontains | ⟨schema, hfind⟩)
    · exact .inl hcontains
    · cases hreference : schema.isReference with
      | true => exact .inr ⟨schema, hfind, hreference⟩
      | false =>
        have hselects := selects_of_unlimited hincluded hexcluded name
        exact .inl (contains_name hbuild (component_mem_nodes hfind hselects) hreference)
  · rintro (hcontains | ⟨schema, hfind, -⟩)
    · exact .inl hcontains
    · exact .inr ⟨schema, hfind⟩

/-- After a build of all components no dangling name is reported if and only if every member type,
list element and map value is the built-in string type, or is registered, or is the name of a
component that is itself a reference. -/
theorem no_danglingName_iff_registered (hbuild : document.build options = .ok catalog)
    (hincluded : options.included = []) (hexcluded : options.excluded = []) :
    (∀ place name, .danglingName place name ∉ catalog.problems document) ↔
      ∀ owner name, catalog.Refers owner name ∨ catalog.RefersForValues owner name →
        name = stringType ∨ catalog.contains name ∨
          ∃ schema, document.components.find? name = some schema ∧ schema.isReference := by
  rw [Catalog.no_danglingName_iff]
  refine forall₂_congr fun owner name => ?_
  rw [knows_iff hbuild hincluded hexcluded]

/-- A list and a map of a component that is registered, and no alias. -/
theorem no_danglingName_iff_registered_flags :
    let flag : Schema := ⟨Schema.reference "Flag", none⟩
    let flags : Schema := ⟨.array (some flag) 0 none, none⟩
    let byName : Schema := ⟨.object [] [] (.values flag), none⟩
    let document := ((empty.withComponent "Flag" ⟨.boolean, none⟩).withComponent "Flags"
      flags).withComponent "ByName" byName
    ∃ catalog, document.build .default = .ok catalog ∧
      ∀ owner name, catalog.Refers owner name ∨ catalog.RefersForValues owner name →
        name = stringType ∨ catalog.contains name ∨
          ∃ schema, document.components.find? name = some schema ∧ schema.isReference := by
  intro flag flags byName document
  have hproblems : (document.build .default).toOption.map (·.problems document) = some [] := by
    decide +kernel
  cases hbuild : document.build .default with
  | error fault => simp [hbuild, Except.toOption] at hproblems
  | ok catalog =>
    have hnone : catalog.problems document = [] := by
      simpa [hbuild, Except.toOption] using hproblems
    have hiff := no_danglingName_iff_registered hbuild rfl rfl
    exact ⟨catalog, rfl, hiff.mp fun place name => by simp [hnone]⟩

/-- The check reports nothing, but no type has the name by which the pet refers to its owner. -/
theorem alias_without_type :
    let pet : Schema := ⟨.object [("owner", ⟨Schema.reference "Alias", none⟩)] [] .undeclared, none⟩
    let document := ((empty.withComponent "Alias" ⟨Schema.reference "Target", none⟩).withComponent
      "Target" ⟨.boolean, none⟩).withComponent "Pet" pet
    ∃ catalog, document.build .default = .ok catalog ∧ catalog.problems document = [] ∧
      catalog.Refers "Pet" "Alias" ∧ "Alias" ≠ stringType ∧ catalog.contains "Alias" = false := by
  intro pet document
  let record : Structure := ⟨NameMap.empty.insert "owner" ⟨"Alias", 0, false, none⟩⟩
  let expected := (Catalog.empty.addStructure "Pet" record).addField "Target" .boolean
  have hcatalog : (document.build .default).toOption = some expected := by decide +kernel
  have hproblems : expected.problems document = [] := by decide +kernel
  cases hbuild : document.build .default with
  | error fault => simp [hbuild, Except.toOption] at hcatalog
  | ok catalog =>
    obtain rfl : catalog = expected := by simpa [hbuild, Except.toOption] using hcatalog
    have hrecord : expected.structure? "Pet" = some record := rfl
    have hmember : record.members.find? "owner" = some ⟨"Alias", 0, false, none⟩ := rfl
    exact ⟨expected, rfl, hproblems, .member hrecord hmember, by decide, rfl⟩

end Document

end SchemaCatalog

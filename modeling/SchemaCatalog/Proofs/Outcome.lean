import SchemaCatalog.Proofs.FirstFault

/-!
How builds end. Whether a schema can be built depends on its shape alone, and so does the fault
if it cannot: it is that of the first offending node, where the properties of an object stand in
the order of their names and the members of a combinator in the order of their positions.
-/
namespace SchemaCatalog

/-- The schema that the values of an object have, if it is a map. -/
def Additional.values? {σ : Type} : Additional σ → Option σ
  | .values schema => some schema
  | _ => none

namespace Schema

/-- The schemas that a catalog can express. -/
inductive Supported : Schema → Prop
  | boolean {description} : Supported ⟨.boolean, description⟩
  | integer {shape description} : Supported ⟨.integer shape, description⟩
  | number {shape description} : Supported ⟨.number shape, description⟩
  | string {shape description} : Supported ⟨.string shape, description⟩
  | reference {path target description} : Supported ⟨.reference path (some target), description⟩
  | mapOfStrings {properties required shape inner description} :
      Supported ⟨.object properties required (.values ⟨.string shape, inner⟩), description⟩
  | mapOfReferences {properties required path target inner description} :
      Supported ⟨.object properties required (.values ⟨.reference path (some target), inner⟩),
        description⟩
  | object {properties required additional description}
      (hadditional : additional.values? = none)
      (hproperties : ∀ name schema, (NameMap.ofList properties).find? name = some schema →
        Supported schema) :
      Supported ⟨.object properties required additional, description⟩
  | array {items minItems maxItems description} (hitems : Supported items) :
      Supported ⟨.array (some items) minItems maxItems, description⟩
  | combinator {keyword members description} (hobjects : ∀ member ∈ members, member.isObject)
      (hproperties : ∀ member ∈ members, ∀ name schema, member.property? name = some schema →
        Supported schema) :
      Supported ⟨.combinator keyword members, description⟩

def SupportedMember (member : Schema) : Prop :=
  member.isObject ∧ ∀ name schema, member.property? name = some schema → schema.Supported

/-- The fault of the first offending node, seen from the schema. -/
inductive FirstFault : Schema → WalkFault → Prop
  | fragment {description} : FirstFault ⟨.fragment, description⟩ (.unsupported [] .fragment)
  | negation {schema description} :
      FirstFault ⟨.not schema, description⟩ (.unsupported [] .negation)
  | reference {path description} :
      FirstFault ⟨.reference path none, description⟩ (.missingTarget [] path)
  | missingItems {minItems maxItems description} :
      FirstFault ⟨.array none minItems maxItems, description⟩ (.unsupported [] .missingItems)
  | items {items minItems maxItems description fault} (hitems : FirstFault items fault) :
      FirstFault ⟨.array (some items) minItems maxItems, description⟩ (fault.within ["items"])
  | mapReference {properties required path inner description} :
      FirstFault ⟨.object properties required (.values ⟨.reference path none, inner⟩), description⟩
        (.missingTarget ["additionalProperties"] path)
  | mapValue {properties required kind inner description} (hstring : ∀ shape, kind ≠ .string shape)
      (hreference : ∀ path target, kind ≠ .reference path target) :
      FirstFault ⟨.object properties required (.values ⟨kind, inner⟩), description⟩
        (.unsupported ["additionalProperties"] (.mapValue kind.name))
  | property {properties required additional description name schema fault}
      (hadditional : additional.values? = none)
      (hfind : (NameMap.ofList properties).find? name = some schema)
      (hearlier : ∀ other earlier, (NameMap.ofList properties).find? other = some earlier →
        other < name → earlier.Supported)
      (hfault : FirstFault schema fault) :
      FirstFault ⟨.object properties required additional, description⟩
        (fault.within ["properties", name])
  | member {keyword before member after description} (hbefore : ∀ m ∈ before, m.SupportedMember)
      (hmember : member.isObject = false) :
      FirstFault ⟨.combinator keyword (before ++ member :: after), description⟩
        (.unsupported [keyword.keyword, toString before.length]
          (.nonObjectMember keyword member.kind.name))
  | memberProperty {keyword before member after description name schema fault}
      (hbefore : ∀ m ∈ before, m.SupportedMember) (hfind : member.property? name = some schema)
      (hearlier : ∀ other earlier, member.property? other = some earlier → other < name →
        earlier.Supported)
      (hfault : FirstFault schema fault) :
      FirstFault ⟨.combinator keyword (before ++ member :: after), description⟩
        (fault.within [keyword.keyword, toString before.length, "properties", name])

open Finding

variable {naming : Naming}

theorem Supported.ends {schema : Schema} (h : schema.Supported) : schema.Ends naming none := by
  induction h with
  | object hadditional _ ih =>
    intro name
    rw [firstFault?_findings]
    rename_i properties required additional description _
    cases additional with
    | values schema => cases hadditional
    | _ => exact firstFault?_propertyParts_eq_none name ih
  | array _ ih =>
    intro name
    rw [firstFault?_findings]
    simp only [parts, List.flatMap_singleton, firstFault?_expand, ih _, Option.map_none]
  | combinator hobjects _ ih =>
    intro name
    rw [firstFault?_findings]
    refine firstFault?_combinedParts_eq_none name _ fun member hmember index => ?_
    exact firstFault?_memberParts_eq_none name _ index (hobjects member hmember)
      (ih member hmember)
  | _ =>
    intro name
    rw [firstFault?_findings]
    rfl

theorem SupportedMember.ends {member : Schema} (h : member.SupportedMember) (name : String)
    (keyword : Combinator) (index : Nat) :
    firstFault? ((memberParts name keyword index member).flatMap (·.expand naming)) = none :=
  firstFault?_memberParts_eq_none name keyword index h.1 fun property schema hfind =>
    (h.2 property schema hfind).ends

/-- The findings of a schema that is not supported have the fault that offends first. -/
theorem FirstFault.ends {schema : Schema} {fault : WalkFault} (h : schema.FirstFault fault) :
    schema.Ends naming (some fault) := by
  induction h with
  | items _ ih =>
    intro name
    rw [firstFault?_findings]
    simp only [parts, List.flatMap_singleton, firstFault?_expand, ih _, Option.map_some]
  | @mapValue properties required kind inner description hstring hreference =>
    intro name
    rw [firstFault?_findings]
    cases kind with
    | string shape => exact absurd rfl (hstring shape)
    | reference path target => exact absurd rfl (hreference path target)
    | _ => rfl
  | @property properties required additional description _ _ _ hadditional hfind hearlier _ ih =>
    intro name
    rw [firstFault?_findings]
    have hends := firstFault?_propertyParts_eq_some name hfind
      (fun other earlier hother hlt => (hearlier other earlier hother hlt).ends) ih
    cases additional with
    | values schema => cases hadditional
    | _ => exact hends
  | member hbefore hmember =>
    intro name
    rw [firstFault?_findings]
    exact firstFault?_combinedParts_eq_some name _ (fun m hm => (hbefore m hm).ends name _)
      (firstFault?_memberParts_of_not_object name _ _ hmember)
  | memberProperty hbefore hfind hearlier _ ih =>
    intro name
    rw [firstFault?_findings]
    refine firstFault?_combinedParts_eq_some name _ (fun m hm => (hbefore m hm).ends name _) ?_
    exact firstFault?_memberParts_eq_some name _ _ hfind
      (fun other earlier hother hlt => (hearlier other earlier hother hlt).ends) ih
  | _ =>
    intro name
    rw [firstFault?_findings]
    rfl

/-- A schema that is not supported has a node that offends first. -/
theorem exists_firstFault (schema : Schema) (h : ¬ schema.Supported) :
    ∃ fault, schema.FirstFault fault := by
  induction schema using induction_on_parts .default with
  | node schema ih =>
    have ih := ih ""
    obtain ⟨kind, description⟩ := schema
    cases kind with
    | boolean => exact absurd .boolean h
    | integer shape => exact absurd .integer h
    | number shape => exact absurd .number h
    | string shape => exact absurd .string h
    | fragment => exact ⟨_, .fragment⟩
    | not schema => exact ⟨_, .negation⟩
    | reference path target =>
      cases target with
      | none => exact ⟨_, .reference⟩
      | some target => exact absurd .reference h
    | array items minItems maxItems =>
      cases items with
      | none => exact ⟨_, .missingItems⟩
      | some items =>
        obtain ⟨fault, hfault⟩ := ih _ (List.mem_singleton_self _) fun hitems => h (.array hitems)
        exact ⟨_, .items hfault⟩
    | object properties required additional =>
      cases additional with
      | values value =>
        obtain ⟨kind, inner⟩ := value
        cases kind with
        | string shape => exact absurd .mapOfStrings h
        | reference path target =>
          cases target with
          | none => exact ⟨_, .mapReference⟩
          | some target => exact absurd .mapOfReferences h
        | _ => exact ⟨_, .mapValue (by simp) (by simp)⟩
      | _ =>
        obtain ⟨name, schema, hfind, hschema, hearlier⟩ :=
          NameMap.exists_first_not fun hall => h (.object rfl hall)
        obtain ⟨fault, hfault⟩ := ih _ (mem_propertyParts hfind "") hschema
        exact ⟨_, .property rfl hfind hearlier hfault⟩
    | combinator keyword members =>
      have hmembers : ¬ ∀ member ∈ members, member.SupportedMember := fun hall =>
        h (.combinator (fun member hmem => (hall member hmem).1) fun member hmem =>
          (hall member hmem).2)
      obtain ⟨before, member, after, rfl, hbefore, hmember⟩ :=
        exists_first_of_not_forall hmembers
      obtain ⟨kind, inner⟩ := member
      cases kind with
      | object properties required additional =>
        obtain ⟨name, schema, hfind, hschema, hearlier⟩ :=
          NameMap.exists_first_not (m := NameMap.ofList properties) fun hall =>
            hmember ⟨rfl, hall⟩
        have hmem : ⟨.object properties required additional, inner⟩ ∈ before ++ _ :: after :=
          List.mem_append_right before List.mem_cons_self
        obtain ⟨node, hnode, rfl⟩ := exists_mem_combinedParts hmem hfind "" keyword
        obtain ⟨fault, hfault⟩ := ih node hnode hschema
        exact ⟨_, .memberProperty hbefore hfind hearlier hfault⟩
      | _ => exact ⟨_, .member hbefore rfl⟩

/-- The walk over a schema ends as the schema does. -/
theorem outcome_walk (settings : Settings) {schema : Schema} {fault : Option WalkFault}
    (h : schema.Ends settings.naming fault) (name : String) :
    (schema.walk settings name).outcome =
      match fault with
      | none => .ok (schema.registration settings.naming name)
      | some fault => .error fault := by
  have hwalk : schema.walk settings name = _ := schema.walk_eq_follow name
  rw [hwalk, Walk.bind_pure_eq, Walk.follow_eq, Finding.outcome, h name]
  cases fault <;> rfl

end Schema

namespace Builder

theorem run_dispatch_of_supported {schema : Schema} (h : schema.Supported) (name : String)
    (builder : Builder) :
    ((dispatch schema name).run builder).1 =
      .ok (schema.registration builder.settings.naming name) := by
  rw [run_dispatch, play, Schema.outcome_walk builder.settings h.ends]
  rfl

theorem run_dispatch_of_firstFault {schema : Schema} {fault : WalkFault}
    (h : schema.FirstFault fault) (name : String) (builder : Builder) :
    ((dispatch schema name).run builder).1 = .error (fault.within builder.place) := by
  rw [run_dispatch, play, Schema.outcome_walk builder.settings h.ends]
  rfl

end Builder

namespace Document

open Finding

variable (document : Document) (options : Options)

/-- Whether all components that are to be built can be. -/
def Supported : Prop :=
  ∀ name schema, document.components.find? name = some schema → options.selects name →
    schema.Supported

/-- The fault of the first offending node of the first component that cannot be built. -/
inductive FirstFault : WalkFault → Prop
  | component {name schema fault} (hfind : document.components.find? name = some schema)
      (hselects : options.selects name)
      (hearlier : ∀ other earlier, document.components.find? other = some earlier →
        options.selects other → other < name → earlier.Supported)
      (hfault : schema.FirstFault fault) :
      FirstFault (fault.within (componentPlace name))

variable {document options}

theorem firstFault?_component {schema : Schema} {fault : Option WalkFault}
    (h : schema.Ends options.settings.naming fault) (name : String) :
    firstFault? (Finding.expand options.settings.naming (.ok ⟨componentPlace name, name, schema⟩)) =
      fault.map (·.within (componentPlace name)) := by
  rw [Schema.firstFault?_expand, h]

theorem Supported.ends (h : document.Supported options) :
    firstFault? (document.findings options) = none := by
  refine firstFault?_flatMap_eq_none ?_
  rintro ⟨name, schema⟩ hmem
  obtain ⟨hentry, hselects⟩ := List.mem_filter.mp hmem
  have hschema := h name schema (NameMap.mem_entries_iff.mp hentry) hselects
  exact firstFault?_component hschema.ends name

theorem FirstFault.ends {fault : WalkFault} (h : document.FirstFault options fault) :
    firstFault? (document.findings options) = some fault := by
  cases h with
  | @component name schema fault hfind hselects hearlier hfault =>
    obtain ⟨before, after, heq, hbefore⟩ := NameMap.exists_entries_eq_append hfind
    rw [findings, heq, List.filter_append, List.filter_cons, if_pos hselects]
    refine firstFault?_flatMap_eq_some ?_ (firstFault?_component hfault.ends name)
    rintro ⟨other, earlier⟩ hmem
    obtain ⟨hentry, hother⟩ := List.mem_filter.mp hmem
    obtain ⟨hfound, hlt⟩ := hbefore _ hentry
    exact firstFault?_component (hearlier other earlier hfound hother hlt).ends other

theorem exists_firstFault (h : ¬ document.Supported options) :
    ∃ fault, document.FirstFault options fault := by
  unfold Supported at h
  obtain ⟨name, schema, hfind, hbad, hearlier⟩ := NameMap.exists_first_not h
  obtain ⟨hselects, hschema⟩ := Classical.not_imp.mp hbad
  obtain ⟨fault, hfault⟩ := schema.exists_firstFault hschema
  exact ⟨_, .component hfind hselects
    (fun other earlier hother hothers hlt => hearlier other earlier hother hlt hothers) hfault⟩

theorem build_of_supported (h : document.Supported options) :
    ∃ catalog, document.build options = .ok catalog := by
  rw [build_eq, Finding.outcome, h.ends]
  exact ⟨_, rfl⟩

theorem build_of_firstFault {fault : WalkFault} (h : document.FirstFault options fault) :
    document.build options = .error fault := by
  rw [build_eq, Finding.outcome, h.ends]
  rfl

end Document

theorem WalkFault.within_inj {place : Pointer} {fault other : WalkFault}
    (h : fault.within place = other.within place) : fault = other := by
  cases fault <;> cases other <;> simp_all [within]

/-- An outcome that is good or else has a first fault is known by that. -/
private theorem outcome_iff {α : Type} {outcome : Except WalkFault α} {good : Prop}
    {first : WalkFault → Prop} (hgood : good → ∃ value, outcome = .ok value)
    (hfirst : ∀ fault, first fault → outcome = .error fault)
    (hexists : ¬ good → ∃ fault, first fault) :
    ((∃ value, outcome = .ok value) ↔ good) ∧ ∀ fault, outcome = .error fault ↔ first fault := by
  by_cases h : good
  · obtain ⟨value, hvalue⟩ := hgood h
    have hnone : ∀ fault, ¬ first fault := by
      intro fault hfault
      have herror := hfirst fault hfault
      rw [hvalue] at herror
      cases herror
    refine ⟨⟨fun _ => h, hgood⟩, fun fault => ⟨?_, hfirst fault⟩⟩
    intro herror
    rw [hvalue] at herror
    cases herror
  · obtain ⟨fault, hfault⟩ := hexists h
    have herror := hfirst fault hfault
    refine ⟨⟨?_, fun hgood => absurd hgood h⟩, fun other => ⟨?_, hfirst other⟩⟩
    · rintro ⟨value, hvalue⟩
      rw [herror] at hvalue
      cases hvalue
    · intro hother
      obtain rfl := Except.error.inj (herror.symm.trans hother)
      exact hfault

namespace Builder

theorem run_dispatch_iff (schema : Schema) (name : String) (builder : Builder) :
    ((∃ registration, ((dispatch schema name).run builder).1 = .ok registration) ↔
        schema.Supported) ∧
      ∀ fault, ((dispatch schema name).run builder).1 = .error (fault.within builder.place) ↔
        schema.FirstFault fault := by
  have hiff : ((∃ registration, ((dispatch schema name).run builder).1 = .ok registration) ↔
        schema.Supported) ∧
      ∀ seen, ((dispatch schema name).run builder).1 = .error seen ↔
        ∃ fault, schema.FirstFault fault ∧ seen = fault.within builder.place := by
    refine outcome_iff ?_ ?_ ?_
    · intro hsupported
      exact ⟨_, run_dispatch_of_supported hsupported name builder⟩
    · rintro seen ⟨fault, hfault, rfl⟩
      exact run_dispatch_of_firstFault hfault name builder
    · intro hunsupported
      obtain ⟨fault, hfault⟩ := schema.exists_firstFault hunsupported
      exact ⟨_, fault, hfault, rfl⟩
  refine ⟨hiff.1, fun fault => (hiff.2 _).trans ⟨?_, fun hfault => ⟨fault, hfault, rfl⟩⟩⟩
  rintro ⟨first, hfirst, heq⟩
  exact WalkFault.within_inj heq ▸ hfirst

end Builder

/-- Schemas that are supported are built under every name, by every builder. The others end every
build in the fault of the node that offends first, wherever the builder stands and whatever it
has been told. A document is built if all its selected components are supported, and else ends in
the fault of the first that is not. -/
theorem outcome_eq_of_shape (schema : Schema) (document : Document) (options : Options) :
    (∀ name builder, (∃ registration,
        ((Builder.dispatch schema name).run builder).1 = .ok registration) ↔ schema.Supported) ∧
    (∀ name builder fault, ((Builder.dispatch schema name).run builder).1 =
        .error (fault.within builder.place) ↔ schema.FirstFault fault) ∧
    (schema.Supported ∨ ∃ fault, schema.FirstFault fault) ∧
    ((∃ catalog, document.build options = .ok catalog) ↔ document.Supported options) ∧
    ∀ fault, document.build options = .error fault ↔ document.FirstFault options fault := by
  refine ⟨fun name builder => (Builder.run_dispatch_iff schema name builder).1,
    fun name builder => (Builder.run_dispatch_iff schema name builder).2, ?_, ?_⟩
  · by_cases hsupported : schema.Supported
    · exact .inl hsupported
    · exact .inr (schema.exists_firstFault hsupported)
  · exact outcome_iff Document.build_of_supported (fun _ => Document.build_of_firstFault)
      Document.exists_firstFault

end SchemaCatalog

import SchemaCatalog.Proofs.Outcome
import SchemaCatalog.Proofs.References

/-!
Where the faults of a build are. A build walks over schemas and names places in the document that
the schemas were read from, so the two have to agree on every step. They do: the place of a fault
leads to the value that offends, and the value is what the fault says of it.
-/
namespace SchemaCatalog

namespace WalkFault

/-- Whether a value inside a document is what a fault reports there. -/
def Describes (root value : Json) : WalkFault → Prop
  | .unsupported _ .fragment =>
      ∃ description, Schema.ofJson value = .ok ⟨.fragment, description⟩
  | .unsupported _ .negation =>
      ∃ schema description, Schema.ofJson value = .ok ⟨.not schema, description⟩
  | .unsupported _ .missingItems =>
      value.field? "items" = none ∧ ∃ minItems maxItems description,
        Schema.ofJson value = .ok ⟨.array none minItems maxItems, description⟩
  | .unsupported place (.nonObjectMember combinator found) =>
      ∃ (outer : Pointer) (index : Nat) (owner : Json) (values : List Json),
        place = outer ++ [combinator.keyword, toString index] ∧ root.at? outer = some owner ∧
        owner.field? combinator.keyword = some (.array values) ∧ values[index]? = some value ∧
        ∃ schema, Schema.ofJson value = .ok schema ∧ schema.kind.name = found ∧ found ≠ "object"
  | .unsupported place (.mapValue found) =>
      ∃ outer owner, place = outer ++ ["additionalProperties"] ∧ root.at? outer = some owner ∧
        owner.field? "additionalProperties" = some value ∧
        ∃ schema, Schema.ofJson value = .ok schema ∧ schema.kind.name = found ∧
          found ≠ "reference" ∧ found ≠ "string"
  | .missingTarget _ reference =>
      value.field? "$ref" = some (.string reference) ∧ Schema.targetOf reference = none

/-- The value that a fault is about: its place leads there. -/
structure Locates (root : Json) (fault : WalkFault) (value : Json) : Prop where
  reaches : root.at? fault.place = some value
  describes : fault.Describes root value

theorem place_within (steps : Pointer) (fault : WalkFault) :
    (fault.within steps).place = steps ++ fault.place := by
  cases fault <;> rfl

/-- A fault below a place is the same fault seen from above. -/
theorem Locates.within {root middle value : Json} {fault : WalkFault} {steps : Pointer}
    (hmiddle : root.at? steps = some middle) (h : fault.Locates middle value) :
    (fault.within steps).Locates root value := by
  have hdescribes := h.describes
  refine ⟨?_, ?_⟩
  · rw [place_within, Json.at?_append hmiddle, h.reaches]
  · cases fault with
    | missingTarget place reference => exact hdescribes
    | unsupported place shape =>
      cases shape with
      | nonObjectMember combinator found =>
        obtain ⟨outer, index, owner, values, rfl, howner, hmember⟩ := hdescribes
        refine ⟨steps ++ outer, index, owner, values, (List.append_assoc ..).symm, ?_, hmember⟩
        rw [Json.at?_append hmiddle, howner]
      | mapValue found =>
        obtain ⟨outer, owner, rfl, howner, hvalue⟩ := hdescribes
        refine ⟨steps ++ outer, owner, (List.append_assoc ..).symm, ?_, hvalue⟩
        rw [Json.at?_append hmiddle, howner]
      | fragment => exact hdescribes
      | negation => exact hdescribes
      | missingItems => exact hdescribes

end WalkFault

theorem Kind.form_of_name (kind : Kind) :
    (kind.name = "object" → ∃ properties required additional,
        kind = .object properties required additional) ∧
      (kind.name = "string" → ∃ shape, kind = .string shape) ∧
      (kind.name = "reference" → ∃ path target, kind = .reference path target) := by
  cases kind with
  | combinator keyword members => cases keyword <;> simp [name, Combinator.keyword]
  | _ => simp [name]

namespace Schema

theorem exists_of_property? {value : Json} {schema child : Schema} {name : String}
    (hread : ofJson value = .ok schema) (hfind : schema.property? name = some child) :
    ∃ inner, value.at? ["properties", name] = some inner ∧ ofJson inner = .ok child := by
  have hfrom := readFrom_of_ofJson hread
  obtain ⟨kind, description⟩ := schema
  cases kind with
  | object properties required additional =>
    obtain ⟨listed, inner, hlisted, hinner, hchild⟩ := hfrom.1 name child hfind
    refine ⟨inner, ?_, hchild⟩
    rw [Json.at?_of_field? hlisted, Json.at?_of_field? hinner, Json.at?_nil]
  | _ => cases hfind

/-- A member of a combinator stands at its index in the list under the keyword. -/
theorem exists_of_member {value : Json} {keyword : Combinator} {before after : List Schema}
    {member : Schema} {description : Option String}
    (hread : ofJson value = .ok ⟨.combinator keyword (before ++ member :: after), description⟩) :
    ∃ values inner, value.field? keyword.keyword = some (.array values) ∧
      values[before.length]? = some inner ∧ ofJson inner = .ok member := by
  obtain ⟨values, hvalues, hmembers⟩ := readFrom_of_ofJson hread
  have hmember : (before ++ member :: after)[before.length]? = some member := by simp
  obtain ⟨inner, hinner, hread⟩ := exists_getElem?_of_forall₂ hmembers hmember
  exact ⟨values, inner, hvalues, hinner, hread⟩

theorem exists_of_values {value : Json} {properties : List (String × Schema)}
    {required : List String} {schema : Schema} {description : Option String}
    (hread : ofJson value = .ok ⟨.object properties required (.values schema), description⟩) :
    ∃ inner, value.field? "additionalProperties" = some inner ∧ ofJson inner = .ok schema :=
  (readFrom_of_ofJson hread).2 schema rfl

theorem field?_items_eq_none {value : Json} {minItems : Nat} {maxItems : Option Nat}
    {description : Option String}
    (hread : ofJson value = .ok ⟨.array none minItems maxItems, description⟩) :
    value.field? "items" = none := by
  have hitems : Option.Rel _ (value.field? "items") none := readFrom_of_ofJson hread
  generalize value.field? "items" = field at hitems
  cases hitems
  rfl

theorem exists_of_items {value : Json} {items : Schema} {minItems : Nat} {maxItems : Option Nat}
    {description : Option String}
    (hread : ofJson value = .ok ⟨.array (some items) minItems maxItems, description⟩) :
    ∃ inner, value.field? "items" = some inner ∧ ofJson inner = .ok items := by
  have hitems : Option.Rel _ (value.field? "items") (some items) := readFrom_of_ofJson hread
  generalize value.field? "items" = field at hitems
  cases hitems with
  | some hinner => exact ⟨_, rfl, hinner⟩

/-- The first fault of a schema leads to the value that it is about. -/
theorem FirstFault.exists_locates {value : Json} {schema : Schema} {fault : WalkFault}
    (h : schema.FirstFault fault) (hread : ofJson value = .ok schema) :
    ∃ found, fault.Locates value found := by
  -- The value varies with the schema: a step down to a part goes to the value it was read from.
  induction h generalizing value with
  | fragment => exact ⟨value, rfl, _, hread⟩
  | negation => exact ⟨value, rfl, _, _, hread⟩
  | reference =>
    obtain ⟨hpath, htarget⟩ := readFrom_of_ofJson hread
    exact ⟨value, rfl, hpath, htarget.symm⟩
  | missingItems =>
    have hitems := field?_items_eq_none hread
    exact ⟨value, rfl, hitems, _, _, _, hread⟩
  | items _ ih =>
    obtain ⟨inner, hinner, hitems⟩ := exists_of_items hread
    have hreaches : value.at? ["items"] = some inner := Json.at?_singleton hinner
    obtain ⟨found, hfound⟩ := ih hitems
    exact ⟨found, hfound.within hreaches⟩
  | mapReference =>
    obtain ⟨inner, hinner, hschema⟩ := exists_of_values hread
    obtain ⟨hpath, htarget⟩ := readFrom_of_ofJson hschema
    have hreaches : value.at? ["additionalProperties"] = some inner := Json.at?_singleton hinner
    exact ⟨inner, hreaches, hpath, htarget.symm⟩
  | @mapValue _ _ kind _ _ hstring hreference =>
    obtain ⟨inner, hinner, hschema⟩ := exists_of_values hread
    have hreaches : value.at? ["additionalProperties"] = some inner := Json.at?_singleton hinner
    have hneReference : kind.name ≠ "reference" := by
      intro hname
      obtain ⟨path, target, heq⟩ := kind.form_of_name.2.2 hname
      exact hreference path target heq
    have hneString : kind.name ≠ "string" := by
      intro hname
      obtain ⟨shape, heq⟩ := kind.form_of_name.2.1 hname
      exact hstring shape heq
    exact ⟨inner, hreaches, [], value, rfl, rfl, hinner, _, hschema, rfl, hneReference, hneString⟩
  | property _ hfind _ _ ih =>
    obtain ⟨inner, hinner, hchild⟩ := exists_of_property? hread hfind
    obtain ⟨found, hfound⟩ := ih hchild
    exact ⟨found, hfound.within hinner⟩
  | @member keyword before member after _ _ hmember =>
    obtain ⟨values, inner, hvalues, hinner, hschema⟩ := exists_of_member hread
    have hreaches : value.at? [keyword.keyword, toString before.length] = some inner := by
      rw [Json.at?_of_field? hvalues, Json.at?_of_getElem? hinner, Json.at?_nil]
    have hneObject : member.kind.name ≠ "object" := by
      intro hname
      obtain ⟨properties, required, additional, heq⟩ := member.kind.form_of_name.1 hname
      simp [isObject, heq] at hmember
    exact ⟨inner, hreaches, [], before.length, value, values, rfl, rfl, hvalues, hinner, member,
      hschema, rfl, hneObject⟩
  | @memberProperty keyword before _ _ _ name _ _ _ hfind _ _ ih =>
    obtain ⟨values, inner, hvalues, hinner, hmember⟩ := exists_of_member hread
    obtain ⟨listed, hlisted, hchild⟩ := exists_of_property? hmember hfind
    obtain ⟨found, hfound⟩ := ih hchild
    have hreaches : value.at? [keyword.keyword, toString before.length, "properties", name] =
        some listed := by
      rw [Json.at?_of_field? hvalues, Json.at?_of_getElem? hinner, hlisted]
    exact ⟨found, hfound.within hreaches⟩

end Schema

namespace Document

variable {value : Json} {document : Document} {options : Options}

theorem exists_of_component (hread : ofJson value = .ok document) {name : String} {schema : Schema}
    (hfind : document.components.find? name = some schema) :
    ∃ inner, value.at? (componentPlace name) = some inner ∧ Schema.ofJson inner = .ok schema := by
  have hcomponents := componentsOf_of_ofJson hread
  rw [find?_of_componentsOf hcomponents, Option.bind_eq_some_iff] at hfind
  obtain ⟨inner, hinner, hschema⟩ := hfind
  refine ⟨inner, ?_, toOption_eq_some_iff.mp hschema⟩
  rw [at?_componentPlace (by simp [hcomponents]), hinner]

theorem firstFault_of_build {fault : WalkFault} (hbuild : document.build options = .error fault) :
    document.FirstFault options fault := by
  have hunsupported : ¬ document.Supported options := by
    intro hsupported
    obtain ⟨catalog, hcatalog⟩ := build_of_supported hsupported
    rw [hcatalog] at hbuild
    cases hbuild
  obtain ⟨first, hfirst⟩ := exists_firstFault hunsupported
  obtain rfl : first = fault := Except.error.inj ((build_of_firstFault hfirst).symm.trans hbuild)
  exact hfirst

/-- The fault of a build names its place by a text that leads, from the root of the document that
was read, to the value that offends. -/
theorem fault_locates (hread : ofJson value = .ok document) {fault : WalkFault}
    (hbuild : document.build options = .error fault) :
    ∃ pointer found, fault.pathText = "#" ++ pointer ∧
      (Pointer.ofText? pointer).bind value.at? = some found ∧ fault.Describes value found := by
  have hfirst := firstFault_of_build hbuild
  cases hfirst with
  | @component name schema inner hfind _ _ hinner =>
    obtain ⟨outer, houter, hschema⟩ := exists_of_component hread hfind
    obtain ⟨found, hfound⟩ := hinner.exists_locates hschema
    have hlocates := hfound.within houter
    refine ⟨(inner.within (componentPlace name)).place.text, found, rfl, ?_, hlocates.describes⟩
    rw [Pointer.ofText?_text, Option.bind_some]
    exact hlocates.reaches

/-- Names with a tilde and a slash in them, and a text where an object must be. -/
theorem fault_locates_escaped :
    let text : Json := .object [("type", .string "string")]
    let choice : Json := .object [("anyOf", .array [.object [("type", .string "object")], text])]
    let owner : Json := .object [("properties", .object [("a~b", choice)])]
    let value : Json := .object [("components", .object [("schemas", .object [("x/y", owner)])])]
    let fault : WalkFault := .unsupported
      ["components", "schemas", "x/y", "properties", "a~b", "anyOf", "1"]
      (.nonObjectMember .anyOf "string")
    ∃ document, ofJson value = .ok document ∧ document.build .default = .error fault ∧
      fault.pathText = "#/components/schemas/x~1y/properties/a~0b/anyOf/1" ∧
      ∃ pointer found, fault.pathText = "#" ++ pointer ∧
        (Pointer.ofText? pointer).bind value.at? = some found ∧ fault.Describes value found := by
  intro text choice owner value fault
  let choices : Schema := ⟨.combinator .anyOf [⟨.object [] [] .undeclared, none⟩,
    ⟨.string ⟨0, none, none, none, none, []⟩, none⟩], none⟩
  let document : Document :=
    empty.withComponent "x/y" ⟨.object [("a~b", choices)] [] .undeclared, none⟩
  have hread : ofJson value = .ok document := rfl
  have hbuild : document.build .default = .error fault := rfl
  exact ⟨document, hread, hbuild, by decide +kernel, fault_locates hread hbuild⟩

end Document

end SchemaCatalog

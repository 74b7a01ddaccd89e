import SchemaCatalog.Proofs.Places
import SchemaCatalog.Proofs.Reading

/-!
References as pointers. Slashes are restored before tildes, all over a name, where a reader of
pointers decodes one character after the other. Where every tilde starts an escape the two agree,
so a reference to a component means the component that its text points to, no other reference
means the same one, and every name has such a reference.
-/
namespace SchemaCatalog

namespace Pointer

/-- That every tilde in a text starts an escape. -/
def Escaped (written : List Char) : Prop :=
  ∀ i < written.length, written[i]? = some '~' →
    written[i + 1]? = some '0' ∨ written[i + 1]? = some '1'

instance (written : List Char) : Decidable (Escaped written) :=
  inferInstanceAs (Decidable (∀ i < written.length, _))

section Characters

variable {written step : List Char}

theorem Escaped.of_append (before : List Char) (h : Escaped (before ++ written)) :
    Escaped written := by
  intro i hi htilde
  have hlater := h (before.length + i) (by simpa using hi)
  rw [Nat.add_assoc] at hlater
  simpa [List.getElem?_append_right, htilde] using hlater

theorem exists_decode? (h : Escaped written) : ∃ step, decode? written = some step := by
  fun_induction decode? written with
  | case1 => exact ⟨[], rfl⟩
  | case2 rest ih =>
    obtain ⟨step, hstep⟩ := ih (h.of_append ['~', '0'])
    exact ⟨'~' :: step, by rw [hstep, Option.map_some]⟩
  | case3 rest ih =>
    obtain ⟨step, hstep⟩ := ih (h.of_append ['~', '1'])
    exact ⟨'/' :: step, by rw [hstep, Option.map_some]⟩
  | case4 rest hzero hone =>
    -- A tilde at the end, or before another character, starts no escape.
    cases rest with
    | nil => simpa using h 0 (by simp) rfl
    | cons c rest =>
      have hnext : c = '0' ∨ c = '1' := by simpa using h 0 (by simp) rfl
      rcases hnext with rfl | rfl
      · exact absurd rfl (hzero rest)
      · exact absurd rfl (hone rest)
  | case5 c rest _ _ _ ih =>
    obtain ⟨step, hstep⟩ := ih (h.of_append [c])
    exact ⟨c :: step, by rw [hstep, Option.map_some]⟩

theorem replacePair_cons_of_ne {first second new c : Char} (h : c ≠ first) (rest : List Char) :
    replacePair first second new (c :: rest) = c :: replacePair first second new rest := by
  cases rest with
  | nil => rfl
  | cons d rest =>
    have hpair : ¬ (c = first ∧ d = second) := fun hboth => h hboth.1
    rw [replacePair, if_neg hpair]

/-- Two replacements all over a text do what is done from the left, as long as every tilde starts
an escape: a slash that is restored makes no new escape. -/
theorem replacePair_of_decode? (h : decode? written = some step) :
    replacePair '~' '0' '~' (replacePair '~' '1' '/' written) = step := by
  fun_induction decode? written generalizing step with
  | case1 => exact Option.some.inj h
  | case2 rest ih =>
    obtain ⟨inner, hinner, rfl⟩ := Option.map_eq_some_iff.mp h
    have hslashes : replacePair '~' '1' '/' ('~' :: '0' :: rest) =
        '~' :: '0' :: replacePair '~' '1' '/' rest := by
      rw [replacePair, if_neg (by decide), replacePair_cons_of_ne (by decide)]
    rw [hslashes, replacePair, if_pos ⟨rfl, rfl⟩, ih hinner]
  | case3 rest ih =>
    obtain ⟨inner, hinner, rfl⟩ := Option.map_eq_some_iff.mp h
    rw [replacePair, if_pos ⟨rfl, rfl⟩, replacePair_cons_of_ne (by decide), ih hinner]
  | case4 => cases h
  | case5 c rest _ _ htilde ih =>
    obtain ⟨inner, hinner, rfl⟩ := Option.map_eq_some_iff.mp h
    rw [replacePair_cons_of_ne htilde, replacePair_cons_of_ne htilde, ih hinner]

/-- A text without slashes that can be decoded is the only one that means its step. -/
theorem eq_escape_of_decode? (h : decode? written = some step) (hslash : '/' ∉ written) :
    written = step.flatMap escapeChar := by
  fun_induction decode? written generalizing step with
  | case1 =>
    obtain rfl : [] = step := Option.some.inj h
    rfl
  | case2 rest ih =>
    obtain ⟨inner, hinner, rfl⟩ := Option.map_eq_some_iff.mp h
    rw [List.flatMap_cons, ← ih hinner (by simp_all)]
    rfl
  | case3 rest ih =>
    obtain ⟨inner, hinner, rfl⟩ := Option.map_eq_some_iff.mp h
    rw [List.flatMap_cons, ← ih hinner (by simp_all)]
    rfl
  | case4 => cases h
  | case5 c rest _ _ htilde ih =>
    obtain ⟨inner, hinner, rfl⟩ := Option.map_eq_some_iff.mp h
    obtain ⟨hne, hrest⟩ := not_or.mp (List.mem_cons.not.mp hslash)
    have hchar : escapeChar c = [c] := by
      rw [escapeChar, if_neg htilde, if_neg (Ne.symm hne)]
    rw [List.flatMap_cons, hchar, ← ih hinner hrest]
    rfl

end Characters

theorem unescape_escape (name : String) : unescape (escape name) = name := by
  rw [unescape, replacePair_of_decode? (decode?_escape name), String.ofList_toList]

theorem eq_escape_unescape {written : List Char} (hescaped : Escaped written)
    (hslash : '/' ∉ written) : written = (escape (unescape (String.ofList written))).toList := by
  obtain ⟨step, hstep⟩ := exists_decode? hescaped
  have hname : unescape (String.ofList written) = String.ofList step := by
    rw [unescape, String.toList_ofList, replacePair_of_decode? hstep]
  rw [hname, escape_eq, String.toList_ofList, String.toList_ofList]
  exact eq_escape_of_decode? hstep hslash

end Pointer

namespace Schema

/-- That a schema object with this reference, whatever else it holds, is read as a reference to the
component of this name. -/
def NamesComponent (path name : String) : Prop :=
  ∀ fields : Fields, fields.get? "$ref" = some (.string path) →
    ofJson (.object fields) = .ok ⟨.reference path (some name), fields.text? "description"⟩

variable {path name : String}

theorem ofJson_of_reference {fields : Fields} (h : fields.get? "$ref" = some (.string path)) :
    ofJson (.object fields) =
      .ok ⟨.reference path (targetOf path), fields.text? "description"⟩ := by
  have hkind : classify fields (partsOf fields) = .ok (.reference path (targetOf path)) := by
    rw [classify, h]
  rw [ofJson_object, hkind]
  rfl

theorem namesComponent_iff : NamesComponent path name ↔ targetOf path = some name := by
  constructor
  · intro h
    have hread := h [("$ref", .string path)] rfl
    rw [ofJson_of_reference rfl] at hread
    injection hread with hschema
    injection hschema with hkind
    injection hkind
  · intro h fields hfields
    rw [ofJson_of_reference hfields, h]

/-- A reference to a component is the way to all components and one more step. -/
theorem targetOf_eq_some_iff :
    targetOf path = some name ↔ ∃ written, componentRoot.toList ++ written = path.toList ∧
      written ≠ [] ∧ '/' ∉ written ∧ Pointer.unescape (String.ofList written) = name := by
  unfold targetOf
  constructor
  · intro h
    split at h
    · rename_i written hwritten
      have hpath := List.isPrefixOf?_eq_some_iff_append_eq.mp hwritten
      split at h
      · cases h
      · rename_i hgood
        simp only [Bool.or_eq_true, List.isEmpty_iff, List.contains_iff_mem, not_or] at hgood
        exact ⟨written, hpath, hgood.1, hgood.2, Option.some.inj h⟩
    · cases h
  · rintro ⟨written, hpath, hne, hslash, hname⟩
    rw [List.isPrefixOf?_eq_some_iff_append_eq.mpr hpath]
    simp [hne, hslash, hname]

theorem namesComponent_escape (h : name ≠ "") :
    NamesComponent (componentRoot ++ Pointer.escape name) name := by
  refine namesComponent_iff.mpr (targetOf_eq_some_iff.mpr
    ⟨(Pointer.escape name).toList, (String.toList_append ..).symm, ?_,
      Pointer.slash_notMem_escape name, ?_⟩)
  · intro hnil
    have hdecode := Pointer.decode?_escape name
    rw [hnil] at hdecode
    exact h (String.toList_eq_nil_iff.mp (Option.some.inj hdecode).symm)
  · rw [String.ofList_toList, Pointer.unescape_escape]

/-- A reference of which every tilde starts an escape is the one that its component's name has. -/
theorem NamesComponent.path_eq (h : NamesComponent path name)
    (hescaped : Pointer.Escaped path.toList) : path = componentRoot ++ Pointer.escape name := by
  obtain ⟨written, hpath, -, hslash, hname⟩ := targetOf_eq_some_iff.mp (namesComponent_iff.mp h)
  rw [← hpath] at hescaped
  have hwritten := Pointer.eq_escape_unescape (hescaped.of_append componentRoot.toList) hslash
  rw [hname] at hwritten
  rw [← String.toList_inj, String.toList_append, ← hwritten, hpath]

-- A tilde that starts no escape stays in the name, but a reader of pointers refuses it.
example : targetOf "#/components/schemas/~2" = some "~2" ∧
    Pointer.ofText? "/components/schemas/~2" = none := by decide

end Schema

namespace Document

variable {value : Json} {document : Document}

def schemasValue? (value : Json) : Option Json :=
  (value.field? "components").bind (·.field? "schemas")

def componentValue? (value : Json) (name : String) : Option Json :=
  (schemasValue? value).bind (·.field? name)

theorem componentRoot_append_escape (name : String) :
    Schema.componentRoot ++ Pointer.escape name = placeText "#" (componentPlace name) := by
  have hnames : Pointer.escape "components" = "components" ∧
      Pointer.escape "schemas" = "schemas" := by decide
  rw [placeText, componentPlace, Pointer.text, ← String.toList_inj]
  simp [hnames, Schema.componentRoot]

/-- A reader of pointers finds a component where the document has it, unless the component schemas
are a list, in which a name could be an index. -/
theorem at?_componentPlace (h : componentsOf value ≠ .error .schemasNotObject)
    (name : String) : value.at? (componentPlace name) = componentValue? value name := by
  have hcomponents : value.step? "components" = value.field? "components" :=
    Json.step?_eq_field? (by cbv)
  have hschemas (outer : Json) : outer.step? "schemas" = outer.field? "schemas" :=
    Json.step?_eq_field? (by cbv)
  have hplace : value.at? (componentPlace name) = (schemasValue? value).bind (·.step? name) := by
    simp [componentPlace, Json.at?_cons, hcomponents, hschemas, schemasValue?, Option.bind_assoc]
  rw [hplace, componentValue?]
  cases hfound : schemasValue? value with
  | none => rfl
  | some schemas =>
    cases schemas with
    | array values =>
      have hfault : componentsOf value = .error .schemasNotObject := by
        rw [componentsOf, show (value.field? "components").bind (·.field? "schemas") = _ from hfound]
      exact absurd hfault h
    | _ => rfl

theorem componentsOf_of_ofJson (h : ofJson value = .ok document) :
    componentsOf value = .ok document.components := by
  cases value with
  | object fields =>
    obtain ⟨components, hcomponents, heq⟩ := bind_eq_ok_iff.mp h
    cases heq
    exact hcomponents
  | _ => cases h

theorem find?_of_componentsOf {components : NameMap Schema}
    (h : componentsOf value = .ok components) (name : String) :
    components.find? name =
      (componentValue? value name).bind fun inner => (Schema.ofJson inner).toOption := by
  unfold componentsOf at h
  split at h
  · rename_i hnone
    obtain rfl : .empty = components := Except.ok.inj h
    rw [componentValue?, schemasValue?, hnone]
    rfl
  · rename_i fields hfields
    rw [NameMap.find?_of_traverse h, NameMap.find?_ofList, componentValue?, schemasValue?, hfields]
    refine congrArg (Option.bind _) (funext fun inner => ?_)
    cases Schema.ofJson inner <;> rfl
  · cases h

/-- References and components. Every name that is not empty has a reference; a reference of which
every tilde starts an escape leads, as a pointer into the document, to what the document has for
the component that it names, from which the component is read, and to nothing if it has none; no
two such references name one component, as no two names are escaped alike. -/
theorem reference_names_component :
    (∀ name, name ≠ "" →
      Schema.NamesComponent (Schema.componentRoot ++ Pointer.escape name) name) ∧
    (∀ value document path name, ofJson value = .ok document →
      Schema.NamesComponent path name → Pointer.Escaped path.toList →
      ∃ pointer, path = "#" ++ pointer ∧
        (Pointer.ofText? pointer).bind value.at? = componentValue? value name ∧
        document.components.find? name =
          (componentValue? value name).bind fun inner => (Schema.ofJson inner).toOption) ∧
    (∀ path name other target, Schema.NamesComponent path name →
      Schema.NamesComponent other target → Pointer.Escaped path.toList →
      Pointer.Escaped other.toList → (name = target ↔ path = other)) ∧
    Function.Injective Pointer.escape := by
  refine ⟨fun name hname => Schema.namesComponent_escape hname, ?_, ?_, ?_⟩
  · intro value document path name hread hnames hescaped
    have hcomponents := componentsOf_of_ofJson hread
    refine ⟨(componentPlace name).text, ?_, ?_, find?_of_componentsOf hcomponents name⟩
    · rw [hnames.path_eq hescaped, componentRoot_append_escape]
      rfl
    · rw [Pointer.ofText?_text, Option.bind_some]
      exact at?_componentPlace (by simp [hcomponents]) name
  · intro path name other target hpath hother hescaped hothers
    constructor
    · rintro rfl
      rw [hpath.path_eq hescaped, hother.path_eq hothers]
    · rintro rfl
      have hsame := (Schema.namesComponent_iff.mp hpath).symm.trans
        (Schema.namesComponent_iff.mp hother)
      exact Option.some.inj hsame
  · intro name other heq
    rw [← Pointer.unescape_escape name, heq, Pointer.unescape_escape]

/-- A name that looks like an escaped slash beside the name that is a slash. -/
theorem reference_names_component_tilde :
    let value : Json := .object [("components", .object [("schemas", .object
      [("~1", .object [("type", .string "boolean")]),
        ("/", .object [("type", .string "integer")])])])]
    let path := "#/components/schemas/~01"
    let other := "#/components/schemas/~1"
    let document := (empty.withComponent "~1" ⟨.boolean, none⟩).withComponent "/"
      ⟨.integer ⟨.generic, none, none⟩, none⟩
    ofJson value = .ok document ∧
      "~1" ≠ "" ∧ Schema.componentRoot ++ Pointer.escape "~1" = path ∧
      Schema.NamesComponent path "~1" ∧ Schema.NamesComponent other "/" ∧
      Pointer.Escaped path.toList ∧ Pointer.Escaped other.toList ∧
      (∃ pointer, path = "#" ++ pointer ∧
        (Pointer.ofText? pointer).bind value.at? = some (.object [("type", .string "boolean")])) ∧
      ("~1" = "/" ↔ path = other) := by
  intro value path other document
  obtain ⟨hevery, hleads, hinj, -⟩ := reference_names_component
  have hread : ofJson value = .ok document := rfl
  have hpath : Schema.componentRoot ++ Pointer.escape "~1" = path := by decide
  have hnames : Schema.NamesComponent path "~1" := hpath ▸ hevery "~1" (by decide)
  have hother : Schema.NamesComponent other "/" := hevery "/" (by decide)
  have hescaped : Pointer.Escaped path.toList := by decide
  have hothers : Pointer.Escaped other.toList := by decide
  obtain ⟨pointer, heq, hfound, -⟩ := hleads value document path "~1" hread hnames hescaped
  exact ⟨hread, by decide, hpath, hnames, hother, hescaped, hothers,
    ⟨pointer, heq, hfound⟩, hinj path "~1" other "/" hnames hother hescaped hothers⟩

end Document

end SchemaCatalog

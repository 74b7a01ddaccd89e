import SchemaCatalog.Proofs.References

/-!
Where the faults of a reading are. A schema object is at fault itself, or it takes over the fault of
a schema inside it with the steps that lead there in front. So the place of a fault leads from the
root to the value that cannot be read, or to what should be a list of schemas, and the first
component with a fault is the one that is told of.
-/
namespace SchemaCatalog

namespace Schema

namespace Fault

/-- The value that a fault is about: its place leads there, and the value has the defect by itself
or should be the list of a combinator. -/
structure Locates (root : Json) (fault : Fault) (found : Json) : Prop where
  reaches : root.at? fault.place = some found
  defective : ofJson found = .error ⟨[], fault.defect⟩ ∨
    fault.defect = .compositionNotArray ∧ (∀ values, found ≠ .array values) ∧
      ∃ (outer : Pointer) (owner : Json) (combinator : Combinator),
        fault.place = outer ++ [combinator.keyword] ∧ root.at? outer = some owner ∧
          owner.field? combinator.keyword = some found

/-- A fault below a place is the same fault seen from above. -/
theorem Locates.within {root middle found : Json} {fault : Fault} {steps : Pointer}
    (hmiddle : root.at? steps = some middle) (h : fault.Locates middle found) :
    Locates root ⟨steps ++ fault.place, fault.defect⟩ found := by
  constructor
  · rw [Json.at?_append hmiddle, h.reaches]
  · refine h.defective.imp_right fun ⟨hdefect, hvalues, outer, owner, combinator, hlist⟩ => ?_
    obtain ⟨hplace, howner, hfield⟩ := hlist
    refine ⟨hdefect, hvalues, steps ++ outer, owner, combinator, ?_, ?_, hfield⟩
    · rw [hplace, List.append_assoc]
    · rw [Json.at?_append hmiddle, howner]

end Fault

/-- That all faults of a reading are of a kind. -/
def FaultsIn {α : Type} (good : Fault → Prop) (reading : Except Fault α) : Prop :=
  ∀ fault, reading = .error fault → good fault

section FaultsIn

variable {α β : Type} {good : Fault → Prop}

theorem faultsIn_ok (value : α) : FaultsIn good (.ok value) := by
  intro fault h
  cases h

theorem FaultsIn.bind {first : Except Fault α} {next : α → Except Fault β}
    (hfirst : FaultsIn good first) (hnext : ∀ value, FaultsIn good (next value)) :
    FaultsIn good (first >>= next) := by
  intro fault h
  rcases bind_eq_error_iff.mp h with hfault | ⟨value, -, hfault⟩
  · exact hfirst fault hfault
  · exact hnext value fault hfault

theorem FaultsIn.map {reading : Except Fault α} (h : FaultsIn good reading) (f : α → β) :
    FaultsIn good (reading.map f) := by
  intro fault hfault
  cases reading with
  | ok value => cases hfault
  | error first => exact h fault (by simpa [Except.map] using hfault)

end FaultsIn

section Keywords

variable {good : Fault → Prop} (hown : ∀ defect, good ⟨[], defect⟩) (fields : Fields)

include hown

theorem faultsIn_fail {α : Type} (defect : Defect) : FaultsIn good (fail defect : Except Fault α) := by
  intro fault h
  cases h
  exact hown defect

theorem faultsIn_limit? {α : Type} [Limit α] (keyword : String) :
    FaultsIn good (limit? (α := α) fields keyword) := by
  unfold limit?
  split
  · exact faultsIn_ok _
  · split
    · exact faultsIn_ok _
    · exact faultsIn_fail hown _

theorem faultsIn_exclusive? {α : Type} [Limit α] (keyword : String) :
    FaultsIn good (exclusive? (α := α) fields keyword) := by
  unfold exclusive?
  split
  · exact faultsIn_ok _
  · exact faultsIn_ok _
  · split
    · split
      · exact faultsIn_ok _
      · exact faultsIn_fail hown _
    · exact faultsIn_fail hown _

theorem faultsIn_bound {α : Type} [Limit α] (side : Side) :
    FaultsIn good (bound (α := α) fields side) := by
  refine (faultsIn_exclusive? hown fields _).bind fun (leftOut, exclusive) => ?_
  refine (faultsIn_limit? hown fields _).bind fun plain => ?_
  cases plain <;> cases exclusive <;> exact faultsIn_ok _

theorem faultsIn_count? (keyword : String) : FaultsIn good (count? fields keyword) := by
  unfold count?
  split
  · exact faultsIn_ok _
  · split
    · exact faultsIn_ok _
    · exact faultsIn_fail hown _
  · exact faultsIn_fail hown _

theorem faultsIn_declaredType : FaultsIn good (declaredType fields) := by
  unfold declaredType
  split
  · exact faultsIn_ok _
  · exact faultsIn_ok _
  · split
    · exact faultsIn_ok _
    · exact faultsIn_fail hown _
  · exact faultsIn_fail hown _

theorem faultsIn_integerShape : FaultsIn good (integerShape fields) :=
  (faultsIn_bound hown fields .lower).bind fun _ =>
    (faultsIn_bound hown fields .upper).bind fun _ => faultsIn_ok _

theorem faultsIn_numberShape : FaultsIn good (numberShape fields) :=
  (faultsIn_bound hown fields .lower).bind fun _ =>
    (faultsIn_bound hown fields .upper).bind fun _ => faultsIn_ok _

theorem faultsIn_allowedValues : FaultsIn good (allowedValues fields) := by
  unfold allowedValues
  split
  · exact faultsIn_ok _
  · exact faultsIn_ok _
  · exact faultsIn_fail hown _

theorem faultsIn_stringShape : FaultsIn good (stringShape fields) :=
  (faultsIn_allowedValues hown fields).bind fun _ =>
    (faultsIn_count? hown fields "minLength").bind fun _ =>
      (faultsIn_count? hown fields "maxLength").bind fun _ => faultsIn_ok _

theorem faultsIn_requiredNames : FaultsIn good (requiredNames fields) := by
  unfold requiredNames
  split
  · exact faultsIn_ok _
  · split
    · exact faultsIn_ok _
    · exact faultsIn_fail hown _
  · exact faultsIn_fail hown _

end Keywords

section Kinds

variable {good : Fault → Prop} (hown : ∀ defect, good ⟨[], defect⟩) (fields : Fields)
  {parts : Parts}
  (hschema : ∀ keyword reading, parts.schema keyword = some reading → FaultsIn good reading)

include hown hschema

theorem faultsIn_objectKind
    (hnamed : ∀ reading, parts.named "properties" = some reading → FaultsIn good reading) :
    FaultsIn good (objectKind fields parts) := by
  have hproperties : FaultsIn good ((parts.named "properties").getD (.ok [])) := by
    cases h : parts.named "properties" with
    | none => exact faultsIn_ok _
    | some reading => exact hnamed reading h
  have hadditional : FaultsIn good (additionalOf fields parts) := by
    unfold additionalOf
    split
    · exact faultsIn_ok _
    · split
      · rename_i reading hreading
        exact (hschema _ reading hreading).map _
      · exact faultsIn_ok _
  rw [objectKind_eq]
  exact hproperties.bind fun _ => (faultsIn_requiredNames hown fields).bind fun _ =>
    hadditional.bind fun _ => faultsIn_ok _

theorem faultsIn_arrayKind :
    FaultsIn good (arrayKind fields parts) := by
  have hitems : FaultsIn good (itemsOf parts) := by
    unfold itemsOf
    split
    · rename_i reading hreading
      exact (hschema _ reading hreading).map _
    · exact faultsIn_ok _
  rw [arrayKind_eq]
  exact hitems.bind fun _ => (faultsIn_count? hown fields "minItems").bind fun _ =>
    (faultsIn_count? hown fields "maxItems").bind fun _ => faultsIn_ok _

theorem faultsIn_typedKind
    (hnamed : ∀ reading, parts.named "properties" = some reading → FaultsIn good reading) :
    FaultsIn good (typedKind fields parts) := by
  have hobject := faultsIn_objectKind hown fields hschema hnamed
  have harray := faultsIn_arrayKind hown fields hschema
  refine (faultsIn_declaredType hown fields).bind fun declared => ?_
  split
  · exact faultsIn_ok _
  · exact (faultsIn_integerShape hown fields).bind fun _ => faultsIn_ok _
  · exact (faultsIn_numberShape hown fields).bind fun _ => faultsIn_ok _
  · exact (faultsIn_stringShape hown fields).bind fun _ => faultsIn_ok _
  · exact hobject
  · exact harray
  · exact faultsIn_fail hown _
  · split
    · exact hobject
    · split
      · exact harray
      · exact faultsIn_ok _

theorem faultsIn_classify
    (hmembers : ∀ (combinator : Combinator) reading,
      parts.members combinator.keyword = some reading → FaultsIn good reading)
    (hnamed : ∀ reading, parts.named "properties" = some reading → FaultsIn good reading) :
    FaultsIn good (classify fields parts) := by
  unfold classify
  split
  · exact faultsIn_ok _
  · exact faultsIn_fail hown _
  · dsimp only
    split
    · rename_i combinator reading hcombined
      obtain ⟨found, -, hfound⟩ := List.exists_of_findSome?_eq_some hcombined
      obtain ⟨members, hreading, hpair⟩ := Option.map_eq_some_iff.mp hfound
      cases hpair
      exact (hmembers combinator reading hreading).map _
    · split
      · rename_i reading hnot
        exact (hschema _ reading hnot).map _
      · exact faultsIn_typedKind hown fields hschema hnamed

end Kinds

/-- That the place of a fault leads to a value with the defect. -/
def Fault.Located (root : Json) (fault : Fault) : Prop := ∃ found, fault.Locates root found

section Parts

theorem faultsIn_within {α : Type} {root middle : Json} {steps : Pointer}
    {reading : Except Fault α} (hmiddle : root.at? steps = some middle)
    (h : FaultsIn (Fault.Located middle) reading) :
    FaultsIn (Fault.Located root) (within steps reading) := by
  intro fault hfault
  obtain ⟨inner, hinner, rfl⟩ := within_eq_error_iff.mp hfault
  obtain ⟨found, hfound⟩ := h inner hinner
  exact ⟨found, hfound.within hmiddle⟩

theorem faultsIn_membersFrom {values : List Json}
    (ih : ∀ inner ∈ values, FaultsIn (Fault.Located inner) (ofJson inner)) {index : Nat}
    {rest : List Json} (hrest : values.drop index = rest) :
    FaultsIn (Fault.Located (.array values)) (membersFrom index rest) := by
  induction rest generalizing index with
  | nil => exact faultsIn_ok _
  | cons value rest hlater =>
    have hvalue : values[index]? = some value := by
      rw [← List.head?_drop, hrest, List.head?_cons]
    have hnext : values.drop (index + 1) = rest := by
      rw [← List.tail_drop, hrest, List.tail_cons]
    have hreaches : (Json.array values).at? [toString index] = some value :=
      Json.at?_of_getElem? hvalue []
    refine (faultsIn_within hreaches (ih value (List.mem_of_getElem? hvalue))).bind fun schema => ?_
    exact (hlater hnext).bind fun _ => faultsIn_ok _

variable {fields : Fields} {keyword : String}
  (ih : ∀ inner : Json, sizeOf inner < sizeOf (Json.object fields) →
    FaultsIn (Fault.Located inner) (ofJson inner))

include ih

theorem faultsIn_schema_partsOf {reading : Except Fault Schema}
    (h : (partsOf fields).schema keyword = some reading) :
    FaultsIn (Fault.Located (.object fields)) reading := by
  obtain ⟨inner, hinner, rfl⟩ := Option.map_eq_some_iff.mp h
  have hsmaller := Json.sizeOf_lt_object (NameMap.mem_of_findLast?_eq_some hinner)
  exact faultsIn_within (Json.at?_singleton hinner) (ih inner hsmaller)

/-- Under the keyword of a combinator either a member is at fault, or what should be their list. -/
theorem faultsIn_members_partsOf {combinator : Combinator} {reading : Except Fault (List Schema)}
    (h : (partsOf fields).members combinator.keyword = some reading) :
    FaultsIn (Fault.Located (.object fields)) reading := by
  obtain ⟨inner, hinner, rfl⟩ := Option.map_eq_some_iff.mp h
  have hfield : (Json.object fields).field? combinator.keyword = some inner := hinner
  by_cases hvalues : ∃ values, inner = .array values
  · obtain ⟨values, rfl⟩ := hvalues
    have hsmaller := Json.sizeOf_lt_object (NameMap.mem_of_findLast?_eq_some hinner)
    refine faultsIn_within (Json.at?_singleton hfield) (faultsIn_membersFrom ?_ rfl)
    intro value hvalue
    exact ih value ((Json.sizeOf_lt_array hvalue).trans hsmaller)
  · intro fault hfault
    have hmembers : members inner = .error ⟨[], .compositionNotArray⟩ := by
      cases inner with
      | array values => exact absurd ⟨values, rfl⟩ hvalues
      | _ => rfl
    rw [hmembers] at hfault
    obtain rfl := Except.error.inj hfault
    refine ⟨inner, Json.at?_singleton hfield, .inr ⟨rfl, ?_, [], _, combinator, rfl, rfl, hfield⟩⟩
    exact fun values heq => hvalues ⟨values, heq⟩

/-- Among the properties either one is at fault, or the schema object itself, if what it has there
are no properties. -/
theorem faultsIn_named_partsOf {reading : Except Fault (List (String × Schema))}
    (h : (partsOf fields).named keyword = some reading) :
    FaultsIn (fun fault => fault.place = [] ∨ fault.Located (.object fields)) reading := by
  obtain ⟨inner, hinner, rfl⟩ := Option.map_eq_some_iff.mp h
  have hfield : (Json.object fields).field? keyword = some inner := hinner
  intro fault hfault
  cases inner with
  | object listed =>
    rw [named_object] at hfault
    rcases bind_eq_error_iff.mp hfault with htraverse | ⟨schemas, -, hdone⟩
    · obtain ⟨name, property, hproperty, hreading, -⟩ :=
        NameMap.exists_of_traverse_eq_error htraverse
      rw [NameMap.find?_map, NameMap.find?_ofList, Option.map_eq_some_iff] at hproperty
      obtain ⟨value, hvalue, rfl⟩ := hproperty
      have hreaches : (Json.object fields).at? [keyword, name] = some value := by
        rw [Json.at?_of_field? hfield]
        exact Json.at?_singleton hvalue
      have hsmaller := (Json.sizeOf_lt_object (NameMap.mem_of_findLast?_eq_some hvalue)).trans
        (Json.sizeOf_lt_object (NameMap.mem_of_findLast?_eq_some hinner))
      exact .inr (faultsIn_within hreaches (ih value hsmaller) fault hreading)
    · cases hdone
  | _ =>
    cases hfault
    exact .inl rfl

end Parts

/-- Every fault of a reading is located. -/
theorem faultsIn_ofJson (value : Json) : FaultsIn (Fault.Located value) (ofJson value) := by
  intro fault hfault
  cases value with
  | bool flag => cases flag <;> cases hfault
  | object fields =>
    have ih : ∀ inner : Json, sizeOf inner < sizeOf (Json.object fields) →
        FaultsIn (Fault.Located inner) (ofJson inner) := fun inner _ => faultsIn_ofJson inner
    have hclassify : FaultsIn (fun fault => fault.place = [] ∨ fault.Located (.object fields))
        (classify fields (partsOf fields)) := by
      refine faultsIn_classify (fun _ => .inl rfl) fields ?_ ?_ ?_
      · exact fun _ _ h fault hfault => .inr (faultsIn_schema_partsOf ih h fault hfault)
      · exact fun _ _ h fault hfault => .inr (faultsIn_members_partsOf ih h fault hfault)
      · exact fun _ h => faultsIn_named_partsOf ih h
    have hread := hfault
    rw [ofJson_object] at hfault
    rcases bind_eq_error_iff.mp hfault with hkind | ⟨kind, -, hdone⟩
    · rcases hclassify fault hkind with hplace | hlocated
      · -- A fault without steps is one of the object itself.
        obtain ⟨place, defect⟩ := fault
        obtain rfl : place = [] := hplace
        exact ⟨.object fields, rfl, .inl hread⟩
      · exact hlocated
    · cases hdone
  | _ =>
    cases hfault
    exact ⟨_, rfl, .inl rfl⟩
termination_by sizeOf value
decreasing_by
  subst_vars
  assumption

end Schema

namespace Document

variable {value : Json} {fault : Schema.Fault}

theorem placeText_nil (root : String) : placeText root [] = root :=
  String.append_empty

theorem componentsOf_of_ofJson_eq_error (h : ofJson value = .error (.schema fault)) :
    componentsOf value = .error (.schema fault) := by
  cases value with
  | object fields =>
    rcases bind_eq_error_iff.mp h with hcomponents | ⟨components, -, hdone⟩
    · exact hcomponents
    · cases hdone
  | _ => cases h

/-- A faulty schema in a document is in the first component that has one. -/
theorem exists_first_faulty (h : componentsOf value = .error (.schema fault)) :
    ∃ name failing inner, componentValue? value name = some failing ∧
      Schema.ofJson failing = .error inner ∧
      fault = ⟨componentPlace name ++ inner.place, inner.defect⟩ ∧
      ∀ other earlier, componentValue? value other = some earlier → other < name →
        ∃ schema, Schema.ofJson earlier = .ok schema := by
  unfold componentsOf at h
  split at h
  · cases h
  · rename_i listed hlisted
    have hcomponent (name : String) :
        componentValue? value name = (NameMap.ofList listed).find? name := by
      rw [componentValue?, schemasValue?, hlisted, NameMap.find?_ofList]
      rfl
    obtain ⟨name, failing, hfailing, hwithin, hbefore⟩ := NameMap.exists_of_traverse_eq_error h
    rw [mapError_eq_error_iff] at hwithin
    obtain ⟨outer, houter, hschema⟩ := hwithin
    obtain rfl : outer = fault := by injection hschema
    obtain ⟨inner, hinner, rfl⟩ := Schema.within_eq_error_iff.mp houter
    refine ⟨name, failing, inner, (hcomponent name).trans hfailing, hinner, rfl, ?_⟩
    intro other earlier hother hlt
    obtain ⟨schema, hread⟩ := hbefore other earlier ((hcomponent other).symm.trans hother) hlt
    exact ⟨schema, Schema.within_eq_ok_iff.mp (mapError_eq_ok_iff.mp hread)⟩
  · cases h

/-- The fault of a document that cannot be read names its place by a text that leads, from the root
of the document, to a value that cannot be read for the same reason at the same place, or to what
should be the list of a combinator. It is in a component, and all components before that one in the
order of names can be read. -/
theorem reading_fault_locates (h : ofJson value = .error (.schema fault)) :
    let path := placeText "#" fault.place
    (∃ pointer found, path = "#" ++ pointer ∧
      (Pointer.ofText? pointer).bind value.at? = some found ∧
      (Schema.ofJsonAt path found = .error (path, fault.defect.message) ∨
        fault.defect = .compositionNotArray ∧ (∀ values, found ≠ .array values) ∧
          ∃ (outer : Pointer) (owner : Json) (combinator : Combinator),
            fault.place = outer ++ [combinator.keyword] ∧ value.at? outer = some owner ∧
              owner.field? combinator.keyword = some found)) ∧
    ∃ name failing inner, componentValue? value name = some failing ∧
      Schema.ofJson failing = .error inner ∧
      fault = ⟨componentPlace name ++ inner.place, inner.defect⟩ ∧
      ∀ other earlier, componentValue? value other = some earlier → other < name →
        ∃ schema, Schema.ofJson earlier = .ok schema := by
  intro path
  have hcomponents := componentsOf_of_ofJson_eq_error h
  obtain ⟨name, failing, inner, hfailing, hinner, hfault, hbefore⟩ := exists_first_faulty hcomponents
  have hreaches : value.at? (componentPlace name) = some failing := by
    rw [at?_componentPlace (by simp [hcomponents]), hfailing]
  obtain ⟨found, hfound⟩ := Schema.faultsIn_ofJson failing inner hinner
  have hlocates : fault.Locates value found := hfault ▸ hfound.within hreaches
  refine ⟨⟨fault.place.text, found, rfl, ?_, ?_⟩,
    name, failing, inner, hfailing, hinner, hfault, hbefore⟩
  · rw [Pointer.ofText?_text, Option.bind_some, hlocates.reaches]
  · refine hlocates.defective.imp_left fun hown => ?_
    exact mapError_eq_error_iff.mpr ⟨_, hown, by rw [placeText_nil]⟩

/-- A name with a tilde and a slash in it, and below it a text in place of a list of schemas. -/
theorem reading_fault_locates_escaped :
    let value : Json := .object [("components", .object [("schemas", .object
      [("~", .object [("properties", .object
        [("a~/b", .object [("anyOf", .string "none")])])]), ("Pet", .bool true)])])]
    let fault : Schema.Fault :=
      ⟨["components", "schemas", "~", "properties", "a~/b", "anyOf"], .compositionNotArray⟩
    let path := placeText "#" fault.place
    ofJson value = .error (.schema fault) ∧
    path = "#/components/schemas/~0/properties/a~0~1b/anyOf" ∧
    (∃ pointer found, path = "#" ++ pointer ∧
      (Pointer.ofText? pointer).bind value.at? = some found ∧
      (Schema.ofJsonAt path found = .error (path, fault.defect.message) ∨
        fault.defect = .compositionNotArray ∧ (∀ values, found ≠ .array values) ∧
          ∃ (outer : Pointer) (owner : Json) (combinator : Combinator),
            fault.place = outer ++ [combinator.keyword] ∧ value.at? outer = some owner ∧
              owner.field? combinator.keyword = some found)) ∧
    ∃ name failing inner, componentValue? value name = some failing ∧
      Schema.ofJson failing = .error inner ∧
      fault = ⟨componentPlace name ++ inner.place, inner.defect⟩ ∧
      ∀ other earlier, componentValue? value other = some earlier → other < name →
        ∃ schema, Schema.ofJson earlier = .ok schema := by
  intro value fault path
  have hread : ofJson value = .error (.schema fault) := rfl
  exact ⟨hread, by decide +kernel, reading_fault_locates hread⟩

end Document

end SchemaCatalog

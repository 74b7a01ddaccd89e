import SchemaCatalog.Proofs.Nodes

/-!
A walk follows the findings of its schema: it takes the step of one node after another until it
comes to a fault. Walks are a lawful monad, so a walk over a list can be split where the list is.
-/
namespace SchemaCatalog

namespace Walk

variable {α β : Type}

@[simp] theorem steps_pure (value : α) : (pure value : Walk α).steps = [] := rfl

theorem bind_ok (steps : List Step) (value : α) (next : α → Walk β) :
    (⟨steps, .ok value⟩ : Walk α) >>= next =
      ⟨steps ++ (next value).steps, (next value).outcome⟩ := rfl

theorem bind_error (steps : List Step) (fault : WalkFault) (next : α → Walk β) :
    (⟨steps, .error fault⟩ : Walk α) >>= next = ⟨steps, .error fault⟩ := rfl

private theorem map_id_eq (walk : Walk α) : id <$> walk = walk := by
  obtain ⟨steps, fault | value⟩ := walk
  · rfl
  · change (⟨steps ++ [], .ok value⟩ : Walk α) = _
    rw [List.append_nil]

private theorem bind_bind_eq {γ : Type} (walk : Walk α) (f : α → Walk β) (g : β → Walk γ) :
    walk >>= f >>= g = walk >>= fun value => f value >>= g := by
  obtain ⟨steps, fault | value⟩ := walk
  · rfl
  · rw [bind_ok]
    cases hvalue : f value with
    | mk more outcome =>
      cases outcome with
      | error fault => simp only [bind_ok, bind_error, hvalue]
      | ok middle => simp only [bind_ok, hvalue, List.append_assoc]

instance : LawfulMonad Walk := .mk' Walk map_id_eq (fun _ _ => rfl) bind_bind_eq

theorem bind_pure_eq (walk : Walk α) (value : β) :
    (walk >>= fun _ => pure value) = ⟨walk.steps, walk.outcome.map fun _ => value⟩ := by
  obtain ⟨steps, fault | _⟩ := walk
  · rfl
  · rw [bind_ok, steps_pure, List.append_nil]
    rfl

@[simp] theorem within_pure (place : Pointer) (value : α) :
    (pure value : Walk α).within place = pure value := rfl

@[simp] theorem within_bind (place : Pointer) (walk : Walk α) (next : α → Walk β) :
    (walk >>= next).within place =
      walk.within place >>= fun value => (next value).within place := by
  obtain ⟨steps, fault | value⟩ := walk
  · rfl
  · rfl

end Walk

namespace Finding

/-- The part of a walk that a finding stands for. -/
def walk (settings : Settings) : Finding → Walk Unit
  | .ok node => ⟨(node.step settings).toList, .ok ()⟩
  | .error fault => .stop fault

theorem walk_within (settings : Settings) (place : Pointer) (finding : Finding) :
    (finding.within place).walk settings = (finding.walk settings).within place := by
  cases finding <;> rfl

end Finding

/-- One finding after another, up to the first fault. -/
def Walk.follow (settings : Settings) (findings : List Finding) : Walk Unit :=
  findings.forM (·.walk settings)

namespace Walk

variable {α β : Type} (settings : Settings)

theorem follow_cons (finding : Finding) (rest : List Finding) :
    follow settings (finding :: rest) = finding.walk settings >>= fun _ => follow settings rest :=
  rfl

theorem follow_append (xs ys : List Finding) :
    follow settings (xs ++ ys) = follow settings xs >>= fun _ => follow settings ys := by
  induction xs with
  | nil => rfl
  | cons x xs ih => rw [List.cons_append, follow_cons, ih, follow_cons, bind_assoc]

/-- A walk takes the steps of the nodes that it reaches, and ends in the first fault. -/
theorem follow_eq (findings : List Finding) :
    follow settings findings =
      ⟨(Finding.reached findings).filterMap (·.step settings), Finding.outcome findings⟩ := by
  induction findings with
  | nil => rfl
  | cons finding rest ih =>
    cases finding with
    | error fault => rfl
    | ok node =>
      rw [follow_cons, ih, Finding.walk, bind_ok, Finding.reached]
      cases hstep : node.step settings with
      | none =>
        rw [List.filterMap_cons_none hstep]
        rfl
      | some step =>
        rw [List.filterMap_cons_some hstep]
        rfl

theorem follow_map_within (place : Pointer) (findings : List Finding) :
    follow settings (findings.map (·.within place)) = (follow settings findings).within place := by
  induction findings with
  | nil => rfl
  | cons x xs ih => rw [List.map_cons, follow_cons, ih, follow_cons, within_bind, x.walk_within]

theorem mapM_congr {items : List α} {walk other : α → Walk β}
    (h : ∀ item ∈ items, walk item = other item) : items.mapM walk = items.mapM other := by
  induction items with
  | nil => rfl
  | cons item rest ih =>
    have hrest := ih fun next hnext => h next (List.mem_cons_of_mem item hnext)
    rw [List.mapM_cons, List.mapM_cons, h item List.mem_cons_self, hrest]

/-- Walks over the members of a list that each follow findings follow all of them in a row. -/
theorem mapM_eq_follow {items : List α} {walk : α → Walk β} (findings : α → List Finding)
    (value : α → β)
    (h : ∀ item ∈ items,
      walk item = follow settings (findings item) >>= fun _ => pure (value item)) :
    items.mapM walk =
      follow settings (items.flatMap findings) >>= fun _ => pure (items.map value) := by
  induction items with
  | nil => rfl
  | cons item rest ih =>
    have hrest := ih fun other hother => h other (List.mem_cons_of_mem item hother)
    rw [List.mapM_cons, h item List.mem_cons_self, hrest, List.flatMap_cons, follow_append]
    simp only [bind_assoc, pure_bind, List.map_cons]

end Walk

namespace Schema

variable (settings : Settings)

/-- How a property is visited. -/
def visit (name property : String) (schema : Schema) : Visit :=
  ⟨schema.description, schema.walk settings (Naming.propertyName name property)⟩

theorem visits_eq_map (name : String) (properties : List (String × Schema)) :
    visits settings name properties =
      properties.map fun p => (p.1, visit settings name p.1 p.2) := by
  induction properties with
  | nil => rfl
  | cons p rest ih =>
    obtain ⟨property, schema⟩ := p
    rw [visits, ih, List.map_cons]
    rfl

/-- A schema's walk follows its findings and ends with its registration. -/
def Follows (schema : Schema) : Prop :=
  ∀ name, schema.walk settings name =
    Walk.follow settings (schema.findings settings.naming name) >>= fun _ =>
      pure (schema.registration settings.naming name)

variable {settings}

/-- A walk below a place, as far as it is needed for what is referred to. -/
theorem Follows.within_walk {schema : Schema} (h : schema.Follows settings) (place : Pointer)
    (name : String) :
    (schema.walk settings name).within place =
      Walk.follow settings (Finding.expand settings.naming (.ok ⟨place, name, schema⟩)) >>=
        fun _ => pure (schema.registration settings.naming name) := by
  rw [h name, Walk.within_bind, ← Walk.follow_map_within]
  rfl

theorem walkMembers_eq_follow (name : String) (required : List String)
    {properties : List (String × Schema)}
    (h : ∀ node, .ok node ∈ propertyParts name properties → node.schema.Follows settings) :
    walkMembers required (visits settings name properties) =
      Walk.follow settings
          ((propertyParts name properties).flatMap (·.expand settings.naming)) >>= fun _ =>
        pure (objectMembers settings.naming name required properties) := by
  have hitems : (propertyParts name properties).flatMap (·.expand settings.naming) =
      (NameMap.ofList properties).entries.zipIdx.flatMap fun item =>
        Finding.expand settings.naming (.ok (propertyNode name item.1.1 item.1.2)) := by
    rw [propertyParts, List.flatMap_map,
      ← List.zipIdx_map_fst 0 (NameMap.ofList properties).entries, List.flatMap_map,
      List.zipIdx_map_fst]
  rw [walkMembers, visits_eq_map, NameMap.entries_ofList_map, List.zipIdx_map, List.mapM_map,
    hitems]
  refine Walk.mapM_eq_follow settings _ _ ?_
  rintro ⟨⟨property, schema⟩, position⟩ hitem
  have hschema : schema.Follows settings :=
    h (propertyNode name property schema)
      (List.mem_map_of_mem (List.fst_mem_of_mem_zipIdx hitem))
  simp only [Function.comp_apply, Prod.map_apply, id_eq, visit]
  rw [hschema.within_walk, bind_assoc]
  rfl

/-- The members of an object depend on the last visit of each property and on which of the
properties are required. -/
theorem walkMembers_congr {required names : List String} {visits others : List (String × Visit)}
    (hvisits : ∀ property, NameMap.findLast? property others = NameMap.findLast? property visits)
    (hrequired : ∀ p ∈ visits, (p.1 ∈ names ↔ p.1 ∈ required)) :
    walkMembers names others = walkMembers required visits := by
  have hmap : NameMap.ofList others = NameMap.ofList visits := by
    refine NameMap.eq_of_find?_eq fun property => ?_
    rw [NameMap.find?_ofList, NameMap.find?_ofList, hvisits]
  rw [walkMembers, walkMembers, hmap]
  refine Walk.mapM_congr ?_
  rintro ⟨⟨property, visit⟩, position⟩ hitem
  have hmem : (property, visit) ∈ visits :=
    NameMap.mem_of_find?_ofList_eq_some
      (NameMap.mem_entries_iff.mp (List.fst_mem_of_mem_zipIdx hitem))
  have hcontains : names.contains property = required.contains property := by
    simp only [List.contains_eq_mem, hrequired _ hmem]
  simp only [hcontains]

/-- The walk over one of the schemas that a combinator puts together. -/
def walkMember (settings : Settings) (name : String) (combinator : Combinator) (index : Nat)
    (schema : Schema) : Walk (List (String × Member)) :=
  Walk.within [combinator.keyword, toString index] <|
    match schema.kind with
    | .object properties required _ =>
        walkMembers required (visits settings (Naming.memberName name index) properties)
    | kind => Walk.unsupported (.nonObjectMember combinator kind.name)

theorem walkCombined_cons (name : String) (combinator : Combinator) (index : Nat)
    (schema : Schema) (rest : List Schema) :
    walkCombined settings name combinator index (schema :: rest) =
      walkMember settings name combinator index schema >>= fun members =>
        walkCombined settings name combinator (index + 1) rest >>= fun more =>
          pure (members ++ more) := by
  obtain ⟨kind, description⟩ := schema
  cases kind <;> rfl

theorem walkMember_eq_follow {name : String} {combinator : Combinator} {index : Nat}
    {schema : Schema}
    (h : ∀ node, .ok node ∈ memberParts name combinator index schema →
      node.schema.Follows settings) :
    walkMember settings name combinator index schema =
      Walk.follow settings
          ((memberParts name combinator index schema).flatMap (·.expand settings.naming)) >>=
        fun _ => pure (memberMembers settings.naming name index schema) := by
  obtain ⟨kind, description⟩ := schema
  cases kind with
  | object properties required additional =>
    have hproperties := walkMembers_eq_follow (Naming.memberName name index) required
      fun node hnode => h { node with place := [combinator.keyword, toString index] ++ node.place }
        (List.mem_map.mpr ⟨.ok node, hnode, rfl⟩)
    simp only [walkMember, memberParts, memberMembers]
    rw [hproperties, Walk.within_bind, Finding.flatMap_expand_map_within, Walk.follow_map_within]
    rfl
  | _ => rfl

theorem walkCombined_eq_follow (name : String) (combinator : Combinator) (index : Nat)
    {schemas : List Schema}
    (h : ∀ node, .ok node ∈ combinedParts name combinator index schemas →
      node.schema.Follows settings) :
    walkCombined settings name combinator index schemas =
      Walk.follow settings
          ((combinedParts name combinator index schemas).flatMap (·.expand settings.naming)) >>=
        fun _ => pure (combinedMembers settings.naming name index schemas) := by
  induction schemas generalizing index with
  | nil => rfl
  | cons schema rest ih =>
    rw [combinedParts_cons] at h ⊢
    have hrest := ih (index + 1) fun node hnode => h node (List.mem_append_right _ hnode)
    have hmember := walkMember_eq_follow fun node hnode => h node (List.mem_append_left _ hnode)
    rw [walkCombined_cons, hmember, hrest, List.flatMap_append, Walk.follow_append]
    simp only [bind_assoc, pure_bind]
    rfl

/-- Items that are a reference are walked like others; only the name of the list differs. -/
theorem walk_array (items : Schema) (minItems : Nat) (maxItems : Option Nat)
    (description : Option String) (name : String) :
    walk settings ⟨.array (some items) minItems maxItems, description⟩ name =
      (items.walk settings (settings.naming.split name).element).within ["items"] >>=
        fun element =>
          registerField (typeName settings.naming
              ⟨.array (some items) minItems maxItems, description⟩ name)
            (.list element.typeName (.ofLimits minItems maxItems)) := by
  obtain ⟨kind, _⟩ := items
  cases kind with
  | reference path target => cases target <;> rfl
  | _ => rfl

/-- Every walk follows the findings of its schema. -/
theorem walk_eq_follow (schema : Schema) : schema.Follows settings := by
  induction schema using induction_on_parts settings.naming with
  | node schema ih =>
    intro name
    have ih := ih name
    obtain ⟨kind, description⟩ := schema
    rw [findings_eq, Walk.follow_append, bind_assoc]
    cases kind with
    | object properties required additional =>
      cases additional with
      | values value =>
        obtain ⟨kind, _⟩ := value
        cases kind with
        | reference path target => cases target <;> rfl
        | _ => rfl
      | _ =>
        have hmembers := walkMembers_eq_follow name required ih
        change walkMembers required (visits settings name properties) >>= _ = _
        rw [hmembers, bind_assoc]
        rfl
    | array items minItems maxItems =>
      cases items with
      | none => rfl
      | some items =>
        have hitems : items.Follows settings :=
          ih ⟨["items"], (settings.naming.split name).element, items⟩ (List.mem_singleton_self _)
        rw [walk_array, hitems.within_walk, bind_assoc]
        simp only [parts, List.flatMap_singleton]
        rfl
    | combinator combinator schemas =>
      have hmembers := walkCombined_eq_follow name combinator 0 ih
      change walkCombined settings name combinator 0 schemas >>= _ = _
      rw [hmembers, bind_assoc]
      rfl
    | reference path target => cases target <;> rfl
    | _ => rfl

end Schema

end SchemaCatalog

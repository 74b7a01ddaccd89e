import SchemaCatalog.Proofs.Replay

/-!
What a builder does with a schema replays the walk over the schema. The builder adds members to
one structure on the way and the walk returns them in a list; apart from that each part of a build
stands beside a part of the walk, and the proof goes down both by the nodes below the schema.
-/
namespace SchemaCatalog

namespace Builder

/-- What a property is in a build. -/
def property (name property : String) (schema : Schema) : Property :=
  ⟨schema.description,
    Registration.typeName <$> dispatch schema (Naming.propertyName name property)⟩

/-- The name of a reference's type is what a build would make of the reference. -/
theorem targetName_eq_dispatch (path : String) (target description : Option String)
    (name : String) :
    targetName path target =
      Registration.typeName <$> dispatch ⟨.reference path target, description⟩ name := by
  change _ = Registration.typeName <$>
    (targetName path target >>= fun target => pure ⟨none, target⟩ : Build Registration)
  rw [map_bind]
  simp only [map_pure, bind_pure]

theorem propertiesOf_cons (name key : String) (schema : Schema)
    (rest : List (String × Schema)) :
    propertiesOf name ((key, schema) :: rest) =
      (key, property name key schema) :: propertiesOf name rest := by
  obtain ⟨kind, description⟩ := schema
  cases kind with
  | reference path target =>
    rw [propertiesOf, property, ← targetName_eq_dispatch]
  | _ => rfl

theorem propertiesOf_eq_map (name : String) (properties : List (String × Schema)) :
    propertiesOf name properties = properties.map fun p => (p.1, property name p.1 p.2) := by
  induction properties with
  | nil => rfl
  | cons p rest ih => rw [propertiesOf_cons, ih, List.map_cons]

end Builder

namespace Structure

def insert (record : Structure) (member : String × Member) : Structure :=
  ⟨record.members.insert member.1 member.2⟩

def insertAll (record : Structure) (members : List (String × Member)) : Structure :=
  members.foldl insert record

theorem insertAll_append (record : Structure) (xs ys : List (String × Member)) :
    record.insertAll (xs ++ ys) = (record.insertAll xs).insertAll ys :=
  List.foldl_append

theorem insertAll_empty (members : List (String × Member)) :
    empty.insertAll members = ⟨.ofList members⟩ :=
  List.foldl_hom Structure.mk fun _ _ => rfl

end Structure

namespace Walk

variable {α β : Type}

/-- Members may be added on the way or when all are found. -/
theorem foldlM_insert (walk : α → Walk (String × Member)) (items : List α) (start : Structure) :
    (items.foldlM (fun record item => walk item >>= fun found => pure (record.insert found))
        start) =
      items.mapM walk >>= fun found => pure (start.insertAll found) := by
  induction items generalizing start with
  | nil => rfl
  | cons item rest ih =>
    simp only [List.foldlM_cons, List.mapM_cons, bind_assoc, pure_bind, ih]
    rfl

end Walk

namespace Builder

/-- A schema's build replays its walk. -/
def Replays (schema : Schema) : Prop :=
  ∀ name, dispatch schema name = replay fun settings => schema.walk settings name

theorem addMembers_eq_replay (name : String) (required : List String) (record : Structure)
    {properties : List (String × Schema)}
    (h : ∀ node, .ok node ∈ Schema.propertyParts name properties → Replays node.schema) :
    addMembers record required (propertiesOf name properties) =
      replay fun settings =>
        Schema.walkMembers required (Schema.visits settings name properties) >>= fun members =>
          pure (record.insertAll members) := by
  have hwalk : ∀ settings, Schema.walkMembers required (Schema.visits settings name properties) =
      (NameMap.ofList properties).entries.zipIdx.mapM fun item =>
        (item.1.2.walk settings (Naming.propertyName name item.1.1)).within
            ["properties", item.1.1] >>= fun registration =>
          pure (item.1.1, ⟨registration.typeName, item.2, required.contains item.1.1,
            item.1.2.description⟩) := by
    intro settings
    rw [Schema.walkMembers, Schema.visits_eq_map, NameMap.entries_ofList_map, List.zipIdx_map,
      List.mapM_map]
    rfl
  simp only [hwalk, ← Walk.foldlM_insert]
  rw [addMembers, propertiesOf_eq_map, NameMap.entries_ofList_map, List.zipIdx_map,
    List.foldlM_map]
  refine replay_foldlM ?_ record
  rintro ⟨⟨key, schema⟩, position⟩ hitem record
  have hschema : Replays schema :=
    h (Schema.propertyNode name key schema)
      (List.mem_map_of_mem (List.fst_mem_of_mem_zipIdx hitem))
  simp only [Prod.map_apply, id_eq, property, hschema _, replay_map, replay_within]
  simp only [map_eq_pure_bind, Walk.within_bind, Walk.within_pure, bind_assoc, pure_bind,
    replay_bind, replay_pure]
  rfl

/-- One of the schemas that a combinator puts together, as a part of a build. -/
def addMember (name : String) (combinator : Combinator) (record : Structure) (index : Nat)
    (schema : Schema) : Build Structure :=
  within [combinator.keyword, toString index] <|
    match schema.kind with
    | .object properties required _ =>
        addMembers record required (propertiesOf (Naming.memberName name index) properties)
    | kind => unsupported (.nonObjectMember combinator kind.name)

theorem addCombined_cons (name : String) (combinator : Combinator) (record : Structure)
    (index : Nat) (schema : Schema) (rest : List Schema) :
    addCombined name combinator record index (schema :: rest) =
      addMember name combinator record index schema >>= fun record =>
        addCombined name combinator record (index + 1) rest := by
  obtain ⟨kind, description⟩ := schema
  cases kind <;> rfl

theorem addMember_eq_replay (name : String) (combinator : Combinator) (record : Structure)
    (index : Nat) {schema : Schema}
    (h : ∀ node, .ok node ∈ Schema.memberParts name combinator index schema →
      Replays node.schema) :
    addMember name combinator record index schema =
      replay fun settings =>
        Schema.walkMember settings name combinator index schema >>= fun members =>
          pure (record.insertAll members) := by
  obtain ⟨kind, description⟩ := schema
  cases kind with
  | object properties required additional =>
    have hproperties := addMembers_eq_replay (Naming.memberName name index) required record
      fun node hnode => h { node with place := [combinator.keyword, toString index] ++ node.place }
        (List.mem_map.mpr ⟨.ok node, hnode, rfl⟩)
    simp only [addMember, hproperties, replay_within, Walk.within_bind, Walk.within_pure]
    rfl
  | _ =>
    simp only [addMember, unsupported_eq_replay, replay_within]
    rfl

theorem addCombined_eq_replay (name : String) (combinator : Combinator) (record : Structure)
    (index : Nat) {schemas : List Schema}
    (h : ∀ node, .ok node ∈ Schema.combinedParts name combinator index schemas →
      Replays node.schema) :
    addCombined name combinator record index schemas =
      replay fun settings =>
        Schema.walkCombined settings name combinator index schemas >>= fun members =>
          pure (record.insertAll members) := by
  induction schemas generalizing index record with
  | nil => exact (replay_pure record).symm
  | cons schema rest ih =>
    rw [Schema.combinedParts_cons] at h
    have hrest := fun record => ih record (index + 1) fun node hnode =>
      h node (List.mem_append_right _ hnode)
    have hmember := addMember_eq_replay name combinator record index fun node hnode =>
      h node (List.mem_append_left _ hnode)
    rw [addCombined_cons, hmember]
    simp only [Schema.walkCombined_cons, hrest, bind_assoc, pure_bind, replay_bind, replay_pure,
      Structure.insertAll_append]

/-- A structure is registered when all its members are added. -/
theorem registerAll_eq_replay (name : String) (walk : Settings → Walk (List (String × Member))) :
    (replay fun settings => walk settings >>= fun members =>
        pure (Structure.empty.insertAll members)) >>= registerStructure name =
      replay fun settings => walk settings >>= fun members =>
        Schema.registerStructure name ⟨.ofList members⟩ := by
  simp only [funext (registerStructure_eq_replay name), ← replay_bind, bind_assoc, pure_bind,
    Structure.insertAll_empty]

theorem dispatch_array_eq_replay {items : Schema} (h : Replays items) (minItems : Nat)
    (maxItems : Option Nat) (description : Option String) (name : String) :
    dispatch ⟨.array (some items) minItems maxItems, description⟩ name =
      replay fun settings =>
        Schema.walk settings ⟨.array (some items) minItems maxItems, description⟩ name := by
  obtain ⟨kind, itemsDescription⟩ := items
  cases kind with
  | reference path target =>
    change within ["items"] (targetName path target) >>= _ = _
    simp only [targetName_eq_replay, replay_within, registerField_eq_replay, ← replay_bind]
    rfl
  | _ =>
    change (get >>= fun builder => within ["items"] (dispatch _ _) >>= _ : Build Registration) = _
    simp only [h _, replay_within, registerField_eq_replay, ← replay_bind]
    rfl

/-- Every build of a schema replays the schema's walk. -/
theorem dispatch_eq_replay (schema : Schema) : Replays schema := by
  induction schema using Schema.induction_on_parts .default with
  | node schema ih =>
    intro name
    have ih := ih name
    obtain ⟨kind, description⟩ := schema
    cases kind with
    | object properties required additional =>
      cases additional with
      | values value => exact registerMap_eq_replay name value
      | _ =>
        have hmembers := addMembers_eq_replay name required .empty ih
        change addMembers .empty required (propertiesOf name properties) >>= _ = _
        rw [hmembers, registerAll_eq_replay]
        rfl
    | array items minItems maxItems =>
      cases items with
      | none => exact unsupported_eq_replay _
      | some items =>
        have hitems : Replays items :=
          ih ⟨["items"], (Naming.default.split name).element, items⟩ (List.mem_singleton_self _)
        exact dispatch_array_eq_replay hitems minItems maxItems description name
    | combinator combinator schemas =>
      have hmembers := addCombined_eq_replay name combinator .empty 0 ih
      change addCombined name combinator .empty 0 schemas >>= _ = _
      rw [hmembers, registerAll_eq_replay]
      rfl
    | reference path target =>
      change targetName path target >>= _ = _
      simp only [targetName_eq_replay, ← replay_pure, ← replay_bind]
      rfl
    | fragment => exact unsupported_eq_replay _
    | not schema => exact unsupported_eq_replay _
    | string shape =>
      change (get >>= fun builder => registerField name _ : Build Registration) = _
      simp only [registerField_eq_replay]
      rfl
    | _ => exact registerField_eq_replay name _

theorem run_dispatch (schema : Schema) (name : String) (builder : Builder) :
    (dispatch schema name).run builder = builder.play (schema.walk builder.settings name) := by
  rw [dispatch_eq_replay schema name, replay_run]

theorem note_building_eq_replay (name : String) (title : Option String) :
    note (.building name title) = replay fun _ => Walk.take (.enter name title) := rfl

theorem note_skipping_eq_replay (name : String) :
    note (.skipping name) = replay fun _ => Walk.take (.skip name) := rfl

theorem buildComponent_eq_replay (schema : Schema) (name : String) :
    buildComponent name schema = get >>= fun builder =>
      replay fun settings => schema.walkComponent settings builder.title name := by
  simp only [buildComponent, note_building_eq_replay, dispatch_eq_replay schema name,
    replay_within, ← replay_bind]
  rfl

end Builder

end SchemaCatalog

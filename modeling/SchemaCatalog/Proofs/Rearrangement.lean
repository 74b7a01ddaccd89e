import SchemaCatalog.Proofs.NormalForm

/-!
Rearranged schemas. The properties of an object may have been added in any order, and the names of
those that are required may be listed in any order, more than once, or beside names of no property.
None of it matters to a build, at whatever depth and however often it is done.
-/
namespace SchemaCatalog

namespace Schema

/-- One schema is another but for the order of properties and the lists of required names, in
itself or anywhere below. -/
inductive Rearranged : Schema → Schema → Prop where
  | refl (schema : Schema) : Rearranged schema schema
  | trans {first second third : Schema} (hfirst : Rearranged first second)
      (hsecond : Rearranged second third) : Rearranged first third
  /-- Two neighbours of different names change places. -/
  | swap {before after : List (String × Schema)} {p q : String × Schema} {required : List String}
      {additional : Additional Schema} {description : Option String} (h : p.1 ≠ q.1) :
      Rearranged ⟨.object (before ++ p :: q :: after) required additional, description⟩
        ⟨.object (before ++ q :: p :: after) required additional, description⟩
  /-- Another list requires the same properties. -/
  | required {properties : List (String × Schema)} {required others : List String}
      {additional : Additional Schema} {description : Option String}
      (h : ∀ p ∈ properties, (p.1 ∈ required ↔ p.1 ∈ others)) :
      Rearranged ⟨.object properties required additional, description⟩
        ⟨.object properties others additional, description⟩
  | property {before after : List (String × Schema)} {name : String} {inner other : Schema}
      {required : List String} {additional : Additional Schema} {description : Option String}
      (h : Rearranged inner other) :
      Rearranged ⟨.object (before ++ (name, inner) :: after) required additional, description⟩
        ⟨.object (before ++ (name, other) :: after) required additional, description⟩
  | values {properties : List (String × Schema)} {required : List String} {inner other : Schema}
      {description : Option String} (h : Rearranged inner other) :
      Rearranged ⟨.object properties required (.values inner), description⟩
        ⟨.object properties required (.values other), description⟩
  | items {inner other : Schema} {minItems : Nat} {maxItems : Option Nat}
      {description : Option String} (h : Rearranged inner other) :
      Rearranged ⟨.array (some inner) minItems maxItems, description⟩
        ⟨.array (some other) minItems maxItems, description⟩
  | member {keyword : Combinator} {before after : List Schema} {inner other : Schema}
      {description : Option String} (h : Rearranged inner other) :
      Rearranged ⟨.combinator keyword (before ++ inner :: after), description⟩
        ⟨.combinator keyword (before ++ other :: after), description⟩
  | negated {inner other : Schema} {description : Option String} (h : Rearranged inner other) :
      Rearranged ⟨.not inner, description⟩ ⟨.not other, description⟩

/-- Properties of different names may stand in any order. -/
theorem Rearranged.of_perm {properties others : List (String × Schema)}
    (h : properties.Perm others) (hnames : (properties.map (·.1)).Nodup) (required : List String)
    (additional : Additional Schema) (description : Option String) :
    Rearranged ⟨.object properties required additional, description⟩
      ⟨.object others required additional, description⟩ := by
  -- The neighbours that change places stand behind properties that stay where they are.
  have hbehind : ∀ before : List (String × Schema),
      Rearranged ⟨.object (before ++ properties) required additional, description⟩
        ⟨.object (before ++ others) required additional, description⟩ := by
    induction h with
    | nil => exact fun before => .refl _
    | cons p hrest ih =>
      intro before
      have hbefore := ih (List.nodup_cons.mp hnames).2 (before ++ [p])
      simpa only [List.append_assoc, List.singleton_append] using hbefore
    | swap p q rest =>
      intro before
      have hne : q.1 ≠ p.1 := List.ne_of_not_mem_cons (List.nodup_cons.mp hnames).1
      exact .swap hne
    | trans hfirst hsecond ihfirst ihsecond =>
      intro before
      have hmiddle := (hfirst.map (·.1)).nodup_iff.mp hnames
      exact (ihfirst hnames before).trans (ihsecond hmiddle before)
  exact hbehind []

/-- Whether every build takes two schemas for the same: by themselves, as a member of a combinator
and as the values of a map, as a property with a description, and as the items of a list. -/
structure Alike (settings : Settings) (schema other : Schema) : Prop where
  walk : ∀ name, other.walk settings name = schema.walk settings name
  walkMember : ∀ name combinator index, walkMember settings name combinator index other =
    walkMember settings name combinator index schema
  mapValueName : mapValueName other.kind = mapValueName schema.kind
  description : other.description = schema.description
  isReference : other.isReference = schema.isReference

namespace Alike

variable {settings : Settings} {first second third inner other : Schema}

theorem refl (schema : Schema) : schema.Alike settings schema :=
  ⟨fun _ => rfl, fun _ _ _ => rfl, rfl, rfl, rfl⟩

theorem trans (hfirst : first.Alike settings second) (hsecond : second.Alike settings third) :
    first.Alike settings third where
  walk name := (hsecond.walk name).trans (hfirst.walk name)
  walkMember name combinator index :=
    (hsecond.walkMember name combinator index).trans (hfirst.walkMember name combinator index)
  mapValueName := hsecond.mapValueName.trans hfirst.mapValueName
  description := hsecond.description.trans hfirst.description
  isReference := hsecond.isReference.trans hfirst.isReference

/-- Objects whose properties are visited alike are alike, if they require the same of them. -/
theorem object {properties others : List (String × Schema)} {required names : List String}
    (hvisits : ∀ name property,
      NameMap.findLast? property (visits settings name others) =
        NameMap.findLast? property (visits settings name properties))
    (hrequired : ∀ p ∈ properties, (p.1 ∈ required ↔ p.1 ∈ names))
    (additional : Additional Schema) (description : Option String) :
    Alike settings ⟨.object properties required additional, description⟩
      ⟨.object others names additional, description⟩ := by
  have hmembers : ∀ name, walkMembers names (visits settings name others) =
      walkMembers required (visits settings name properties) := by
    intro name
    refine walkMembers_congr (hvisits name) ?_
    rw [visits_eq_map]
    exact List.forall_mem_map.mpr fun p hp => (hrequired p hp).symm
  refine ⟨fun name => ?_, fun name combinator index => ?_, rfl, rfl, rfl⟩
  · cases additional with
    | values value => rfl
    | _ => rw [walk_object _ _ rfl, walk_object _ _ rfl, hmembers]
  · simp only [Schema.walkMember, hmembers]

theorem property (h : inner.Alike settings other) (before after : List (String × Schema))
    (name : String) (required : List String) (additional : Additional Schema)
    (description : Option String) :
    Alike settings
      ⟨.object (before ++ (name, inner) :: after) required additional, description⟩
      ⟨.object (before ++ (name, other) :: after) required additional, description⟩ := by
  -- The list of required names is held against the names of the properties only.
  refine object (fun outer property => ?_) (fun _ _ => Iff.rfl) additional description
  have hvisit : visit settings outer name other = visit settings outer name inner := by
    rw [visit, visit, h.walk, h.description]
  simp only [visits_eq_map, List.map_append, List.map_cons, hvisit]

theorem values (h : inner.Alike settings other) (properties : List (String × Schema))
    (required : List String) (description : Option String) :
    Alike settings ⟨.object properties required (.values inner), description⟩
      ⟨.object properties required (.values other), description⟩ := by
  refine ⟨fun name => ?_, fun _ _ _ => rfl, rfl, rfl, rfl⟩
  change walkMap name other = walkMap name inner
  rw [walkMap, walkMap, h.mapValueName]

theorem items (h : inner.Alike settings other) (minItems : Nat) (maxItems : Option Nat)
    (description : Option String) :
    Alike settings ⟨.array (some inner) minItems maxItems, description⟩
      ⟨.array (some other) minItems maxItems, description⟩ := by
  refine ⟨fun name => ?_, fun _ _ _ => rfl, rfl, rfl, rfl⟩
  have htype : typeName settings.naming ⟨.array (some other) minItems maxItems, description⟩ name =
      typeName settings.naming ⟨.array (some inner) minItems maxItems, description⟩ name := by
    simp only [typeName, h.isReference]
  rw [walk_array, walk_array, h.walk, htype]

theorem member (h : inner.Alike settings other) (keyword : Combinator)
    (before after : List Schema) (description : Option String) :
    Alike settings ⟨.combinator keyword (before ++ inner :: after), description⟩
      ⟨.combinator keyword (before ++ other :: after), description⟩ := by
  have hcombined : ∀ name index,
      walkCombined settings name keyword index (before ++ other :: after) =
        walkCombined settings name keyword index (before ++ inner :: after) := by
    intro name
    induction before with
    | nil =>
      intro index
      rw [List.nil_append, List.nil_append, walkCombined_cons, walkCombined_cons, h.walkMember]
    | cons schema rest ih =>
      intro index
      rw [List.cons_append, List.cons_append, walkCombined_cons, walkCombined_cons, ih]
  refine ⟨fun name => ?_, fun _ _ _ => rfl, rfl, rfl, rfl⟩
  change walkCombined settings name keyword 0 (before ++ other :: after) >>= _ = _
  rw [hcombined]
  rfl

end Alike

/-- Builds take a schema for the same when it is rearranged. -/
theorem Rearranged.alike {schema other : Schema} (h : schema.Rearranged other)
    (settings : Settings) : schema.Alike settings other := by
  induction h with
  | refl schema => exact .refl schema
  | trans _ _ ihfirst ihsecond => exact ihfirst.trans ihsecond
  | swap hne =>
    refine .object (fun outer property => ?_) (fun _ _ => Iff.rfl) _ _
    simp only [visits_eq_map, List.map_append, List.map_cons]
    refine NameMap.findLast?_swap ?_ _ _ _
    exact hne.symm
  | required hrequired => exact .object (fun _ _ => rfl) hrequired _ _
  | property _ ih => exact ih.property _ _ _ _ _ _
  | values _ ih => exact ih.values _ _ _
  | items _ ih => exact ih.items _ _ _
  | member _ ih => exact ih.member _ _ _ _
  | negated _ _ => exact ⟨fun _ => rfl, fun _ _ _ => rfl, rfl, rfl, rfl⟩

end Schema

namespace Document

/-- One document has the components of another, each of them rearranged. -/
structure Rearranged (document other : Document) : Prop where
  title : other.title = document.title
  components : List.Forall₂ (fun p q => q.1 = p.1 ∧ p.2.Rearranged q.2)
    document.components.entries other.components.entries

variable {document other : Document}

theorem Rearranged.walkSelected (htitle : other.title = document.title) {name : String}
    {schema rearranged : Schema} (h : schema.Rearranged rearranged) (options : Options) :
    other.walkSelected options name rearranged = document.walkSelected options name schema := by
  rw [Document.walkSelected, Document.walkSelected, Schema.walkComponent, Schema.walkComponent,
    (h.alike options.settings).walk, htitle]

theorem Rearranged.walk (h : document.Rearranged other) (options : Options) :
    other.walk options = document.walk options := by
  obtain ⟨htitle, hcomponents⟩ := h
  rw [Document.walk, Document.walk]
  generalize document.components.entries = entries, other.components.entries = others
    at hcomponents ⊢
  induction hcomponents with
  | nil => rfl
  | @cons p q _ _ hentry _ ih =>
    obtain ⟨hname, hschema⟩ := hentry
    have hfirst : other.walkSelected options q.1 q.2 = document.walkSelected options p.1 p.2 := by
      rw [hname, walkSelected htitle hschema]
    exact congrArg₂ (fun walk (next : Walk PUnit) => walk >>= fun _ => next) hfirst ih

/-- The order in which a document was put together does not matter. However the properties of its
objects and the names that they require are rearranged, a build ends in the same catalog or in the
same fault at the same place, and logs the same on the way. -/
theorem build_of_rearranged (h : document.Rearranged other) (options : Options) :
    other.build options = document.build options ∧
      other.buildLog options = document.buildLog options := by
  have hbuild : other.build options = document.build options := by
    rw [build_eq_walk, build_eq_walk, h.walk]
  refine ⟨hbuild, ?_⟩
  rw [buildLog_eq_walk, buildLog_eq_walk, hbuild, h.walk, h.title]

/-- The object inside has its properties the other way round, and the one around it requires the
same of them in another order, one twice, with a name that is none of them. -/
theorem build_of_rearranged_nested :
    let flag : Schema := ⟨.boolean, none⟩
    let tag (properties : List (String × Schema)) : Schema :=
      ⟨.object properties ["old"] .undeclared, none⟩
    let pet (tag : Schema) (required : List String) : Schema :=
      ⟨.object [("id", flag), ("tag", tag)] required .undeclared, none⟩
    let document := empty.withComponent "Pet"
      (pet (tag [("new", flag), ("old", flag)]) ["tag", "id"])
    let other := empty.withComponent "Pet"
      (pet (tag [("old", flag), ("new", flag)]) ["id", "tag", "id", "name"])
    document.Rearranged other ∧ other.build .default = document.build .default ∧
      other.buildLog .default = document.buildLog .default := by
  intro flag tag pet document other
  have htag : (tag [("new", flag), ("old", flag)]).Rearranged
      (tag [("old", flag), ("new", flag)]) :=
    .of_perm (.swap _ _ _) (by decide) ["old"] .undeclared none
  have hrequired : (pet (tag [("old", flag), ("new", flag)]) ["tag", "id"]).Rearranged
      (pet (tag [("old", flag), ("new", flag)]) ["id", "tag", "id", "name"]) :=
    .required (by simp)
  have hinside : (pet (tag [("new", flag), ("old", flag)]) ["tag", "id"]).Rearranged
      (pet (tag [("old", flag), ("new", flag)]) ["tag", "id"]) :=
    @Schema.Rearranged.property [("id", flag)] [] "tag" _ _ ["tag", "id"] .undeclared none htag
  have hdocument : document.Rearranged other :=
    ⟨rfl, .cons ⟨rfl, hinside.trans hrequired⟩ .nil⟩
  exact ⟨hdocument, build_of_rearranged hdocument .default⟩

end Document

end SchemaCatalog

import SchemaCatalog.Proofs.Children
import SchemaCatalog.Proofs.Structures

/-!
Combinators and their structures. A combinator becomes one structure with the properties of all its
members. Where several members declare a property the last of them counts, for the type as for the
number, the flag and the text; but every property of every member is registered all the same. Which
of the keywords is used, and what the members say about further properties, makes no difference.
-/
namespace SchemaCatalog

open Builder

namespace Schema

/-- Two object schemas that differ in nothing but what they say about further properties and in
their descriptions. -/
def SameProperties (member other : Schema) : Prop :=
  ∃ properties required additional clause description text,
    member = ⟨.object properties required additional, description⟩ ∧
      other = ⟨.object properties required clause, text⟩

variable {settings : Settings} {naming : Naming} {name property : String} {members : List Schema}

theorem SupportedMember.of_sameProperties {member other : Schema} (h : member.SupportedMember)
    (hsame : member.SameProperties other) : other.SupportedMember := by
  obtain ⟨properties, required, additional, clause, description, text, rfl, rfl⟩ := hsame
  exact h

theorem supportedMember_of_forall {properties : List (String × Schema)} {required : List String}
    {additional : Additional Schema} {description : Option String}
    (h : ∀ p ∈ properties, p.2.Supported) :
    SupportedMember ⟨.object properties required additional, description⟩ :=
  ⟨rfl, fun _ _ hfind => h _ (NameMap.mem_of_find?_ofList_eq_some hfind)⟩

theorem sameProperties_self {member : Schema} (h : member.isObject) :
    member.SameProperties member := by
  obtain ⟨kind, description⟩ := member
  cases kind with
  | object properties required additional => exact ⟨_, _, _, _, _, _, rfl, rfl⟩
  | _ => cases h

theorem supportedMember_of_forall₂ {others : List Schema}
    (hsame : List.Forall₂ SameProperties members others)
    (h : ∀ member ∈ members, member.SupportedMember) : ∀ other ∈ others, other.SupportedMember := by
  induction hsame with
  | nil => exact h
  | cons hfirst _ ih =>
    obtain ⟨hmember, hrest⟩ := List.forall_mem_cons.mp h
    exact List.forall_mem_cons.mpr ⟨hmember.of_sameProperties hfirst, ih hrest⟩

/-- A combinator puts the same members together and registers the same properties if its members
have the same properties. -/
theorem combined_eq_of_sameProperties {others : List Schema}
    (h : List.Forall₂ SameProperties members others) (index : Nat) :
    combinedMembers settings.naming name index others =
        combinedMembers settings.naming name index members ∧
      ((others.zipIdx index).flatMap fun (member, index) =>
          memberRegistrations settings name index member) =
        (members.zipIdx index).flatMap fun (member, index) =>
          memberRegistrations settings name index member := by
  induction h generalizing index with
  | nil => exact ⟨rfl, rfl⟩
  | cons hsame _ ih =>
    obtain ⟨properties, required, additional, clause, description, text, rfl, rfl⟩ := hsame
    obtain ⟨hmembers, hregistrations⟩ := ih (index + 1)
    rw [combinedMembers, combinedMembers] at *
    simp only [List.zipIdx_cons, List.flatMap_cons, hmembers, hregistrations]
    exact ⟨rfl, rfl⟩

theorem supported_of_members (combinator : Combinator) (description : Option String)
    (h : ∀ member ∈ members, member.SupportedMember) :
    Supported ⟨.combinator combinator members, description⟩ :=
  .combinator (fun member hmember => (h member hmember).1)
    fun member hmember => (h member hmember).2

theorem isSome_memberMembers (naming : Naming) (name : String) (index : Nat) (member : Schema)
    (property : String) :
    (NameMap.findLast? property (memberMembers naming name index member)).isSome =
      (member.property? property).isSome := by
  have htype : (NameMap.findLast? property (memberMembers naming name index member)).map
      (·.typeName) = _ := typeName_memberMembers index member property
  have hsome := congrArg Option.isSome htype
  rwa [Option.isSome_map, Option.isSome_map] at hsome

theorem isSome_combinedMembers (index : Nat) (property : String) :
    (NameMap.findLast? property (combinedMembers naming name index members)).isSome ↔
      ∃ member ∈ members, (member.property? property).isSome := by
  induction members generalizing index with
  | nil => simp [combinedMembers, NameMap.findLast?]
  | cons member rest ih =>
    have hcons : combinedMembers naming name index (member :: rest) =
        memberMembers naming name index member ++ combinedMembers naming name (index + 1) rest :=
      rfl
    rw [hcons, NameMap.findLast?_append, Option.isSome_or, isSome_memberMembers, Bool.or_eq_true,
      ih, List.exists_mem_cons_iff, or_comm]

/-- The last member that declares a property is the one that counts. -/
theorem findLast?_combinedMembers {index : Nat} {member : Schema}
    (hmember : members[index]? = some member) (hdeclares : (member.property? property).isSome)
    (hlater : ∀ later other, index < later → members[later]? = some other →
      other.property? property = none) (start : Nat) :
    NameMap.findLast? property (combinedMembers naming name start members) =
      NameMap.findLast? property (memberMembers naming name (start + index) member) := by
  induction members generalizing index start with
  | nil => cases hmember
  | cons first rest ih =>
    have hcons : combinedMembers naming name start (first :: rest) =
        memberMembers naming name start first ++ combinedMembers naming name (start + 1) rest := rfl
    rw [hcons, NameMap.findLast?_append]
    cases index with
    | zero =>
      obtain rfl : first = member := Option.some.inj hmember
      have hnone : NameMap.findLast? property (combinedMembers naming name (start + 1) rest) =
          none := by
        rw [← Option.not_isSome_iff_eq_none, isSome_combinedMembers]
        rintro ⟨other, hother, hsome⟩
        obtain ⟨later, hfound⟩ := List.mem_iff_getElem?.mp hother
        rw [hlater (later + 1) other (by omega) hfound] at hsome
        cases hsome
      rw [hnone, Option.none_or, Nat.add_zero]
    | succ index =>
      have hrest := ih hmember (fun later other hlt hother =>
        hlater (later + 1) other (by omega) hother) (start + 1)
      have hplace : start + 1 + index = start + (index + 1) := by omega
      rw [hplace] at hrest
      have hsome := (isSome_memberMembers naming name (start + (index + 1)) member
        property).trans hdeclares
      rw [hrest, Option.or_of_isSome hsome]

end Schema

namespace Builder

open Schema

/-- What a combinator of objects comes to, on any builder. -/
theorem structure_of_combinator (combinator : Combinator) (members : List Schema)
    (description : Option String) (name : String) (builder : Builder)
    (h : ∀ member ∈ members, member.SupportedMember) :
    ∃ record after,
      (dispatch ⟨.combinator combinator members, description⟩ name).run builder =
          (.ok ⟨some name, name⟩, after) ∧
      after.catalog.structure? name = some record ∧
      (∀ property, property ∈ record.members.names ↔
        ∃ member ∈ members, (member.property? property).isSome) ∧
      (∀ index properties required additional inner property schema,
        members[index]? = some ⟨.object properties required additional, inner⟩ →
        (NameMap.ofList properties).find? property = some schema →
        (∀ later other, index < later → members[later]? = some other →
          other.property? property = none) →
        ∃ member, record.members.find? property = some member ∧
          member.StandsFor builder.settings (Naming.memberName name index) (.ofList properties)
            required property schema) ∧
      record.ordered.Perm record.members.entries ∧ record.ordered.Pairwise Structure.Before ∧
      after.catalog = builder.catalog.applyAll
        ((members.zipIdx.flatMap fun (member, index) =>
          memberRegistrations builder.settings name index member) ++ [.structure name record]) ∧
      ∀ keyword others text, List.Forall₂ SameProperties members others →
        (dispatch ⟨.combinator keyword others, text⟩ name).run builder =
          (.ok ⟨some name, name⟩, after) := by
  let made := combinedMembers builder.settings.naming name 0 members
  let steps := (members.zipIdx.flatMap fun (member, index) =>
    memberRegistrations builder.settings name index member) ++ [.structure name ⟨.ofList made⟩]
  have hrun : ∀ keyword others text, List.Forall₂ SameProperties members others →
      (dispatch ⟨.combinator keyword others, text⟩ name).run builder =
        (.ok ⟨some name, name⟩, builder.after steps) := by
    intro keyword others text hsame
    have hothers := supportedMember_of_forall₂ hsame h
    have hsupported := supported_of_members keyword text hothers
    obtain ⟨hmembers, hregistrations⟩ := combined_eq_of_sameProperties hsame 0
    rw [run_dispatch_eq_after hsupported, registrations_combinator hsupported, hmembers,
      hregistrations]
    rfl
  have hself : List.Forall₂ SameProperties members members :=
    List.forall₂_same.mpr fun member hmember => sameProperties_self (h member hmember).1
  refine ⟨⟨.ofList made⟩, builder.after steps, hrun _ _ _ hself, ?_, ?_, ?_, ?_, ?_, rfl, hrun⟩
  · exact Catalog.structure?_applyAll_concat builder.catalog _ name _
  · intro property
    rw [NameMap.mem_names_iff, NameMap.find?_ofList]
    exact isSome_combinedMembers 0 property
  · intro index properties required additional inner property schema hmember hfind hlater
    have hschema : schema.Supported := (h _ (List.mem_of_getElem? hmember)).2 property schema hfind
    obtain ⟨member, hfound, -, hstands⟩ := exists_member_of_property builder.settings
      (Naming.memberName name index) required hfind hschema
    refine ⟨member, ?_, hstands⟩
    have hdeclares : (property? ⟨.object properties required additional, inner⟩ property).isSome :=
      Option.isSome_iff_exists.mpr ⟨schema, hfind⟩
    rw [NameMap.find?_ofList] at hfound ⊢
    rw [findLast?_combinedMembers hmember hdeclares hlater, Nat.zero_add]
    exact hfound
  · exact Structure.ordered_perm _
  · exact Structure.ordered_pairwise _

/-- Two objects that both declare an identifier: the second counts, whatever it allows besides. -/
theorem structure_of_combinator_shared :
    let first : Schema := ⟨.object [("id", ⟨.boolean, some "Old."⟩), ("name", ⟨.boolean, none⟩)] []
      .undeclared, none⟩
    let second : Schema := ⟨.object [("id", ⟨.boolean, some "New."⟩)] ["id"] .undeclared, none⟩
    let closed : Schema := ⟨.object [("id", ⟨.boolean, some "New."⟩)] ["id"] (.allowed false), none⟩
    let builder := start ⟨.default, none⟩ none .empty
    (∀ member ∈ [first, second], member.SupportedMember) ∧ ∃ record after,
      (dispatch ⟨.combinator .allOf [first, second], none⟩ "Pet").run builder =
          (.ok ⟨some "Pet", "Pet"⟩, after) ∧
      (dispatch ⟨.combinator .oneOf [first, closed], none⟩ "Pet").run builder =
          (.ok ⟨some "Pet", "Pet"⟩, after) ∧
      after.catalog.structure? "Pet" = some record ∧
      ∃ member, record.members.find? "id" = some member ∧ member.position = 0 ∧ member.required ∧
        member.documentation = some "New." ∧
        ((dispatch ⟨.boolean, some "New."⟩ "Pet2Id").run builder).1 =
          .ok ⟨some member.typeName, member.typeName⟩ := by
  intro first second closed builder
  have hmembers : ∀ member ∈ [first, second], member.SupportedMember := by
    have hfirst : first.SupportedMember := supportedMember_of_forall (by
      simp only [List.forall_mem_cons, List.not_mem_nil, false_implies, implies_true, and_true]
      exact ⟨.boolean, .boolean⟩)
    have hsecond : second.SupportedMember := supportedMember_of_forall (by
      simp only [List.forall_mem_cons, List.not_mem_nil, false_implies, implies_true, and_true]
      exact .boolean)
    simp only [List.forall_mem_cons, List.not_mem_nil, false_implies, implies_true, and_true]
    exact ⟨hfirst, hsecond⟩
  obtain ⟨record, after, hrun, hrecord, -, hlast, -, -, -, hsame⟩ :=
    structure_of_combinator .allOf [first, second] none "Pet" builder hmembers
  have hfind : (NameMap.ofList [("id", (⟨.boolean, some "New."⟩ : Schema))]).find? "id" =
      some ⟨.boolean, some "New."⟩ := by
    rw [NameMap.find?_ofList]
    rfl
  have hlater : ∀ later other, 1 < later → [first, second][later]? = some other →
      other.property? "id" = none := by
    intro later other hlt hother
    rw [List.getElem?_eq_none hlt] at hother
    cases hother
  obtain ⟨member, hmember, hstands⟩ := hlast 1 _ _ _ _ "id" _ rfl hfind hlater
  have hproposed : Naming.propertyName (Naming.memberName "Pet" 1) "id" = "Pet2Id" := by
    decide +kernel
  have hclosed : List.Forall₂ SameProperties [first, second] [first, closed] :=
    .cons (sameProperties_self rfl) (.cons ⟨_, _, _, _, _, _, rfl, rfl⟩ .nil)
  refine ⟨hmembers, record, after, hrun, hsame .oneOf _ none hclosed, hrecord, member, hmember,
    ?_, ?_, hstands.documentation, ?_⟩
  · rw [hstands.position]
    decide +kernel
  · rw [hstands.required]
    decide
  · rw [← hproposed]
    exact hstands.registered rfl builder rfl

end Builder

end SchemaCatalog

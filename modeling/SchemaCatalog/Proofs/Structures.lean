import SchemaCatalog.Proofs.ComponentTypes
import SchemaCatalog.Proofs.Registrations

/-!
Objects and their structures. An object becomes a structure with one member for each property:
members stand in the order of their names and are numbered in this order, so sorting them by
position changes nothing. A member's type is what the property is registered as, and that is under
the name proposed for the property unless a list takes the plural of it.
-/
namespace SchemaCatalog

namespace NameMap

variable {α : Type}

theorem entries_ofList {entries : List (String × α)}
    (h : entries.Pairwise fun a b => a.1 < b.1) : (ofList entries).entries = entries :=
  congrArg NameMap.entries (ofList_entries ⟨entries, h⟩)

theorem names_ascending (m : NameMap α) : m.names.Pairwise (· < ·) :=
  List.pairwise_map.mpr m.ascending

end NameMap

/-- In ascending order as many texts are smaller than another as stand before it. -/
theorem length_filter_lt {xs : List String} (h : xs.Pairwise (· < ·)) {index : Nat} {x : String}
    (hx : xs[index]? = some x) : (xs.filter (· < x)).length = index := by
  induction xs generalizing index with
  | nil => cases hx
  | cons y rest ih =>
    obtain ⟨hfirst, hrest⟩ := List.pairwise_cons.mp h
    cases index with
    | zero =>
      obtain rfl : y = x := Option.some.inj hx
      have hnone : ∀ z ∈ y :: rest, ¬ z < y := by
        intro z hz
        rcases List.mem_cons.mp hz with rfl | hz
        · exact String.lt_irrefl z
        · exact String.lt_asymm (hfirst z hz)
      rw [List.filter_eq_nil_iff.mpr (by simpa using hnone), List.length_nil]
    | succ index =>
      rw [List.getElem?_cons_succ] at hx
      have hlt : y < x := hfirst x (List.mem_of_getElem? hx)
      rw [List.filter_cons_of_pos (by simpa using hlt), List.length_cons, ih hrest hx]

namespace Structure

/-- The order of members: by position, and by name where positions agree. -/
def Before (a b : String × Member) : Prop :=
  a.2.position < b.2.position ∨ a.2.position = b.2.position ∧ a.1 < b.1

/-- What members are sorted by. -/
def notAfter (a b : String × Member) : Bool :=
  a.2.position < b.2.position || (a.2.position == b.2.position && a.1 ≤ b.1)

theorem notAfter_iff {a b : String × Member} :
    notAfter a b ↔ a.2.position < b.2.position ∨ a.2.position = b.2.position ∧ a.1 ≤ b.1 := by
  simp [notAfter]

theorem notAfter_trans (a b c : String × Member) (hab : notAfter a b) (hbc : notAfter b c) :
    notAfter a c := by
  rw [notAfter_iff] at hab hbc ⊢
  rcases hab with hab | ⟨hab, hnames⟩
  · omega
  · rcases hbc with hbc | ⟨hbc, hmore⟩
    · omega
    · exact .inr ⟨hab.trans hbc, String.le_trans hnames hmore⟩

theorem notAfter_total (a b : String × Member) : notAfter a b || notAfter b a := by
  rw [Bool.or_eq_true, notAfter_iff, notAfter_iff]
  rcases Nat.lt_trichotomy a.2.position b.2.position with hlt | heq | hlt
  · exact .inl (.inl hlt)
  · rcases String.le_total a.1 b.1 with hab | hba
    · exact .inl (.inr ⟨heq, hab⟩)
    · exact .inr (.inr ⟨heq.symm, hba⟩)
  · exact .inr (.inl hlt)

theorem before_of_notAfter {a b : String × Member} (h : notAfter a b) (hne : a.1 ≠ b.1) :
    Before a b := by
  rcases notAfter_iff.mp h with hlt | ⟨heq, hnames⟩
  · exact .inl hlt
  · refine .inr ⟨heq, ?_⟩
    by_contra hge
    exact hne (String.le_antisymm hnames (String.not_lt.mp hge))

variable (record : Structure)

theorem ordered_perm : record.ordered.Perm record.members.entries := List.mergeSort_perm _ _

/-- The members stand in their order, each once. -/
theorem ordered_pairwise : record.ordered.Pairwise Before := by
  have hsorted : record.ordered.Pairwise fun a b => notAfter a b :=
    List.pairwise_mergeSort notAfter_trans notAfter_total record.members.entries
  have hnames : record.ordered.Pairwise fun a b => a.1 ≠ b.1 := by
    have hentries : record.members.entries.Pairwise fun a b => a.1 ≠ b.1 :=
      record.members.ascending.imp String.ne_of_lt
    exact (record.ordered_perm.pairwise_iff fun h => h.symm).mpr hentries
  exact (hsorted.and hnames).imp fun ⟨hle, hne⟩ => before_of_notAfter hle hne

end Structure

/-- That a member is made of a property with the name `outer` around it. It is numbered by the
smaller names among the properties that are declared with it, and its type is what the property
refers to or is registered as, by any builder with the same settings. -/
structure Member.StandsFor (member : Member) (settings : Settings) (outer : String)
    (declared : NameMap Schema) (required : List String) (property : String) (schema : Schema) :
    Prop where
  position : member.position = (declared.names.filter (· < property)).length
  required : member.required = required.contains property
  documentation : member.documentation = schema.description
  reference : ∀ path target, schema.kind = .reference path target → target = some member.typeName
  registered : schema.isReference = false → ∀ builder : Builder, builder.settings = settings →
    ((Builder.dispatch schema (Naming.propertyName outer property)).run builder).1 =
      .ok ⟨some member.typeName, member.typeName⟩

namespace Schema

variable {settings : Settings} {outer property : String} {required : List String}
  {properties : List (String × Schema)} {schema : Schema}

theorem names_objectMembers (naming : Naming) (outer : String) (required : List String)
    (properties : List (String × Schema)) :
    (objectMembers naming outer required properties).map (·.1) =
      (NameMap.ofList properties).names := by
  rw [objectMembers, List.map_map, NameMap.names,
    ← List.zipIdx_map_fst 0 (NameMap.ofList properties).entries, List.map_map,
    List.zipIdx_map_fst]
  rfl

theorem entries_objectMembers (naming : Naming) (outer : String) (required : List String)
    (properties : List (String × Schema)) :
    (NameMap.ofList (objectMembers naming outer required properties)).entries =
      objectMembers naming outer required properties := by
  refine NameMap.entries_ofList (List.pairwise_map.mp ?_)
  rw [names_objectMembers]
  exact NameMap.names_ascending _

theorem exists_member_of_property (settings : Settings) (outer : String) (required : List String)
    (hfind : (NameMap.ofList properties).find? property = some schema)
    (hsupported : schema.Supported) :
    ∃ member,
      (NameMap.ofList (objectMembers settings.naming outer required properties)).find? property =
          some member ∧
        member.typeName = schema.typeName settings.naming (Naming.propertyName outer property) ∧
        member.StandsFor settings outer (.ofList properties) required property schema := by
  obtain ⟨index, hindex⟩ := List.mem_iff_getElem?.mp (NameMap.mem_entries_iff.mpr hfind)
  let member : Member := ⟨schema.typeName settings.naming (Naming.propertyName outer property),
    index, required.contains property, schema.description⟩
  refine ⟨member, ?_, rfl, ?_, rfl, rfl, ?_, ?_⟩
  · rw [← NameMap.mem_entries_iff, entries_objectMembers]
    exact List.mem_map.mpr ⟨((property, schema), index),
      List.mk_mem_zipIdx_iff_getElem?.mpr hindex, rfl⟩
  · have hname : (NameMap.ofList properties).names[index]? = some property := by
      rw [NameMap.names, List.getElem?_map, hindex]
      rfl
    exact (length_filter_lt (NameMap.names_ascending _) hname).symm
  · rintro path target hkind
    obtain ⟨kind, description⟩ := schema
    obtain rfl : kind = .reference path target := hkind
    cases hsupported with
    | reference => rfl
  · rintro hreference builder rfl
    rw [Builder.run_dispatch_of_supported hsupported, registration, hreference]
    rfl

end Schema

namespace Builder

open Schema

end Builder

end SchemaCatalog

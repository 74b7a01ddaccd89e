import SchemaCatalog.Proofs.Faithful
import SchemaCatalog.Proofs.Stems
import Mathlib.Data.List.DropRight

/-!
Namespaces of the schemas that a combinator puts together. The names below the properties of each
start with the name around the combinator and the number of the schema. Nothing stands between the
number and the name of a property, so the namespaces are apart unless one number goes on where the
other ends, and then only for properties that can go on with a number.
-/
namespace SchemaCatalog

namespace Naming

section Numbers

theorem isDigit_of_mem_toString {n : Nat} {c : Char} (h : c ∈ (toString n).toList) : c.isDigit := by
  rw [Nat.toString_eq_repr, Nat.toList_repr] at h
  exact Nat.isDigit_of_mem_toDigits (by decide) (by decide) h

theorem le_of_starts_toString {m n : Nat} (h : Starts (toString m) (toString n)) : m ≤ n := by
  unfold Starts at h
  simp only [Nat.toString_eq_repr, Nat.toList_repr] at h
  obtain ⟨rest, hrest⟩ := h
  have hvalue : Nat.ofDigitChars 10 rest m = n := by
    have heq := congrArg (fun digits => Nat.ofDigitChars 10 digits 0) hrest
    simpa [Nat.ofDigitChars_append, Nat.ofDigitChars_toDigits] using heq
  rw [Nat.ofDigitChars_eq_ofDigitChars_zero] at hvalue
  have hone : 1 ≤ 10 ^ rest.length := Nat.one_le_pow _ _ (by decide)
  have hmul : m ≤ 10 ^ rest.length * m := Nat.le_mul_of_pos_left m hone
  omega

/-- A number goes on where another of as many digits ends only if it is the same. -/
theorem eq_of_starts_toString {m n : Nat} (h : Starts (toString m) (toString n))
    (hlength : (toString m).length = (toString n).length) : m = n := by
  have hsame : (toString m).toList = (toString n).toList := h.eq_of_length hlength
  have hback : Starts (toString n) (toString m) := by
    unfold Starts
    exact hsame ▸ List.prefix_rfl
  exact Nat.le_antisymm (le_of_starts_toString h) (le_of_starts_toString hback)

theorem length_toString_of_lt {n : Nat} (h : n < 10) : (toString n).length = 1 := by
  rw [Nat.toString_eq_repr, Nat.repr_of_lt h]
  exact String.length_singleton

theorem uppercase_of_isDigit {c : Char} (h : c.isDigit) : Text.uppercase c = [c] := by
  have hcode : 48 ≤ c.toNat ∧ c.toNat ≤ 57 := by
    simpa [Char.isDigit, UInt32.le_iff_toNat_le] using h
  have hsmall : c.toNat < 128 := by omega
  have hupper : c.toUpper = c := by
    unfold Char.toUpper
    split
    · rename_i hlower
      have hlow : 97 ≤ c.toNat := by simpa [UInt32.le_iff_toNat_le] using hlower.1
      omega
    · rfl
  simp [Text.uppercase, hsmall, hupper]

end Numbers

section Namespaces

variable {name beginning registered : String} {i j : Nat}

theorem firm_memberName (name : String) (index : Nat) : Firm (memberName name index) := by
  intro before c heq hplural
  rw [memberName, String.toList_append] at heq
  have hdigits : (toString (index + 1)).toList ≠ [] := by
    rw [Nat.toString_eq_repr, Nat.toList_repr]
    exact Nat.toDigits_ne_nil
  have hlast : c ∈ (toString (index + 1)).toList := by
    have hc : (name.toList ++ (toString (index + 1)).toList).getLast? = some c := by
      rw [heq, List.getLast?_concat]
    rw [List.getLast?_append_of_ne_nil _ hdigits] at hc
    exact List.mem_of_getLast? hc
  have hdigit := isDigit_of_mem_toString hlast
  simp only [isPluralLetter, Bool.or_eq_true, decide_eq_true_eq] at hplural
  rcases hplural with rfl | rfl <;> exact absurd hdigit (by decide)

/-- Two members of a combinator can have a name in common below them only if the number of one
goes on where that of the other ends. -/
theorem starts_toString_of_memberName (hi : Starts (memberName name i) registered)
    (hj : Starts (memberName name j) registered) :
    Starts (toString (i + 1)) (toString (j + 1)) ∨ Starts (toString (j + 1)) (toString (i + 1)) := by
  unfold Starts memberName at *
  rw [String.toList_append] at hi hj
  rcases List.prefix_or_prefix_of_prefix hi hj with h | h
  · exact .inl ((List.prefix_append_right_inj _).mp h)
  · exact .inr ((List.prefix_append_right_inj _).mp h)

/-- A property's name as it goes into other names, without the plural letters at its end. -/
def core (property : String) : List Char :=
  (Text.uppercaseFirst property).toList.rdropWhile isPluralLetter

/-- That names below a property may go on with the number in front of them. -/
def extendsNumber (property : String) : Bool := (core property).head?.all Char.isDigit

theorem exists_core {property : String} (h : extendsNumber property = false) :
    ∃ c rest, core property = c :: rest ∧ c.isDigit = false := by
  unfold extendsNumber at h
  cases hcore : core property with
  | nil => simp [hcore] at h
  | cons c rest =>
    rw [hcore] at h
    exact ⟨c, rest, rfl, h⟩

theorem starts_core (enclosing property : String) :
    Starts (enclosing ++ String.ofList (core property)) (propertyName enclosing property) := by
  unfold Starts propertyName
  rw [String.toList_append, String.toList_append, String.toList_ofList]
  exact (List.prefix_append_right_inj _).mpr (List.rdropWhile_prefix _ _)

theorem firm_core (enclosing : String) {property : String} (h : core property ≠ []) :
    Firm (enclosing ++ String.ofList (core property)) := by
  intro before c heq hplural
  rw [String.toList_append, String.toList_ofList] at heq
  have hlast : (core property).getLast h = c := by
    have hget := congrArg List.getLast? heq
    rw [List.getLast?_append_of_ne_nil _ h, List.getLast?_concat,
      List.getLast?_eq_some_getLast h] at hget
    exact Option.some.inj hget
  have hnot : ¬isPluralLetter ((core property).getLast h) :=
    List.rdropWhile_last_not isPluralLetter _ h
  rw [hlast] at hnot
  exact absurd hplural hnot

/-- A name in the namespace of a later member does not go on with anything else than digits after
the number of an earlier one. -/
theorem not_starts_memberName (hij : i < j) {c : Char} (hc : c.isDigit = false)
    {rest : List Char} (hi : Starts (memberName name i ++ String.ofList (c :: rest)) registered) :
    ¬Starts (memberName name j) registered := by
  intro hj
  have hfirst : name.toList ++ ((toString (i + 1)).toList ++ [c]) <+: registered.toList := by
    refine List.IsPrefix.trans ⟨rest, ?_⟩ hi
    simp [memberName, String.toList_append]
  have hsecond : name.toList ++ (toString (j + 1)).toList <+: registered.toList := by
    unfold Starts memberName at hj
    rwa [String.toList_append] at hj
  have hnot : c ∉ (toString (j + 1)).toList := by
    intro hmem
    rw [isDigit_of_mem_toString hmem] at hc
    cases hc
  rcases List.prefix_or_prefix_of_prefix hfirst hsecond with h | h
  · have hdigits := (List.prefix_append_right_inj _).mp h
    exact hnot (hdigits.subset (by simp))
  · have hdigits := (List.prefix_append_right_inj _).mp h
    rcases List.prefix_concat_iff.mp hdigits with hwhole | hshorter
    · apply hnot
      rw [hwhole]
      exact List.mem_concat_self
    · have hle : j + 1 ≤ i + 1 := le_of_starts_toString hshorter
      omega

/-- If the number of a member goes on where that of another ends, then the other has a property
for each property of the member that is given the same name. -/
theorem exists_propertyName_eq (h : Starts (toString (i + 1)) (toString (j + 1))) (hij : i < j)
    (name property : String) :
    ∃ other, propertyName (memberName name i) other = propertyName (memberName name j) property := by
  obtain ⟨rest, hrest⟩ := h
  cases rest with
  | nil =>
    have hback : Starts (toString (j + 1)) (toString (i + 1)) := ⟨[], by simpa using hrest.symm⟩
    have hle := le_of_starts_toString hback
    omega
  | cons d rest =>
    have hmem : d ∈ (toString (j + 1)).toList := by
      rw [← hrest]
      exact List.mem_append_right _ List.mem_cons_self
    have hdigit := isDigit_of_mem_toString hmem
    refine ⟨String.ofList (d :: rest ++ (Text.uppercaseFirst property).toList), ?_⟩
    rw [← String.toList_inj]
    simp only [propertyName, memberName, String.toList_append, ← hrest]
    simp [Text.uppercaseFirst, uppercase_of_isDigit hdigit]

end Namespaces

end Naming

namespace Builder

variable (settings : Settings) (name : String) (keyword : Combinator) (index : Nat)
  (member : Schema)

/-- The names that are registered while a builder takes up one of the schemas that a combinator
puts together. -/
def memberNames : List String :=
  ((addMember name keyword .empty index member).run (start settings none .empty)).2.log.filterMap
    Event.registeredName?

theorem registeredName?_play {α : Type} (builder : Builder) (walk : Walk α) :
    (builder.play walk).2.log.filterMap Event.registeredName? =
      builder.log.filterMap Event.registeredName? ++
        walk.steps.filterMap Step.registeredName? := by
  rw [play, after, List.filterMap_append, Catalog.registeredName?_log]

def memberReached (naming : Naming) : List Node :=
  Finding.reached ((Schema.memberParts name keyword index member).flatMap (·.expand naming))

/-- Every builder registers the same names below a member: those of the nodes that are reached. -/
theorem registeredName?_addMember (record : Structure) (builder : Builder) :
    ((addMember name keyword record index member).run builder).2.log.filterMap
        Event.registeredName? =
      builder.log.filterMap Event.registeredName? ++
        ((memberReached name keyword index member builder.settings.naming).filterMap
          (·.step builder.settings)).filterMap Step.registeredName? := by
  have hwalk : Schema.walkMember builder.settings name keyword index member = _ :=
    Schema.walkMember_eq_follow fun node _ => Schema.walk_eq_follow node.schema
  rw [addMember_eq_replay name keyword record index fun node _ => dispatch_eq_replay node.schema,
    replay_run, registeredName?_play, hwalk, bind_assoc]
  simp only [pure_bind]
  rw [Walk.bind_pure_eq, Walk.follow_eq]
  rfl

theorem memberNames_eq :
    memberNames settings name keyword index member =
      ((memberReached name keyword index member settings.naming).filterMap
        (·.step settings)).filterMap Step.registeredName? :=
  registeredName?_addMember name keyword index member .empty (start settings none .empty)

section Default

variable {overrides : Option Overrides} {name beginning registered : String}
  {keyword : Combinator} {i j : Nat} {member first second : Schema}

/-- What is registered below a member starts as the name of one of its properties does. -/
theorem exists_property_of_mem_memberNames
    (h : registered ∈ memberNames ⟨.default, overrides⟩ name keyword i member) :
    ∃ property schema, member.property? property = some schema ∧
      ∀ beginning, Naming.Firm beginning →
        Naming.Starts beginning (Naming.propertyName (Naming.memberName name i) property) →
          Naming.Starts beginning registered := by
  rw [memberNames_eq] at h
  obtain ⟨step, hstep, hregistered⟩ := List.mem_filterMap.mp h
  obtain ⟨node, hnode, hnodeStep⟩ := List.mem_filterMap.mp hstep
  obtain ⟨part, hpart, hexpand⟩ := List.mem_flatMap.mp (Finding.ok_mem_of_mem_reached hnode)
  obtain ⟨child, inner, rfl, hinner, rfl⟩ := Schema.exists_of_mem_expand hexpand
  obtain ⟨kind, description⟩ := member
  cases kind with
  | object properties required additional =>
    obtain ⟨found, hfound, hwithin⟩ := List.mem_map.mp hpart
    cases found with
    | error fault => cases hwithin
    | ok node =>
      cases hwithin
      obtain ⟨property, hnode, hfind⟩ := Schema.exists_property_of_mem_propertyParts hfound
      refine ⟨property, node.schema, hfind, fun beginning hfirm hstarts => ?_⟩
      have hclosed := Naming.closed_starts hfirm
      have hname : Naming.Starts beginning node.name := by
        rw [hnode]
        exact hstarts
      have hinside := Schema.name_of_mem_findings hclosed hname hinner
      exact Schema.registeredName_of_step hclosed hinside hnodeStep hregistered
  | _ => simp [Schema.memberParts] at hpart

/-- All names below a member start with the name around the combinator and the member's number. -/
theorem starts_of_mem_memberNames
    (h : registered ∈ memberNames ⟨.default, overrides⟩ name keyword i member) :
    Naming.Starts (Naming.memberName name i) registered := by
  obtain ⟨property, -, -, hstarts⟩ := exists_property_of_mem_memberNames h
  have hself : Naming.Starts (Naming.memberName name i) (Naming.memberName name i) :=
    List.prefix_rfl
  exact hstarts _ (Naming.firm_memberName name i) (hself.append _)

theorem disjoint_of_not_starts (hij : i < j)
    (h : ¬Naming.Starts (toString (i + 1)) (toString (j + 1))) :
    (memberNames ⟨.default, overrides⟩ name keyword i first).Disjoint
      (memberNames ⟨.default, overrides⟩ name keyword j second) := by
  intro registered hfirst hsecond
  rcases Naming.starts_toString_of_memberName (starts_of_mem_memberNames hfirst)
    (starts_of_mem_memberNames hsecond) with hstarts | hstarts
  · exact h hstarts
  · have hle := Naming.le_of_starts_toString hstarts
    omega

theorem disjoint_of_not_extendsNumber (hij : i < j)
    (h : ∀ property schema, first.property? property = some schema →
      Naming.extendsNumber property = false) :
    (memberNames ⟨.default, overrides⟩ name keyword i first).Disjoint
      (memberNames ⟨.default, overrides⟩ name keyword j second) := by
  intro registered hfirst hsecond
  obtain ⟨property, schema, hproperty, hstarts⟩ := exists_property_of_mem_memberNames hfirst
  obtain ⟨c, rest, hcore, hc⟩ := Naming.exists_core (h property schema hproperty)
  have hne : Naming.core property ≠ [] := by
    rw [hcore]
    exact List.cons_ne_nil c rest
  have hbegins := hstarts _ (Naming.firm_core (Naming.memberName name i) hne)
    (Naming.starts_core (Naming.memberName name i) property)
  rw [hcore] at hbegins
  exact Naming.not_starts_memberName hij hc hbegins (starts_of_mem_memberNames hsecond)

theorem memberNames_singleton (name : String) (keyword : Combinator) (index : Nat)
    (property : String) :
    memberNames ⟨.default, overrides⟩ name keyword index
        ⟨.object [(property, ⟨.boolean, none⟩)] [] .undeclared, none⟩ =
      [Naming.propertyName (Naming.memberName name index) property] := by
  have hparts : Schema.memberParts name keyword index
      ⟨.object [(property, ⟨.boolean, none⟩)] [] .undeclared, none⟩ =
        [.ok ⟨[keyword.keyword, toString index] ++ ["properties", property],
          Naming.propertyName (Naming.memberName name index) property, ⟨.boolean, none⟩⟩] := rfl
  rw [memberNames_eq, memberReached, hparts, List.flatMap_singleton, Finding.expand,
    Schema.findings_eq]
  rfl

end Default

/-- The namespaces of two members of a combinator. They are apart, whatever the members are, just
if the number of the later one does not go on where that of the earlier one ends; so they are for
all members of a combinator that has fewer than ten. Between other members there is no clash if the
earlier one has no property with a name that can go on with a number. -/
theorem member_namespaces (overrides : Option Overrides) (name : String) (keyword : Combinator)
    {i j : Nat} (hij : i < j) :
    let names := memberNames ⟨.default, overrides⟩ name keyword
    ((∀ first second, (names i first).Disjoint (names j second)) ↔
      ¬Naming.Starts (toString (i + 1)) (toString (j + 1))) ∧
    (j < 9 → ∀ first second, (names i first).Disjoint (names j second)) ∧
    ∀ first second,
      (∀ property schema, first.property? property = some schema →
        Naming.extendsNumber property = false) →
          (names i first).Disjoint (names j second) := by
  intro names
  refine ⟨⟨?_, ?_⟩, ?_, ?_⟩
  · intro hdisjoint hstarts
    obtain ⟨other, hother⟩ := Naming.exists_propertyName_eq hstarts hij name "a"
    let single (property : String) : Schema :=
      ⟨.object [(property, ⟨.boolean, none⟩)] [] .undeclared, none⟩
    have hfirst : names i (single other) = [Naming.propertyName (Naming.memberName name i) other] :=
      memberNames_singleton name keyword i other
    have hsecond : names j (single "a") = [Naming.propertyName (Naming.memberName name j) "a"] :=
      memberNames_singleton name keyword j "a"
    have hnone := hdisjoint (single other) (single "a")
    rw [hfirst, hsecond, hother] at hnone
    exact hnone List.mem_cons_self List.mem_cons_self
  · intro hapart first second
    exact disjoint_of_not_starts hij hapart
  · intro hj first second
    apply disjoint_of_not_starts hij
    intro hstarts
    have hfirst : (toString (i + 1)).length = 1 := Naming.length_toString_of_lt (by omega)
    have hsecond : (toString (j + 1)).length = 1 := Naming.length_toString_of_lt (by omega)
    have hsame := Naming.eq_of_starts_toString hstarts (hfirst.trans hsecond.symm)
    omega
  · intro first second hproperties
    exact disjoint_of_not_extendsNumber hij hproperties

/-- A tenth member, and a second one that has a property of the same name. -/
theorem member_namespaces_second_tenth :
    let names := memberNames ⟨.default, none⟩ "E" .allOf
    let owner : Schema := ⟨.object [("owner", ⟨.boolean, none⟩)] [] .undeclared, none⟩
    names 1 owner = ["E2Owner"] ∧ names 9 owner = ["E10Owner"] ∧
      (∀ first second, (names 1 first).Disjoint (names 9 second)) ∧
      (∀ first second, (names 1 first).Disjoint (names 2 second)) ∧
      ∀ second, (names 0 owner).Disjoint (names 9 second) := by
  intro names owner
  obtain ⟨hiff, -, -⟩ := member_namespaces none "E" .allOf (i := 1) (j := 9) (by decide)
  obtain ⟨-, hfew, -⟩ := member_namespaces none "E" .allOf (i := 1) (j := 2) (by decide)
  obtain ⟨-, -, hletters⟩ := member_namespaces none "E" .allOf (i := 0) (j := 9) (by decide)
  refine ⟨by decide +kernel, by decide +kernel, hiff.mpr (by decide), hfew (by decide), ?_⟩
  intro second
  apply hletters owner second
  intro property schema hproperty
  have hname : "owner" = property ∧ ⟨.boolean, none⟩ = schema := by
    simpa [owner, Schema.property?, NameMap.find?_ofList, NameMap.findLast?] using hproperty
  rw [← hname.1]
  decide +kernel

/-- The first of ten members has a property with a name that starts with the digit zero. The type
of that is replaced by the one of the tenth member, and the log warns of it. -/
theorem tenth_member_replaces_first :
    let settings : Settings := ⟨.default, none⟩
    let text : Schema := ⟨.string ⟨0, none, none, none, none, []⟩, none⟩
    let first : Schema := ⟨.object [("0X", text)] [] .undeclared, none⟩
    let blank : Schema := ⟨.object [] [] .undeclared, none⟩
    let tenth : Schema := ⟨.object [("X", ⟨.boolean, none⟩)] [] .undeclared, none⟩
    let members := first :: List.replicate 8 blank ++ [tenth]
    let run := (dispatch ⟨.combinator .allOf members, none⟩ "E").run (start settings none .empty)
    members[0]? = some first ∧ members[9]? = some tenth ∧ run.1 = .ok ⟨some "E", "E"⟩ ∧
      memberNames settings "E" .allOf 0 first = ["E10X"] ∧
      memberNames settings "E" .allOf 9 tenth = ["E10X"] ∧
      ¬(memberNames settings "E" .allOf 0 first).Disjoint
        (memberNames settings "E" .allOf 9 tenth) ∧
      run.2.catalog.field? "E10X" = some .boolean ∧ .fieldReplaced "E10X" "string" ∈ run.2.log := by
  intro settings text first blank tenth members run
  have hfirst : memberNames settings "E" .allOf 0 first = ["E10X"] := by decide +kernel
  have htenth : memberNames settings "E" .allOf 9 tenth = ["E10X"] := by decide +kernel
  have hrun : run.1 = .ok ⟨some "E", "E"⟩ ∧ run.2.catalog.field? "E10X" = some .boolean ∧
      .fieldReplaced "E10X" "string" ∈ run.2.log := by decide +kernel
  have hshared : ¬(memberNames settings "E" .allOf 0 first).Disjoint
      (memberNames settings "E" .allOf 9 tenth) := by
    rw [hfirst, htenth]
    exact fun hdisjoint => hdisjoint List.mem_cons_self List.mem_cons_self
  exact ⟨rfl, rfl, hrun.1, hfirst, htenth, hshared, hrun.2⟩

end Builder

end SchemaCatalog

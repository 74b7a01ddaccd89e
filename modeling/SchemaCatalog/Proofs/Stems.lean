import SchemaCatalog.Proofs.Containment
import SchemaCatalog.Proofs.History

/-!
Stems of names. A name that is derived from another goes on where the other ends; only the element
of a list may have a name that is shorter than the one around it, and by one plural letter. So all
names below a component start with the component's name without its plural letters, and components
of which neither starts like the other have nothing to do with each other.
-/
namespace SchemaCatalog

namespace Naming

def isPluralLetter (c : Char) : Bool := c = 's' || c = 'S'

/-- A reversed name without the plural letters in front. Its last character stays in any case. -/
def dropPlural : List Char → List Char
  | c :: d :: rest => if isPluralLetter c then dropPlural (d :: rest) else c :: d :: rest
  | cs => cs

/-- A name without the plural letters at its end; if it has no others, one stays. -/
def stem (name : String) : String := String.ofList (dropPlural name.toList.reverse).reverse

/-- That a name has a beginning. -/
def Starts (beginning name : String) : Prop := beginning.toList <+: name.toList

instance (beginning name : String) : Decidable (Starts beginning name) :=
  inferInstanceAs (Decidable (beginning.toList <+: name.toList))

/-- Names that derived names do not leave. -/
structure Closed (naming : Naming) (inside : String → Prop) : Prop where
  property : ∀ {name}, inside name → ∀ property, inside (propertyName name property)
  member : ∀ {name}, inside name → ∀ index, inside (memberName name index)
  list : ∀ {name}, inside name → inside (naming.split name).list
  element : ∀ {name}, inside name → inside (naming.split name).element

section Splitting

theorem append_of_splitBytes {count : Nat} {cs head tail : List Char}
    (h : splitBytes count cs = some (head, tail)) : head ++ tail = cs := by
  fun_induction splitBytes count cs generalizing head tail with
  | case1 cs =>
    cases h
    rfl
  | case2 => cases h
  | case3 count c cs hfits ih =>
    obtain ⟨⟨before, after⟩, hrest, heq⟩ := Option.map_eq_some_iff.mp h
    cases heq
    rw [List.cons_append, ih hrest]
  | case4 => cases h

/-- What is before a plural suffix, and the letters that were taken for the suffix. -/
theorem exists_of_stripSuffix {suffix name head : List Char}
    (h : stripSuffix suffix name = some head) :
    ∃ tail, name = head ++ tail ∧ tail.map Char.toLower = suffix.map Char.toLower := by
  unfold stripSuffix at h
  split at h
  · cases h
  · split at h
    · rename_i before after hsplit
      split at h
      · rename_i hsame
        cases h
        exact ⟨after, (append_of_splitBytes hsplit).symm, by simpa [sameIgnoringCase] using hsame⟩
      · cases h
    · cases h

theorem isPluralLetter_of_toLower {c : Char} (h : c.toLower = 's') : isPluralLetter c := by
  unfold Char.toLower at h
  split at h
  · have hvalue := congrArg Char.val h
    have hupper : c = 'S' := by
      apply Char.ext
      simp at hvalue
      grind
    simp [isPluralLetter, hupper]
  · simp [isPluralLetter, h]

/-- The element of a list has the name around the list, or that name without a plural letter. -/
theorem element_cases (name : String) :
    (default.split name).element = name ∨
      ∃ c, isPluralLetter c ∧ (default.split name).element ≠ "" ∧
        name.toList = (default.split name).element.toList ++ [c] := by
  unfold split
  split
  · rename_i c cs hstrip
    obtain ⟨tail, hname, htail⟩ := exists_of_stripSuffix hstrip
    have hone : tail.map Char.toLower = ['s'] := htail
    obtain ⟨d, rfl, hd⟩ := List.map_eq_singleton_iff.mp hone
    refine .inr ⟨d, isPluralLetter_of_toLower hd, by simp, ?_⟩
    rw [String.toList_ofList]
    exact hname
  · exact .inl rfl

end Splitting

section Beginnings

variable {beginning name : String}

/-- A beginning that no element of a list falls short of. -/
def Firm (beginning : String) : Prop :=
  ∀ before c, beginning.toList = before ++ [c] → isPluralLetter c → before = []

theorem Starts.append (h : Starts beginning name) (more : String) :
    Starts beginning (name ++ more) := by
  unfold Starts at h ⊢
  rw [String.toList_append]
  exact h.trans (List.prefix_append ..)

theorem Starts.element (hfirm : Firm beginning) (h : Starts beginning name) :
    Starts beginning (default.split name).element := by
  rcases element_cases name with hsame | ⟨c, hplural, hne, hname⟩
  · rwa [hsame]
  · unfold Starts at h ⊢
    rw [hname] at h
    rcases List.prefix_concat_iff.mp h with hwhole | hshorter
    · have hempty := hfirm _ c hwhole hplural
      exact absurd (String.toList_inj.mp (hempty.trans String.toList_empty.symm)) hne
    · exact hshorter

/-- Derived names keep a firm beginning. -/
theorem closed_starts (hfirm : Firm beginning) : Closed default (Starts beginning) where
  property h property := h.append (Text.uppercaseFirst property)
  member h index := h.append (toString (index + 1))
  list {name} h := by
    unfold split
    split
    · exact h
    · exact h.append default.pluralSuffix
  element h := h.element hfirm

theorem dropPlural_suffix (cs : List Char) : dropPlural cs <:+ cs := by
  fun_induction dropPlural cs with
  | case1 c d rest hplural ih => exact ih.trans (List.suffix_cons c _)
  | case2 => exact List.suffix_rfl
  | case3 => exact List.suffix_rfl

theorem dropPlural_head {cs rest : List Char} {c : Char} (h : dropPlural cs = c :: rest)
    (hplural : isPluralLetter c) : rest = [] := by
  fun_induction dropPlural cs with
  | case1 d e others hd ih => exact ih h
  | case2 d e others hd =>
    cases h
    exact absurd hplural hd
  | case3 cs hshort =>
    subst h
    cases rest with
    | nil => rfl
    | cons d rest => exact absurd rfl (hshort c d rest)

theorem starts_stem (name : String) : Starts (stem name) name := by
  unfold Starts stem
  rw [String.toList_ofList, ← List.reverse_suffix, List.reverse_reverse]
  exact dropPlural_suffix _

theorem firm_stem (name : String) : Firm (stem name) := by
  intro before c heq hplural
  rw [stem, String.toList_ofList] at heq
  have hreversed : dropPlural name.toList.reverse = c :: before.reverse := by
    rw [← List.reverse_inj, heq]
    simp
  have hnil := dropPlural_head hreversed hplural
  exact List.reverse_eq_nil_iff.mp hnil

end Beginnings

end Naming


namespace Schema

variable {naming : Naming} {inside : String → Prop} {schema : Schema} {name : String}
  {node : Node}

theorem name_of_mem_propertyParts (hclosed : naming.Closed inside) (hname : inside name)
    {properties : List (String × Schema)} (h : .ok node ∈ propertyParts name properties) :
    inside node.name := by
  obtain ⟨property, hnode, -⟩ := exists_property_of_mem_propertyParts h
  rw [hnode]
  exact hclosed.property hname property

theorem name_of_mem_memberParts (hclosed : naming.Closed inside) {index : Nat}
    (hname : inside (Naming.memberName name index)) {keyword : Combinator}
    (h : .ok node ∈ memberParts name keyword index schema) : inside node.name := by
  obtain ⟨kind, description⟩ := schema
  cases kind with
  | object properties required additional =>
    obtain ⟨part, hpart, hwithin⟩ := List.mem_map.mp h
    cases part with
    | error fault => cases hwithin
    | ok child =>
      cases hwithin
      have hchild : inside child.name := name_of_mem_propertyParts hclosed hname hpart
      exact hchild
  | _ => simp [memberParts] at h

theorem name_of_mem_parts (hclosed : naming.Closed inside) (hname : inside name)
    (h : .ok node ∈ schema.parts naming name) : inside node.name := by
  obtain ⟨kind, description⟩ := schema
  cases kind with
  | object properties required additional =>
    cases additional with
    | values value =>
      simp only [parts, valueFaults] at h
      split at h <;> simp at h
    | _ => exact name_of_mem_propertyParts hclosed hname h
  | array items minItems maxItems =>
    cases items with
    | none => simp [parts] at h
    | some items =>
      obtain rfl : node = ⟨["items"], (naming.split name).element, items⟩ := by
        simpa [parts] using h
      exact hclosed.element hname
  | combinator keyword members =>
    obtain ⟨⟨member, index⟩, -, hpart⟩ := List.mem_flatMap.mp h
    exact name_of_mem_memberParts hclosed (hclosed.member hname index) hpart
  | reference path target => cases target <;> simp [parts] at h
  | _ => simp [parts] at h

/-- Names that are closed under deriving names are not left anywhere below a schema. -/
theorem name_of_mem_findings (hclosed : naming.Closed inside) (hname : inside name)
    (h : .ok node ∈ schema.findings naming name) : inside node.name := by
  induction schema using induction_on_parts naming generalizing name node with
  | node schema ih =>
    rcases mem_findings_cases h with hself | ⟨part, hpart, hexpand⟩
    · cases hself
      exact hname
    · obtain ⟨child, inner, rfl, hinner, rfl⟩ := exists_of_mem_expand hexpand
      have hchild := name_of_mem_parts hclosed hname hpart
      have hinside : inside inner.name := ih name child hpart hchild hinner
      exact hinside

theorem registeredName_of_step {settings : Settings}
    (hclosed : settings.naming.Closed inside) (hname : inside name)
    {step : Step} (hstep : schema.step settings name = some step) {registered : String}
    (hregistered : step.registeredName? = some registered) : inside registered := by
  obtain ⟨kind, description⟩ := schema
  cases kind with
  | object properties required additional =>
    cases additional <;> (cases hstep; cases hregistered; exact hname)
  | array items minItems maxItems =>
    cases items with
    | none => cases hstep
    | some items =>
      cases hstep
      cases hregistered
      simp only [typeName]
      split
      · exact hname
      · exact hclosed.list hname
  | integer shape =>
    cases hstep
    cases hregistered
    exact hname
  | reference path target => cases hstep
  | fragment => cases hstep
  | not schema => cases hstep
  | _ =>
    cases hstep
    cases hregistered
    exact hname

end Schema

theorem Finding.ok_mem_of_mem_reached {findings : List Finding} {node : Node}
    (h : node ∈ reached findings) : .ok node ∈ findings := by
  fun_induction reached findings with
  | case1 first rest ih =>
    rcases List.mem_cons.mp h with rfl | hrest
    · exact List.mem_cons_self
    · exact List.mem_cons_of_mem _ (ih hrest)
  | case2 => cases h

end SchemaCatalog

import Mathlib
import SchemaCatalog.Json.Pointer
import SchemaCatalog.Proofs.NameMap

/-!
Places as a reader of a document takes them. A written place is cut at its slashes, each step is
read from the left, where a tilde must start an escape, and the steps lead from value to value:
by name through an object, by a decimal index without leading zeros through an array. A place
that is written out is read as itself.
-/
namespace SchemaCatalog

namespace Pointer

def escapeChar (c : Char) : List Char :=
  if c = '~' then ['~', '0'] else if c = '/' then ['~', '1'] else [c]

theorem escape_eq (step : String) :
    escape step = String.ofList (step.toList.flatMap escapeChar) := by
  rw [escape, List.flatMap_assoc]
  congr 2
  funext c
  by_cases htilde : c = '~'
  · simp [escapeChar, htilde]
  · by_cases hslash : c = '/' <;> simp [escapeChar, htilde, hslash]

theorem slash_notMem_escape (step : String) : '/' ∉ (escape step).toList := by
  rw [escape_eq, String.toList_ofList, List.mem_flatMap]
  rintro ⟨c, -, hmem⟩
  unfold escapeChar at hmem
  split at hmem
  · simp at hmem
  · split at hmem
    · simp at hmem
    · exact absurd (List.mem_singleton.mp hmem).symm ‹_›

/-- The characters that a written step stands for. A tilde that starts no escape is refused. -/
def decode? : List Char → Option (List Char)
  | [] => some []
  | '~' :: '0' :: rest => (decode? rest).map ('~' :: ·)
  | '~' :: '1' :: rest => (decode? rest).map ('/' :: ·)
  | '~' :: _ => none
  | c :: rest => (decode? rest).map (c :: ·)

theorem decode?_escapeChar_append (c : Char) (rest : List Char) :
    decode? (escapeChar c ++ rest) = (decode? rest).map (c :: ·) := by
  by_cases htilde : c = '~'
  · subst htilde
    rfl
  · by_cases hslash : c = '/'
    · subst hslash
      rfl
    · simp [escapeChar, htilde, hslash, decode?]

theorem decode?_escape (step : String) : decode? (escape step).toList = some step.toList := by
  rw [escape_eq, String.toList_ofList]
  induction step.toList with
  | nil => rfl
  | cons c rest ih => rw [List.flatMap_cons, decode?_escapeChar_append, ih, Option.map_some]

/-- The place that a text means: nothing for the root, and else a slash before each step. -/
def ofText? (text : String) : Option Pointer :=
  match text.toList with
  | [] => some []
  | '/' :: rest => (rest.splitOn '/').mapM fun written => (decode? written).map String.ofList
  | _ => none

def writtenSteps (place : Pointer) : List (List Char) := place.map fun step => (escape step).toList

theorem toList_text_cons (step : String) (place : Pointer) :
    (text (step :: place)).toList = '/' :: ['/'].intercalate (writtenSteps (step :: place)) := by
  induction place generalizing step with
  | nil => simp [text, writtenSteps]
  | cons next rest ih =>
    have htext : text (step :: next :: rest) = "/" ++ escape step ++ text (next :: rest) := rfl
    rw [htext, String.toList_append, ih]
    simp [writtenSteps]

theorem splitOn_writtenSteps {place : Pointer} (h : place ≠ []) :
    (['/'].intercalate (writtenSteps place)).splitOn '/' = writtenSteps place := by
  refine List.splitOn_intercalate '/' ?_ (List.map_eq_nil_iff.not.mpr h)
  simp [writtenSteps, slash_notMem_escape]

theorem ofText?_text (place : Pointer) : ofText? place.text = some place := by
  cases place with
  | nil => rfl
  | cons step rest =>
    simp only [ofText?, toList_text_cons]
    rw [splitOn_writtenSteps (List.cons_ne_nil step rest), writtenSteps, List.mapM_map]
    have hread : ((fun written => (decode? written).map String.ofList) ∘
        fun step => (escape step).toList) = (pure : String → Option String) := by
      funext step
      simp [decode?_escape]
    rw [hread, List.mapM_pure]
    simp

end Pointer

namespace Json

/-- The value one step below a value. An array takes the decimal digits of an index. -/
def step? (value : Json) (step : String) : Option Json :=
  match value with
  | .object fields => NameMap.findLast? step fields
  | .array values => (values.zipIdx.find? fun (_, index) => toString index = step).map (·.1)
  | _ => none

/-- The value at a place. -/
def at? (value : Json) (place : Pointer) : Option Json := place.foldlM step? value

variable {value middle : Json}

@[simp] theorem at?_nil (value : Json) : value.at? [] = some value := rfl

theorem at?_cons (value : Json) (step : String) (place : Pointer) :
    value.at? (step :: place) = (value.step? step).bind (·.at? place) := rfl

theorem at?_append {outer : Pointer} (h : value.at? outer = some middle) (inner : Pointer) :
    value.at? (outer ++ inner) = middle.at? inner := by
  have hfold : value.at? (outer ++ inner) = (value.at? outer).bind (·.at? inner) :=
    List.foldlM_append
  rw [hfold, h, Option.bind_some]

theorem at?_of_field? {name : String} (h : value.field? name = some middle) (rest : Pointer) :
    value.at? (name :: rest) = middle.at? rest := by
  cases value with
  | object fields =>
    rw [at?_cons, step?, show NameMap.findLast? name fields = some middle from h, Option.bind_some]
  | _ => cases h

theorem at?_singleton {name : String} (h : value.field? name = some middle) :
    value.at? [name] = some middle :=
  at?_of_field? h []

/-- A name that is not a number is no index. -/
theorem step?_eq_field? {name : String} (h : name.toNat? = none) :
    value.step? name = value.field? name := by
  cases value with
  | array values =>
    have hnone : (array values).step? name = none := by
      rw [step?, Option.map_eq_none_iff, List.find?_eq_none]
      rintro ⟨inner, index⟩ - htext
      have heq : toString index = name := of_decide_eq_true htext
      rw [← heq, Nat.toString_eq_repr, Nat.toNat?_repr] at h
      cases h
    rw [hnone]
    rfl
  | _ => rfl

/-- An entry is as many steps into its array as its index says. -/
theorem at?_of_getElem? {values : List Json} {index : Nat} (h : values[index]? = some middle)
    (rest : Pointer) : (Json.array values).at? (toString index :: rest) = middle.at? rest := by
  have hstep : (Json.array values).step? (toString index) = some middle := by
    have hmem : (middle, index) ∈ values.zipIdx := List.mem_zipIdx_iff_getElem?.mpr h
    rw [step?]
    cases hfind : values.zipIdx.find? fun (_, index') => toString index' = toString index with
    | none => exact absurd (decide_eq_true rfl) (List.find?_eq_none.mp hfind _ hmem)
    | some found =>
      obtain ⟨other, index'⟩ := found
      have htext : decide (toString index' = toString index) = true := by
        simpa using List.find?_some hfind
      have hindex : index' = index := Nat.repr_inj.mp (of_decide_eq_true htext)
      have hother := List.mem_zipIdx_iff_getElem?.mp (List.mem_of_find?_eq_some hfind)
      rw [hindex, h] at hother
      exact hother.symm
  rw [at?_cons, hstep, Option.bind_some]

end Json

end SchemaCatalog

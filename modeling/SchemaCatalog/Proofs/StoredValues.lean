import SchemaCatalog.Loading
import SchemaCatalog.Proofs.CompactText
import SchemaCatalog.Proofs.Limits

/-!
Numbers in values that were read from text. JSON refuses a number that overflows, and what is
infinite in YAML becomes null, so each is a number that JSON can hold, also after the fields are put
in order. With that the limits in the catalog of any document that was read from text are finite.
-/
namespace SchemaCatalog

/-- A fold that may fail keeps what each of its steps keeps. -/
theorem foldlM_keeps {σ α : Type} {I : σ → Prop} {f : σ → α → Option σ} {items : List α}
    {start last : σ}
    (hstep : ∀ item ∈ items, ∀ before after, I before → f before item = some after → I after)
    (hstart : I start) (h : items.foldlM f start = some last) : I last := by
  induction items generalizing start with
  | nil =>
    cases h
    exact hstart
  | cons item rest ih =>
    rw [List.foldlM_cons] at h
    obtain ⟨middle, hmiddle, hrest⟩ := Option.bind_eq_some_iff.mp h
    have hitem := hstep item List.mem_cons_self start middle hstart hmiddle
    exact ih (fun other hother => hstep other (List.mem_cons_of_mem _ hother)) hitem hrest

namespace Json

theorem stored_int {n : Int} (h : -2 ^ 63 ≤ n ∧ n < 2 ^ 64) : (int n).Throughout IsStored :=
  throughout_of_leaf h fun _ => rfl

theorem stored_float {x : Double} (h : x.isFinite) : (float x).Throughout IsStored :=
  throughout_of_leaf h fun _ => rfl

theorem stored_of_number? {token : List Char} {value : Json} (h : number? token = some value) :
    value.Throughout IsStored := by
  unfold number? at h
  split at h
  extract_lets whole after size fromParts afterWhole at h
  clear_value whole after size
  -- The parts of a number are read one after another, so the last of them comes first here.
  have hparts : ∀ parts, fromParts parts = some value → value.Throughout IsStored := by
    intro parts hread
    unfold fromParts at hread
    split at hread
    extract_lets fromPower at hread
    have hpower : ∀ power, fromPower power = some value → value.Throughout IsStored := by
      intro power hread
      unfold fromPower at hread
      extract_lets isWhole limit at hread
      split at hread
      · rename_i hwhole
        cases hread
        simp only [Bool.and_eq_true, decide_eq_true_eq] at hwhole
        have hsize : size < 2 ^ 64 := Nat.lt_succ_of_le hwhole.2
        exact stored_int (by omega)
      · split at hread
        · rename_i hwhole
          cases hread
          simp only [Bool.and_eq_true, decide_eq_true_eq] at hwhole
          have hsize : size ≤ 2 ^ 63 := hwhole.2
          exact stored_int (by omega)
        · split at hread
          · rename_i hfinite
            cases hread
            exact stored_float hfinite
          · cases hread
    split at hread
    · exact hpower _ hread
    · split at hread
      · obtain ⟨power, -, hread⟩ := Option.bind_eq_some_iff.mp hread
        exact hpower _ hread
      · cases hread
  have hafter : afterWhole () = some value → value.Throughout IsStored := by
    intro hread
    unfold afterWhole at hread
    split at hread
    · extract_lets part at hread
      split at hread
      · cases hread
      · exact hparts (_, _) hread
    · exact hparts (_, _) hread
  split at h
  · cases h
  · exact hafter h

def Token.Stored : Token → Prop
  | .literal value => value.Throughout IsStored
  | _ => True

namespace Scan

variable {scan next : Scan} {c : Char} {found : List Token}

theorem stored_of_finish (h : scan.finish = some found) : ∀ token ∈ found, token.Stored := by
  cases scan with
  | between =>
    cases h
    simp
  | word read =>
    obtain ⟨value, hvalue, rfl⟩ := Option.map_eq_some_iff.mp h
    refine List.forall_mem_singleton.mpr ?_
    unfold word? at hvalue
    dsimp only at hvalue
    split_ifs at hvalue <;> (cases hvalue; exact throughout_of_leaf trivial fun _ => rfl)
  | number read =>
    obtain ⟨value, hvalue, rfl⟩ := Option.map_eq_some_iff.mp h
    exact List.forall_mem_singleton.mpr (stored_of_number? hvalue)
  | _ => cases h

theorem stored_of_start (h : start c = some (next, found)) :
    ∀ token ∈ found, token.Stored := by
  unfold start at h
  split_ifs at h <;> (cases h; simp [Token.Stored])

theorem stored_of_next (h : step.next c scan = some (next, found)) :
    ∀ token ∈ found, token.Stored := by
  obtain ⟨done, hdone, h⟩ := Option.bind_eq_some_iff.mp h
  obtain ⟨⟨other, more⟩, hstart, heq⟩ := Option.bind_eq_some_iff.mp h
  cases heq
  exact List.forall_mem_append.mpr ⟨stored_of_finish hdone, stored_of_start hstart⟩

theorem stored_of_step (h : scan.step c = some (next, found)) :
    ∀ token ∈ found, token.Stored := by
  cases scan with
  | between => exact stored_of_start h
  | word read =>
    rw [step] at h
    split at h
    · cases h
      simp
    · exact stored_of_next h
  | number read =>
    rw [step] at h
    split at h
    · cases h
      simp
    · exact stored_of_next h
  | string read =>
    rw [step] at h
    split_ifs at h <;> cases h
    · exact List.forall_mem_singleton.mpr (throughout_of_leaf trivial fun _ => rfl)
    all_goals simp
  | escape read =>
    rw [step] at h
    split at h
    · cases h
      simp
    · obtain ⟨value, -, heq⟩ := Option.map_eq_some_iff.mp h
      cases heq
      simp
  | hex read high count value =>
    obtain ⟨digit, -, h⟩ := Option.bind_eq_some_iff.mp h
    dsimp only at h
    split at h
    · obtain ⟨other, -, heq⟩ := Option.map_eq_some_iff.mp h
      cases heq
      simp
    · cases h
      simp
  | lowSlash read high =>
    rw [step] at h
    split at h <;> cases h
    simp
  | lowMark read high =>
    rw [step] at h
    split at h <;> cases h
    simp

end Scan

theorem stored_of_tokens? {text : String} {found : List Token} (h : tokens? text = some found) :
    ∀ token ∈ found, token.Stored := by
  obtain ⟨⟨scan, done⟩, hfold, h⟩ := Option.bind_eq_some_iff.mp h
  obtain ⟨last, hlast, heq⟩ := Option.bind_eq_some_iff.mp h
  cases heq
  have hdone : ∀ token ∈ done, token.Stored := by
    refine foldlM_keeps (I := fun state : Scan × List Token => ∀ token ∈ state.2, token.Stored)
      ?_ (by simp) hfold
    rintro c - ⟨before, sofar⟩ after hsofar hstep
    obtain ⟨⟨next, more⟩, hmore, heq⟩ := Option.bind_eq_some_iff.mp hstep
    cases heq
    have hnew : ∀ token ∈ more.reverse, token.Stored := fun token htoken =>
      Scan.stored_of_step hmore token (List.mem_reverse.mp htoken)
    exact List.forall_mem_append.mpr ⟨hnew, hsofar⟩
  have hread : ∀ token ∈ done.reverse, token.Stored := fun token htoken =>
    hdone token (List.mem_reverse.mp htoken)
  exact List.forall_mem_append.mpr ⟨hread, Scan.stored_of_finish hlast⟩

def Frame.Stored : Frame → Prop
  | .array done => ∀ value ∈ done, value.Throughout IsStored
  | .object done _ => ∀ p ∈ done, p.2.Throughout IsStored

/-- That all that has been read so far holds only numbers that JSON can hold. -/
def Reading.Stored : Reading → Prop
  | .wantValue stack | .wantFirst stack => ∀ frame ∈ stack, frame.Stored
  | .wantName stack done _ | .wantColon stack done _ =>
      (∀ frame ∈ stack, frame.Stored) ∧ ∀ p ∈ done, p.2.Throughout IsStored
  | .complete stack value => (∀ frame ∈ stack, frame.Stored) ∧ value.Throughout IsStored

namespace Reading

variable {reading next : Reading} {stack : List Frame} {token : Token}

theorem stored_of_value? (hstack : ∀ frame ∈ stack, frame.Stored) (htoken : token.Stored)
    (h : value? stack token = some next) : next.Stored := by
  cases token with
  | literal value =>
    cases h
    exact ⟨hstack, htoken⟩
  | openArray =>
    rw [value?, openContainer] at h
    split at h <;> cases h
    exact hstack
  | openObject =>
    rw [value?, openContainer] at h
    split at h <;> cases h
    exact ⟨hstack, by simp⟩
  | _ => cases h

/-- After a value in an open container, more of the container or its end. -/
theorem stored_of_complete {frame : Frame} {value : Json} (hframe : frame.Stored)
    (hstack : ∀ frame ∈ stack, frame.Stored) (hvalue : value.Throughout IsStored)
    (h : (complete (frame :: stack) value).step token = some next) : next.Stored := by
  cases frame with
  | array done =>
    have hdone : ∀ entry ∈ value :: done, entry.Throughout IsStored :=
      List.forall_mem_cons.mpr ⟨hvalue, hframe⟩
    cases token with
    | comma =>
      cases h
      exact List.forall_mem_cons.mpr ⟨hdone, hstack⟩
    | closeArray =>
      cases h
      refine ⟨hstack, throughout_array trivial fun entry hentry => ?_⟩
      exact hdone entry (List.mem_reverse.mp hentry)
    | _ => cases h
  | object done name =>
    have hdone : ∀ p ∈ (name, value) :: done, p.2.Throughout IsStored :=
      List.forall_mem_cons.mpr ⟨hvalue, hframe⟩
    cases token with
    | comma =>
      cases h
      exact ⟨hstack, hdone⟩
    | closeObject =>
      cases h
      refine ⟨hstack, throughout_object trivial fun p hp => ?_⟩
      exact hdone p (List.mem_reverse.mp hp)
    | _ => cases h

/-- What has been read with one token more holds numbers that JSON can hold, if what had been read
before does. -/
theorem stored_of_step (hreading : reading.Stored) (htoken : token.Stored)
    (h : reading.step token = some next) : next.Stored := by
  cases reading with
  | wantValue stack => exact stored_of_value? hreading htoken h
  | wantFirst stack =>
    have hopen : ∀ frame ∈ Frame.array [] :: stack, frame.Stored :=
      List.forall_mem_cons.mpr ⟨by simp [Frame.Stored], hreading⟩
    cases token with
    | closeArray =>
      cases h
      exact ⟨hreading, throughout_array trivial (by simp)⟩
    | _ => exact stored_of_value? hopen htoken h
  | wantName stack done mayClose =>
    obtain ⟨hstack, hdone⟩ := hreading
    cases token with
    | literal value =>
      cases value with
      | string name =>
        cases h
        exact ⟨hstack, hdone⟩
      | _ => cases h
    | closeObject =>
      rw [step] at h
      split at h <;> cases h
      exact ⟨hstack, throughout_object trivial (by simp)⟩
    | _ => cases h
  | wantColon stack done name =>
    obtain ⟨hstack, hdone⟩ := hreading
    cases token with
    | colon =>
      cases h
      exact List.forall_mem_cons.mpr ⟨hdone, hstack⟩
    | _ => cases h
  | complete stack value =>
    obtain ⟨hstack, hvalue⟩ := hreading
    cases stack with
    | nil => cases h
    | cons frame stack =>
      obtain ⟨hframe, hstack⟩ := List.forall_mem_cons.mp hstack
      exact stored_of_complete hframe hstack hvalue h

end Reading

/-- A value that was read from JSON text holds only numbers that JSON can hold. -/
theorem stored_of_read? {text : String} {value : Json} (h : read? text = some value) :
    value.Throughout IsStored := by
  obtain ⟨found, hfound, h⟩ := Option.bind_eq_some_iff.mp h
  obtain ⟨reading, hfold, h⟩ := Option.bind_eq_some_iff.mp h
  have hstart : (Reading.wantValue []).Stored := by simp [Reading.Stored]
  have hreading : reading.Stored := by
    refine foldlM_keeps ?_ hstart hfold
    intro token htoken before after hbefore hstep
    exact Reading.stored_of_step hbefore (stored_of_tokens? hfound token htoken) hstep
  unfold Reading.finish at h
  split at h
  · cases h
    exact hreading.2
  · cases h

theorem sortedValues_eq_map (values : List Json) : sortedValues values = values.map sorted := by
  induction values with
  | nil => rfl
  | cons value rest ih => rw [sortedValues, ih, List.map_cons]

theorem sortedFields_eq_map (fields : List (String × Json)) :
    sortedFields fields = fields.map fun p => (p.1, p.2.sorted) := by
  induction fields with
  | nil => rfl
  | cons field rest ih => rw [sortedFields, ih, List.map_cons]

/-- Putting the fields in order makes no new numbers. -/
theorem stored_sorted {value : Json} (h : value.Throughout IsStored) :
    value.sorted.Throughout IsStored := by
  cases value with
  | array values =>
    rw [sorted, sortedValues_eq_map]
    refine throughout_array trivial fun entry hentry => ?_
    obtain ⟨inner, hinner, rfl⟩ := List.mem_map.mp hentry
    obtain ⟨index, hindex⟩ := List.mem_iff_getElem?.mp hinner
    have hplace : (array values).at? [toString index] = some inner := at?_of_getElem? hindex []
    exact stored_sorted (h.inner hplace)
  | object fields =>
    rw [sorted, sortedFields_eq_map]
    refine throughout_object trivial fun p hp => ?_
    rw [NameMap.mem_entries_iff, NameMap.find?_ofList,
      NameMap.findLast?_map (fun _ inner => sorted inner)] at hp
    obtain ⟨inner, hinner, heq⟩ := Option.map_eq_some_iff.mp hp
    have hplace : (object fields).at? [p.1] = some inner := at?_singleton hinner
    exact heq ▸ stored_sorted (h.inner hplace)
  | _ => exact h
termination_by sizeOf value
decreasing_by
  · subst_vars
    exact sizeOf_lt_array hinner
  · subst_vars
    exact sizeOf_lt_object (NameMap.mem_of_findLast?_eq_some hinner)

end Json

namespace Yaml.Node

open Json

variable {value : Json} {left rest : Nat}

theorem run_bind_eq_some_iff {α β : Type} {part : Expansion α} {next : α → Expansion β}
    {result : β × Nat} :
    (part >>= next).run left = some result ↔
      ∃ first middle, part.run left = some (first, middle) ∧
        (next first).run middle = some result := by
  rw [StateT.run_bind, Option.bind_eq_bind, Option.bind_eq_some_iff]
  exact Prod.exists

/-- Each result of a list of expansions is the result of one of them. -/
theorem exists_run_of_mem {α β : Type} {expand : α → Expansion β} {items : List α}
    {results : List β} (h : (items.mapM expand).run left = some (results, rest)) {result : β}
    (hmem : result ∈ results) :
    ∃ item ∈ items, ∃ before after, (expand item).run before = some (result, after) := by
  induction items generalizing results left with
  | nil =>
    cases h
    cases hmem
  | cons item items ih =>
    rw [List.mapM_cons] at h
    obtain ⟨first, middle, hfirst, h⟩ := run_bind_eq_some_iff.mp h
    obtain ⟨others, last, hothers, heq⟩ := run_bind_eq_some_iff.mp h
    cases heq
    rcases List.mem_cons.mp hmem with rfl | hmem
    · exact ⟨item, List.mem_cons_self, left, middle, hfirst⟩
    · obtain ⟨found, hfound, hrun⟩ := ih hothers hmem
      exact ⟨found, List.mem_cons_of_mem _ hfound, hrun⟩

theorem stored_of_ofInt? {n : Int} (h : ofInt? n = some value) : value.Throughout IsStored := by
  unfold ofInt? at h
  split at h
  · cases h
    exact stored_int (by omega)
  · cases h

theorem stored_ofDouble (x : Double) : (ofDouble x).Throughout IsStored := by
  unfold ofDouble
  split
  · rename_i hfinite
    exact stored_float hfinite
  · exact throughout_of_leaf trivial fun _ => rfl

theorem stored_of_ofScalar? {scalar : Scalar} (h : ofScalar? scalar = some value) :
    value.Throughout IsStored := by
  cases scalar with
  | int n => exact stored_of_ofInt? h
  | float x =>
    cases h
    exact stored_ofDouble x
  | _ =>
    cases h
    exact throughout_of_leaf trivial fun _ => rfl

theorem stored_of_scalarJson? {marks : Marks} {text : String} {plain : Bool}
    (h : scalarJson? marks text plain = some value) : value.Throughout IsStored := by
  unfold scalarJson? at h
  split at h
  · split at h
    · exact stored_of_ofScalar? h
    · cases h
      exact throughout_of_leaf trivial fun _ => rfl
  · split_ifs at h
    · obtain ⟨flag, -, rfl⟩ := Option.map_eq_some_iff.mp h
      exact throughout_of_leaf trivial fun _ => rfl
    · obtain ⟨n, -, hvalue⟩ := Option.bind_eq_some_iff.mp h
      exact stored_of_ofInt? hvalue
    · obtain ⟨x, -, rfl⟩ := Option.map_eq_some_iff.mp h
      exact stored_ofDouble x
    all_goals
      cases h
      exact throughout_of_leaf trivial fun _ => rfl

theorem stored_of_run_scalarJson? {marks : Marks} {text : String} {plain : Bool}
    (h : (StateT.lift (scalarJson? marks text plain) : Expansion Json).run left =
      some (value, rest)) : value.Throughout IsStored := by
  obtain ⟨found, hfound, heq⟩ := Option.bind_eq_some_iff.mp h
  cases heq
  exact stored_of_scalarJson? hfound

theorem stored_of_toJson {anchors : Anchors} {depth : Nat} {node : Node}
    (h : (toJson anchors depth node).run left = some (value, rest)) :
    value.Throughout IsStored := by
  induction depth generalizing node value left rest with
  | zero =>
    rw [toJson] at h
    obtain ⟨found, middle, -, h⟩ := run_bind_eq_some_iff.mp h
    split at h
    · exact stored_of_run_scalarJson? h
    · cases h
  | succ depth ih =>
    rw [toJson] at h
    obtain ⟨found, middle, -, h⟩ := run_bind_eq_some_iff.mp h
    split at h
    · exact stored_of_run_scalarJson? h
    · split at h
      · cases h
      · obtain ⟨values, last, hvalues, heq⟩ := run_bind_eq_some_iff.mp h
        cases heq
        refine throughout_array trivial fun entry hentry => ?_
        obtain ⟨item, -, before, after, hrun⟩ := exists_run_of_mem hvalues hentry
        exact ih hrun
    · split at h
      · cases h
      · obtain ⟨fields, last, hfields, heq⟩ := run_bind_eq_some_iff.mp h
        cases heq
        refine throughout_object trivial fun p hp => ?_
        obtain ⟨⟨key, inner⟩, -, before, after, hrun⟩ := exists_run_of_mem hfields hp
        obtain ⟨name, next, -, hrun⟩ := run_bind_eq_some_iff.mp hrun
        obtain ⟨text, next, -, hrun⟩ := run_bind_eq_some_iff.mp hrun
        obtain ⟨entry, next, hentry, heq⟩ := run_bind_eq_some_iff.mp hrun
        cases heq
        exact ih hentry
    · cases h

end Yaml.Node

/-- A value that was read from YAML text holds only numbers that JSON can hold. -/
theorem Yaml.stored_of_read? {text : String} {value : Json} (h : read? text = some value) :
    value.Throughout Json.IsStored := by
  obtain ⟨node, -, h⟩ := Option.bind_eq_some_iff.mp h
  cases node with
  | none =>
    cases h
    exact Json.throughout_of_leaf trivial fun _ => rfl
  | some root =>
    obtain ⟨⟨found, rest⟩, hrun, heq⟩ := Option.map_eq_some_iff.mp h
    cases heq
    exact Node.stored_of_toJson hrun

namespace Document

/-- A document that was read from text was read from a value whose numbers JSON can hold. -/
theorem exists_value_of_parse {text : String} {format : TextFormat} {document : Document}
    (h : parse text format = .ok document) :
    ∃ value : Json, value.Throughout Json.IsStored ∧ ofJson value = .ok document := by
  cases format with
  | json =>
    rw [parse] at h
    split at h
    · rename_i value hvalue
      exact ⟨value, Json.stored_of_read? hvalue, mapError_eq_ok_iff.mp h⟩
    · cases h
  | yaml =>
    rw [parse] at h
    split at h
    · rename_i value hvalue
      exact ⟨value.sorted, Json.stored_sorted (Yaml.stored_of_read? hvalue),
        mapError_eq_ok_iff.mp h⟩
    · cases h

/-- All limits in the catalog of a document that was read from text are finite. -/
theorem hasFiniteLimits_of_parse {text : String} {format : TextFormat} {document : Document}
    {options : Options} {catalog : Catalog} (hread : parse text format = .ok document)
    (hbuild : document.build options = .ok catalog) : catalog.HasFiniteLimits := by
  obtain ⟨value, hvalue, hvalueRead⟩ := exists_value_of_parse hread
  exact hasFiniteLimits_of_build hvalue hvalueRead hbuild

end Document

end SchemaCatalog

import SchemaCatalog.Json.Writer
import SchemaCatalog.Proofs.Equality

/-!
Values that differ only in the signs of zeros, as text. In texts of such values the first
difference is the sign of a zero, so the texts are the same only if the values are, also when more
text follows them.
-/
namespace SchemaCatalog.Json

mutual

/-- The same value with the positive zero in place of every zero. -/
def canonical : Json → Json
  | .float value => .float value.canonical
  | .array values => .array (canonicalValues values)
  | .object fields => .object (canonicalFields fields)
  | .null => .null
  | .bool value => .bool value
  | .int value => .int value
  | .string value => .string value
termination_by structural value => value

def canonicalValues : List Json → List Json
  | [] => []
  | value :: rest => value.canonical :: canonicalValues rest
termination_by structural values => values

def canonicalFields : List (String × Json) → List (String × Json)
  | [] => []
  | (name, value) :: rest => (name, value.canonical) :: canonicalFields rest
termination_by structural fields => fields

end

theorem canonicalValues_eq_map (values : List Json) :
    canonicalValues values = values.map canonical := by
  induction values with
  | nil => rfl
  | cons value rest ih => rw [canonicalValues, ih, List.map_cons]

theorem canonicalFields_eq_map (fields : List (String × Json)) :
    canonicalFields fields = fields.map fun p => (p.1, p.2.canonical) := by
  induction fields with
  | nil => rfl
  | cons p rest ih => rw [canonicalFields, ih, List.map_cons]

theorem floatText_signedZero (negative : Bool) :
    floatText (.signedZero negative) = if negative then "-0.0" else "0.0" := by
  cases negative <;> rfl

/-- Texts of a number and of the same number up to the sign of a zero end at one place, and where
they differ one has a sign and the other a digit. -/
theorem floatText_append_inj {x y : Double} {after rest : String} (h : x.canonical = y.canonical)
    (htext : floatText x ++ after = floatText y ++ rest) : x = y ∧ after = rest := by
  rcases Double.canonical_eq_iff.mp h with rfl | ⟨hx, hy⟩
  · exact ⟨rfl, (String.append_right_inj _).mp htext⟩
  · rw [Double.eq_signedZero hx, Double.eq_signedZero hy] at htext ⊢
    rw [floatText_signedZero, floatText_signedZero] at htext
    have hhead := congrArg (·.toList.head?) htext
    have hsign : x.negative = y.negative := by
      cases hx : x.negative <;> cases hy : y.negative <;> simp [hx, hy] at hhead ⊢
    rw [hsign] at htext ⊢
    exact ⟨rfl, (String.append_right_inj _).mp htext⟩

theorem compactValues_eq_map (values : List Json) : compactValues values = values.map compact := by
  induction values with
  | nil => rfl
  | cons value rest ih => rw [compactValues, ih, List.map_cons]

def fieldText (p : String × Json) : String := quoted p.1 ++ ":" ++ p.2.compact

theorem compactFields_eq_map (fields : List (String × Json)) :
    compactFields fields = fields.map fieldText := by
  induction fields with
  | nil => rfl
  | cons p rest ih => rw [compactFields, ih, List.map_cons, fieldText]

/-- Items that can be told apart in texts that go on after them can be told apart between commas. -/
theorem intercalate_append_inj {α : Type} {text : α → String} {alike : α → α → Prop}
    {xs ys : List α} {after rest : String} (halike : List.Forall₂ alike xs ys)
    (hitem : ∀ x ∈ xs, ∀ {y after rest}, alike x y → text x ++ after = text y ++ rest →
      x = y ∧ after = rest)
    (h : ",".intercalate (xs.map text) ++ after = ",".intercalate (ys.map text) ++ rest) :
    xs = ys ∧ after = rest := by
  induction halike with
  | nil => exact ⟨rfl, (String.append_right_inj _).mp h⟩
  | @cons x y xs ys hxy halike ih =>
    cases halike with
    | nil =>
      simp only [List.map_cons, List.map_nil, String.intercalate_singleton] at h
      obtain ⟨rfl, hrest⟩ := hitem x List.mem_cons_self hxy h
      exact ⟨rfl, hrest⟩
    | cons hnext halike =>
      simp only [List.map_cons, String.intercalate_cons_cons, String.append_assoc] at h
      obtain ⟨rfl, hcomma⟩ := hitem x List.mem_cons_self hxy h
      have htail := (String.append_right_inj _).mp hcomma
      obtain ⟨heq, hrest⟩ := ih (fun z hz => hitem z (List.mem_cons_of_mem _ hz)) htail
      exact ⟨by rw [heq], hrest⟩

/-- Texts of values that differ only in the signs of zeros, with any text after them, are the same
only if the values are. -/
theorem compact_append_inj {x y : Json} {after rest : String} (h : x.canonical = y.canonical)
    (htext : x.compact ++ after = y.compact ++ rest) : x = y ∧ after = rest := by
  have hcancel : ∀ {text : String}, text ++ after = text ++ rest → after = rest :=
    (String.append_right_inj _).mp
  -- Both values have one constructor, for the canonical form keeps it. The text after an item of
  -- an array or object is the rest of the array or object, so the induction is for any text after.
  cases x with
  | float x => cases y with
    | float y =>
      obtain ⟨rfl, hrest⟩ := floatText_append_inj (Json.float.inj h) htext
      exact ⟨rfl, hrest⟩
    | _ => cases h
  | array xs => cases y with
    | array ys =>
      have halike : List.Forall₂ (fun x y => canonical x = canonical y) xs ys := by
        rw [← map_eq_map_iff_forall₂, ← canonicalValues_eq_map, ← canonicalValues_eq_map]
        exact Json.array.inj h
      simp only [compact, compactValues_eq_map, String.append_assoc] at htext
      have hitems := (String.append_right_inj _).mp htext
      obtain ⟨rfl, hclosing⟩ := intercalate_append_inj halike
        (fun value hmem => compact_append_inj) hitems
      exact ⟨rfl, hcancel hclosing⟩
    | _ => cases h
  | object xs => cases y with
    | object ys =>
      have halike : List.Forall₂ (fun p q => p.1 = q.1 ∧ canonical p.2 = canonical q.2) xs ys := by
        have hfields := Json.object.inj h
        rw [canonicalFields_eq_map, canonicalFields_eq_map, map_eq_map_iff_forall₂] at hfields
        simpa only [Prod.mk.injEq] using hfields
      simp only [compact, compactFields_eq_map, String.append_assoc] at htext
      have hitems := (String.append_right_inj _).mp htext
      have hfield : ∀ p ∈ xs, ∀ {q after rest}, p.1 = q.1 ∧ canonical p.2 = canonical q.2 →
          fieldText p ++ after = fieldText q ++ rest → p = q ∧ after = rest := by
        rintro ⟨name, value⟩ hmem ⟨other, found⟩ after rest ⟨rfl, hvalue⟩ hfield
        simp only [fieldText, String.append_assoc] at hfield
        have hcolon := (String.append_right_inj _).mp hfield
        obtain ⟨rfl, hrest⟩ := compact_append_inj hvalue ((String.append_right_inj _).mp hcolon)
        exact ⟨rfl, hrest⟩
      obtain ⟨rfl, hclosing⟩ := intercalate_append_inj halike hfield hitems
      exact ⟨rfl, hcancel hclosing⟩
    | _ => cases h
  | _ =>
    cases y <;> cases h
    exact ⟨rfl, hcancel htext⟩
termination_by sizeOf x
decreasing_by
  · subst_vars
    exact sizeOf_lt_array hmem
  · subst_vars
    exact sizeOf_lt_object hmem

end SchemaCatalog.Json

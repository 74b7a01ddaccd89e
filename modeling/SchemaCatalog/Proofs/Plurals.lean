import Mathlib.Data.List.Forall2
import SchemaCatalog.Proofs.Stems

/-!
Plurals character by character. A name is cut by a number of bytes, but the two cases of a letter
have one size. So the cut finds the plural suffix just where the last characters of the name are
those of the suffix, and the names of a list and its elements are a stem and that stem with a
suffix, whichever of the two was given.
-/
namespace SchemaCatalog.Naming

/-- That two characters are the same up to the case of ASCII letters. -/
def SameLetter (c d : Char) : Prop :=
  c = d ∨ (c.isUpper ∧ d.toNat = c.toNat + 32) ∨ (d.isUpper ∧ c.toNat = d.toNat + 32)

instance (c d : Char) : Decidable (SameLetter c d) :=
  inferInstanceAs (Decidable (c = d ∨ _ ∨ _))

/-- That a name is a plural: it is longer than the suffix, and its last characters are those of
the suffix up to case. An empty suffix makes no plurals. -/
def IsPlural (naming : Naming) (name : String) : Prop :=
  naming.pluralSuffix ≠ "" ∧ naming.pluralSuffix.length < name.length ∧
    List.Forall₂ SameLetter (name.toList.drop (name.length - naming.pluralSuffix.length))
      naming.pluralSuffix.toList

instance (naming : Naming) (name : String) : Decidable (naming.IsPlural name) :=
  inferInstanceAs (Decidable (_ ∧ _ ∧ _))

section Letters

variable {c d : Char}

theorem isUpper_iff (c : Char) : c.isUpper ↔ 65 ≤ c.toNat ∧ c.toNat ≤ 90 :=
  decide_eq_true_iff

theorem toNat_toLower (c : Char) :
    c.toLower.toNat = if c.isUpper then c.toNat + 32 else c.toNat := by
  by_cases h : c.isUpper
  · have hrange : 65 ≤ c.toNat ∧ c.toNat ≤ 90 := (isUpper_iff c).mp h
    have hlower : c.toLower.toNat = (c.val + 32).toNat := congrArg Char.toNat (dif_pos hrange)
    have hsum : (c.val + 32).toNat = (c.toNat + 32) % 4294967296 := UInt32.toNat_add ..
    rw [if_pos h, hlower, hsum]
    omega
  · have hlower : c.toLower = c := dif_neg fun hrange => h ((isUpper_iff c).mpr hrange)
    rw [if_neg h, hlower]

theorem sameLetter_iff : SameLetter c d ↔ c.toLower = d.toLower := by
  rw [SameLetter, ← Char.toNat_inj, ← Char.toNat_inj, toNat_toLower, toNat_toLower]
  simp only [isUpper_iff]
  split <;> split <;> omega

theorem utf8Size_of_toNat_le (h : c.toNat ≤ 127) : c.utf8Size = 1 :=
  Char.utf8Size_eq_one_iff.mpr h

theorem SameLetter.utf8Size_eq (h : SameLetter c d) : c.utf8Size = d.utf8Size := by
  have hsmall : c = d ∨ (c.toNat ≤ 127 ∧ d.toNat ≤ 127) := by
    simp only [SameLetter, isUpper_iff] at h
    rcases h with heq | hother | hother
    · exact .inl heq
    · exact .inr (by omega)
    · exact .inr (by omega)
  rcases hsmall with rfl | ⟨hc, hd⟩
  · rfl
  · rw [utf8Size_of_toNat_le hc, utf8Size_of_toNat_le hd]

theorem forall₂_sameLetter_iff {xs ys : List Char} :
    List.Forall₂ SameLetter xs ys ↔ xs.map Char.toLower = ys.map Char.toLower := by
  rw [← List.forall₂_eq_eq_eq, List.forall₂_map_left_iff, List.forall₂_map_right_iff]
  exact ⟨fun h => h.imp fun _ _ => sameLetter_iff.mp, fun h => h.imp fun _ _ => sameLetter_iff.mpr⟩

end Letters

section Cutting

theorem byteSize_append (xs ys : List Char) : byteSize (xs ++ ys) = byteSize xs + byteSize ys := by
  induction xs with
  | nil => simp [byteSize]
  | cons c cs ih => rw [List.cons_append, byteSize, byteSize, ih, Nat.add_assoc]

theorem splitBytes_append (head tail : List Char) :
    splitBytes (byteSize head) (head ++ tail) = some (head, tail) := by
  induction head with
  | nil => rw [byteSize, splitBytes, List.nil_append]
  | cons c cs ih =>
    have hpos := c.utf8Size_pos
    obtain ⟨n, hn⟩ : ∃ n, c.utf8Size + byteSize cs = n + 1 :=
      ⟨c.utf8Size + byteSize cs - 1, by omega⟩
    have hfits : c.utf8Size ≤ n + 1 := by omega
    have hrest : n + 1 - c.utf8Size = byteSize cs := by omega
    rw [byteSize, hn, List.cons_append, splitBytes, if_pos hfits, hrest, ih]
    rfl

theorem byteSize_eq_of_forall₂ {xs ys : List Char} (h : List.Forall₂ SameLetter xs ys) :
    byteSize xs = byteSize ys := by
  induction h with
  | nil => rfl
  | cons hletter _ ih => rw [byteSize, byteSize, hletter.utf8Size_eq, ih]

/-- The cut by bytes finds what is before the suffix, and nothing else. -/
theorem stripSuffix_eq_some_iff {suffix name head : List Char} :
    stripSuffix suffix name = some head ↔
      suffix ≠ [] ∧ ∃ tail, name = head ++ tail ∧ List.Forall₂ SameLetter tail suffix := by
  constructor
  · intro h
    obtain ⟨tail, hname, htail⟩ := exists_of_stripSuffix h
    refine ⟨?_, tail, hname, forall₂_sameLetter_iff.mpr htail⟩
    rintro rfl
    cases h
  · rintro ⟨hsuffix, tail, rfl, htail⟩
    have hbytes := byteSize_eq_of_forall₂ htail
    have hcut : byteSize head + byteSize suffix - byteSize suffix = byteSize head := by omega
    have hlong : ¬ byteSize head + byteSize suffix < byteSize suffix := by omega
    have hsame : sameIgnoringCase tail suffix = true := by
      rw [sameIgnoringCase, beq_iff_eq]
      exact forall₂_sameLetter_iff.mp htail
    simp [stripSuffix, byteSize_append, hbytes, hcut, hlong, hsuffix, splitBytes_append, hsame]

theorem stripSuffix_append {suffix : List Char} (h : suffix ≠ []) (head : List Char) :
    stripSuffix suffix (head ++ suffix) = some head :=
  stripSuffix_eq_some_iff.mpr ⟨h, suffix, rfl, List.forall₂_same.mpr fun _ _ => .inl rfl⟩

end Cutting

section Names

variable {naming : Naming} {enclosing : String}

/-- A name is a plural if something is left of it before the suffix. -/
theorem isPlural_iff :
    naming.IsPlural enclosing ↔
      ∃ head ≠ [], stripSuffix naming.pluralSuffix.toList enclosing.toList = some head := by
  have hempty : naming.pluralSuffix.toList ≠ [] ↔ naming.pluralSuffix ≠ "" := by simp
  constructor
  · rintro ⟨hsuffix, hlength, htail⟩
    let size := enclosing.length - naming.pluralSuffix.length
    refine ⟨enclosing.toList.take size, ?_, ?_⟩
    · have hne : enclosing ≠ "" := by
        rintro rfl
        simp at hlength
      have hsize : size ≠ 0 := by omega
      simp [hsize, hne]
    · refine stripSuffix_eq_some_iff.mpr ⟨hempty.mpr hsuffix, enclosing.toList.drop size, ?_, htail⟩
      exact (List.take_append_drop size enclosing.toList).symm
  · rintro ⟨head, hhead, hstrip⟩
    obtain ⟨hsuffix, tail, hname, htail⟩ := stripSuffix_eq_some_iff.mp hstrip
    have hsame : tail.length = naming.pluralSuffix.length := by
      rw [htail.length_eq, String.length_toList]
    have hlength : enclosing.length = head.length + naming.pluralSuffix.length := by
      rw [← String.length_toList, hname, List.length_append, hsame]
    have hpos : 0 < head.length := List.length_pos_of_ne_nil hhead
    refine ⟨hempty.mp hsuffix, by omega, ?_⟩
    have hcut : enclosing.length - naming.pluralSuffix.length = head.length := by omega
    rw [hcut, hname, List.drop_left]
    exact htail

/-- A plural is the list's name, and the element has it without the letters of the suffix. -/
theorem split_of_isPlural (h : naming.IsPlural enclosing) :
    ∃ tail, List.Forall₂ SameLetter tail.toList naming.pluralSuffix.toList ∧
      (naming.split enclosing).list = enclosing ∧ (naming.split enclosing).element ≠ "" ∧
      enclosing = (naming.split enclosing).element ++ tail := by
  obtain ⟨head, hhead, hstrip⟩ := isPlural_iff.mp h
  obtain ⟨c, cs, rfl⟩ := List.exists_cons_of_ne_nil hhead
  obtain ⟨-, tail, hname, htail⟩ := stripSuffix_eq_some_iff.mp hstrip
  have hsplit : naming.split enclosing = ⟨enclosing, String.ofList (c :: cs)⟩ := by
    rw [split, hstrip]
  refine ⟨String.ofList tail, by rwa [String.toList_ofList], ?_, ?_, ?_⟩
  · rw [hsplit]
  · rw [hsplit]
    simp
  · rw [hsplit, ← String.ofList_append, ← hname, String.ofList_toList]

/-- Any other name is the element's, and the list's has the suffix after it. -/
theorem split_of_not_isPlural (h : ¬ naming.IsPlural enclosing) :
    naming.split enclosing = ⟨enclosing ++ naming.pluralSuffix, enclosing⟩ := by
  unfold split
  split
  · rename_i c cs hstrip
    exact absurd (isPlural_iff.mpr ⟨c :: cs, List.cons_ne_nil c cs, hstrip⟩) h
  · rfl

theorem element_ne_iff :
    (naming.split enclosing).element ≠ enclosing ↔ naming.IsPlural enclosing := by
  constructor
  · intro hne
    by_contra h
    rw [split_of_not_isPlural h] at hne
    exact hne rfl
  · intro h heq
    obtain ⟨tail, htail, -, -, hname⟩ := split_of_isPlural h
    have hlength : enclosing.length = enclosing.length + tail.length := by
      rw [← String.length_append, ← heq, ← hname, heq]
    have hnil : tail = "" := String.length_eq_zero_iff.mp (by omega)
    rw [hnil, String.toList_empty, List.forall₂_nil_left_iff] at htail
    exact h.1 (by simpa using htail)

/-- A name with the suffix after it loses just that. -/
theorem split_append (hsuffix : naming.pluralSuffix ≠ "") (h : enclosing ≠ "") :
    naming.split (enclosing ++ naming.pluralSuffix) =
      ⟨enclosing ++ naming.pluralSuffix, enclosing⟩ := by
  have hstrip : stripSuffix naming.pluralSuffix.toList (enclosing ++ naming.pluralSuffix).toList =
      some enclosing.toList := by
    rw [String.toList_append]
    exact stripSuffix_append (by simpa using hsuffix) _
  obtain ⟨c, cs, hcs⟩ := List.exists_cons_of_ne_nil (l := enclosing.toList) (by simpa using h)
  rw [hcs] at hstrip
  rw [split, hstrip]
  dsimp only
  rw [← hcs, String.ofList_toList]

/-- The names of a list and its elements around a name: one of them is that name, the list's is
the element's with the letters of the suffix after it, and from the list's name both come back.
The name is taken for a plural just if it is one by its characters. -/
theorem split_factors (naming : Naming) {enclosing : String} (h : enclosing ≠ "") :
    let names := naming.split enclosing
    names.element ≠ "" ∧
      (∃ tail, names.list = names.element ++ tail ∧
        List.Forall₂ SameLetter tail.toList naming.pluralSuffix.toList) ∧
      (names.list = enclosing ∨ names.element = enclosing) ∧
      naming.split names.list = names ∧
      (names.list ≠ names.element ↔ naming.pluralSuffix ≠ "") ∧
      (names.element ≠ enclosing ↔ naming.IsPlural enclosing) := by
  intro names
  by_cases hplural : naming.IsPlural enclosing
  · obtain ⟨tail, htail, hlist, helement, hname⟩ := split_of_isPlural hplural
    have hshorter : names.element ≠ enclosing := element_ne_iff.mpr hplural
    refine ⟨helement, ⟨tail, hlist.trans hname, htail⟩, .inl hlist, ?_, ?_, element_ne_iff⟩
    · rw [hlist]
    · exact iff_of_true (hlist ▸ hshorter.symm) hplural.1
  · have hnames : names = ⟨enclosing ++ naming.pluralSuffix, enclosing⟩ :=
      split_of_not_isPlural hplural
    refine ⟨?_, ⟨naming.pluralSuffix, ?_, List.forall₂_same.mpr fun _ _ => .inl rfl⟩, ?_, ?_, ?_,
      element_ne_iff⟩
    all_goals rw [hnames]
    · exact h
    · exact .inr rfl
    · by_cases hsuffix : naming.pluralSuffix = ""
      · dsimp only
        rw [hsuffix, String.append_empty]
        exact hnames.trans (by rw [hsuffix, String.append_empty])
      · exact split_append hsuffix h
    · simp

/-- A suffix that is found in another case, with a character of two bytes right after the cut. -/
theorem split_factors_accented :
    let naming : Naming := ⟨"éS"⟩
    let names : ListNames := ⟨"cafés", "caf"⟩
    "cafés" ≠ "" ∧ naming.split "cafés" = names ∧
      names.element ≠ "" ∧
      (∃ tail, names.list = names.element ++ tail ∧
        List.Forall₂ SameLetter tail.toList naming.pluralSuffix.toList) ∧
      (names.list = "cafés" ∨ names.element = "cafés") ∧
      naming.split names.list = names ∧
      (names.list ≠ names.element ↔ naming.pluralSuffix ≠ "") ∧
      (names.element ≠ "cafés" ↔ naming.IsPlural "cafés") := by
  intro naming names
  have hne : "cafés" ≠ "" := by decide
  have hsplit : naming.split "cafés" = names := by decide
  refine ⟨hne, hsplit, ?_⟩
  rw [← hsplit]
  exact split_factors naming hne

-- Letters outside ASCII have no cases here.
example : (⟨"éS"⟩ : Naming).split "CAFÉs" = ⟨"CAFÉséS", "CAFÉs"⟩ := by decide

end Names

end SchemaCatalog.Naming

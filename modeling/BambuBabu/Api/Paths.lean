import BambuBabu.Api.UploadJob

/-!
# `Api.Paths` — the names of the stored files

What the naming scheme of uploads and slices guarantees, on the characters of the paths.
-/

namespace BambuBabu

variable {s : Settings} {id : JobId} {dir stl path : String} {p : PrinterID}

theorem uploadPath_toList (s : Settings) (id : JobId) :
    (uploadPath s id).toList = s.uploadDir.toList ++ '/' :: (id.toList ++ ".stl".toList) := by
  have h : uploadPath s id = s.uploadDir ++ "/" ++ id ++ ".stl" := rfl
  rw [h]
  simp

theorem partialPath_toList (s : Settings) (id : JobId) :
    (partialPath s id).toList = s.uploadDir.toList ++ '/' :: (id.toList ++ ".stl.part".toList) := by
  have h : partialPath s id = s.uploadDir ++ "/" ++ id ++ ".stl.part" := rfl
  rw [h]
  simp

theorem sliceOutput_toList (dir stl : String) (p : PrinterID) :
    (sliceOutput dir stl p).toList
      = dir.toList ++ '/' :: ((pathStem stl).toList ++ '-' :: (p.value.toList ++ ".gcode.3mf".toList)) := by
  have h : sliceOutput dir stl p = dir ++ "/" ++ pathStem stl ++ "-" ++ p.value ++ ".gcode.3mf" := rfl
  rw [h]
  simp

/-! ## Suffixes -/

theorem uploadPath_getLast : (uploadPath s id).toList.getLast? = some 'l' := by
  rw [uploadPath_toList, ← List.cons_append, ← List.append_assoc, List.getLast?_append]
  rfl

theorem partialPath_getLast : (partialPath s id).toList.getLast? = some 't' := by
  rw [partialPath_toList, ← List.cons_append, ← List.append_assoc, List.getLast?_append]
  rfl

theorem sliceOutput_getLast : (sliceOutput dir stl p).toList.getLast? = some 'f' := by
  rw [sliceOutput_toList, ← List.cons_append, ← List.append_assoc, ← List.cons_append, ← List.append_assoc,
    List.getLast?_append]
  rfl

/-- A slice is not the file of an upload, under either name. -/
theorem sliceOutput_ne_uploadPath : sliceOutput dir stl p ≠ uploadPath s id := by
  intro h
  have hlast : (sliceOutput dir stl p).toList.getLast? = some 'l' := h ▸ uploadPath_getLast
  rw [sliceOutput_getLast] at hlast
  exact absurd hlast (by decide)

theorem sliceOutput_ne_partialPath : sliceOutput dir stl p ≠ partialPath s id := by
  intro h
  have hlast : (sliceOutput dir stl p).toList.getLast? = some 't' := h ▸ partialPath_getLast
  rw [sliceOutput_getLast] at hlast
  exact absurd hlast (by decide)

theorem partialPath_ne_uploadPath : partialPath s id ≠ uploadPath s id := by
  intro h
  have hlast : (partialPath s id).toList.getLast? = some 'l' := h ▸ uploadPath_getLast
  rw [partialPath_getLast] at hlast
  exact absurd hlast (by decide)

/-! ## Directories -/

/-- What follows the last slash does not matter for the directory. -/
theorem parentDir_append {a b : String} (front back back' : List Char) (ha : a.toList = front ++ back)
    (hb : b.toList = front ++ back') (hback : '/' ∉ back) (hback' : '/' ∉ back') : parentDir a = parentDir b := by
  have hdrop : ∀ {t : List Char}, '/' ∉ t →
      (front ++ t).reverse.dropWhile (· ≠ '/') = front.reverse.dropWhile (· ≠ '/') := by
    intro t ht
    rw [List.reverse_append, List.dropWhile_append_of_pos]
    intro c hc
    have hmem : c ∈ t := List.mem_reverse.mp hc
    simp only [ne_eq, decide_eq_true_eq]
    rintro rfl
    exact ht hmem
  unfold parentDir
  rw [ha, hb, hdrop hback, hdrop hback']

/-- The two names of an upload lie in one directory. -/
theorem parentDir_partialPath (s : Settings) (id : JobId) :
    parentDir (partialPath s id) = parentDir (uploadPath s id) := by
  apply parentDir_append (s.uploadDir.toList ++ '/' :: id.toList) ".stl.part".toList ".stl".toList
  · rw [partialPath_toList, List.append_assoc, List.cons_append]
  · rw [uploadPath_toList, List.append_assoc, List.cons_append]
  · decide
  · decide

/-! ## Owners -/

/-- What `str(uuid.uuid4())` is made of: 36 hexadecimal digits and hyphens. -/
def IsUuid (id : JobId) : Prop :=
  id.toList.length = 36 ∧ (id.toList.all fun c => "0123456789abcdef-".toList.contains c) = true

instance (id : JobId) : Decidable (IsUuid id) := inferInstanceAs (Decidable (_ ∧ _))

theorem IsUuid.notMem (h : IsUuid id) {c : Char} (hc : "0123456789abcdef-".toList.contains c = false) :
    c ∉ id.toList := by
  intro hmem
  have hdigit := List.all_eq_true.mp h.2 c hmem
  rw [hc] at hdigit
  cases hdigit

theorem IsUuid.ne_empty (h : IsUuid id) : id ≠ "" := by
  rintro rfl
  exact absurd h.1 (by decide)

/-- The name under which a file lies in its directory. -/
theorem pathName_eq {name : List Char} (h : path.toList = dir.toList ++ '/' :: name) (hname : '/' ∉ name) :
    (pathName path).toList = name := by
  have htake : path.toList.reverse.takeWhile (· ≠ '/') = name.reverse := by
    rw [h, List.reverse_append, List.reverse_cons, List.append_assoc, List.takeWhile_append_of_pos]
    · rw [List.singleton_append, List.takeWhile_cons_of_neg (by decide), List.append_nil]
    · intro c hc
      have hmem : c ∈ name := List.mem_reverse.mp hc
      simp only [ne_eq, decide_eq_true_eq]
      rintro rfl
      exact hname hmem
  unfold pathName
  rw [htake, List.reverse_reverse, String.toList_ofList]

theorem pathName_uploadPath (h : IsUuid id) :
    (pathName (uploadPath s id)).toList = id.toList ++ ".stl".toList := by
  apply pathName_eq (uploadPath_toList s id)
  intro hmem
  rcases List.mem_append.mp hmem with hid | hsuffix
  · exact h.notMem (by decide) hid
  · exact absurd hsuffix (by decide)

/-- The stem of the model file is the id of its job. -/
theorem pathStem_uploadPath (h : IsUuid id) : pathStem (uploadPath s id) = id := by
  have hsuffix : (id.toList ++ ".stl".toList).reverse.takeWhile (· ≠ '.') = ['l', 't', 's'] := by
    rw [List.reverse_append]
    rfl
  have hkept : (id.toList ++ ".stl".toList).take ((id.toList ++ ".stl".toList).length - 3 - 1) = id.toList := by
    have hlen : (id.toList ++ ".stl".toList).length - 3 - 1 = id.toList.length := by
      rw [List.length_append]
      rfl
    rw [hlen, List.take_left]
  have hne : id.toList.isEmpty = false := by
    rw [List.isEmpty_eq_false_iff]
    intro hnil
    have hlen := h.1
    rw [hnil] at hlen
    cases hlen
  unfold pathStem
  simp only [pathName_uploadPath h, hsuffix, List.length_cons, List.length_nil, Nat.zero_add, Nat.reduceAdd, hkept,
    hne, List.isEmpty_cons, Bool.or_false, Bool.false_eq_true, if_false]
  exact String.ofList_toList

theorem pathName_sliceOutput (h : IsUuid id) : (pathName (sliceOutput dir (uploadPath s id) p)).toList
    = id.toList ++ '-' :: (p.value.toList ++ ".gcode.3mf".toList) := by
  have hlist := sliceOutput_toList dir (uploadPath s id) p
  rw [pathStem_uploadPath h] at hlist
  apply pathName_eq hlist
  intro hmem
  rcases List.mem_append.mp hmem with hid | hsuffix
  · exact h.notMem (by decide) hid
  · revert hsuffix
    cases p <;> decide

/-- The job that a stored file is named after. -/
def fileOwner (path : String) : JobId := String.ofList ((pathName path).toList.take 36)

theorem fileOwner_uploadPath (h : IsUuid id) : fileOwner (uploadPath s id) = id := by
  unfold fileOwner
  rw [pathName_uploadPath h, ← h.1, List.take_left]
  exact String.ofList_toList

/-- A slice is named after the same job as the model it was made from. -/
theorem fileOwner_sliceOutput (h : IsUuid id) : fileOwner (sliceOutput dir (uploadPath s id) p) = id := by
  unfold fileOwner
  rw [pathName_sliceOutput h, ← h.1, List.take_left]
  exact String.ofList_toList

example : fileOwner (sliceOutput "sliced" "uploads/123e4567-e89b-42d3-a456-426614174000.stl" .p1s)
    = "123e4567-e89b-42d3-a456-426614174000" := by decide +kernel

end BambuBabu

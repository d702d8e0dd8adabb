import Spreadsheet.Host.Session

/-!
# Written files

A path leads to where a text was written to it: putting a file where no folder is leaves every
folder on the way in its place (`FileTree.walk_put`). So what is written to a path is read from it
again (`FileTree.readText_put`), if it was kept as a file and not taken away by a device
(`FileTree.Writable`).
-/

namespace Spreadsheet.FileTree

variable {t : FileTree} {target here next : List String} {item : FileItem} {path text : String}
  {content : ByteArray}

/-- A file can be made or replaced at the path. -/
def Writable (t : FileTree) (path : String) : Prop :=
  ∃ names, t.target path = .ok names ∧ ∀ d, t.find? names ≠ some (.device d)

/-! ## Following a path -/

/-- What is elsewhere stays when something is put at a list of names. -/
theorem lookup_put (t : FileTree) (item : FileItem) (ne : here ≠ target) :
    (t.put target item).items.lookup here = t.items.lookup here := by
  have others : ∀ items : List (List String × FileItem),
      (items.filter fun x => decide (x.1 ≠ target)).lookup here = items.lookup here := by
    intro items
    induction items with
    | nil => rfl
    | cons x items ih =>
      by_cases eq : x.1 = target
      · have differ : (here == x.1) = false := beq_false_of_ne (eq ▸ ne)
        rw [List.filter_cons_of_neg (by simpa using eq), ih, List.lookup_cons, differ]
      · rw [List.filter_cons_of_pos (by simpa using eq), List.lookup_cons, List.lookup_cons, ih]
  rw [put, List.lookup_cons, beq_false_of_ne ne]
  exact others t.items

/-- A folder stays one when something is put elsewhere. -/
theorem find?_put_of_folder (folder : t.find? here = some .folder) (ne : here ≠ target) :
    (t.put target item).find? here = some .folder := by
  have still : t.items.any (fun x => here.isPrefixOf x.1) = true →
      (t.put target item).items.any (fun x => here.isPrefixOf x.1) = true := by
    intro leads
    obtain ⟨other, mem, leads⟩ := List.any_eq_true.1 leads
    by_cases eq : other.1 = target
    · exact List.any_eq_true.2 ⟨(target, item), List.mem_cons_self, eq ▸ leads⟩
    · have stays : other ∈ t.items.filter fun x => decide (x.1 ≠ target) :=
        List.mem_filter.2 ⟨mem, by simpa using eq⟩
      exact List.any_eq_true.2 ⟨other, List.mem_cons_of_mem _ stays, leads⟩
  unfold find? at folder ⊢
  rw [lookup_put t item ne]
  split at folder
  · exact folder
  · split at folder
    · rename_i leads
      refine if_pos ?_
      rw [Bool.or_eq_true] at leads ⊢
      exact leads.imp id still
    · cases folder

/-- A step from a folder leads to the same place when something is put where no folder is. -/
theorem step_put {name : String} (free : t.find? target ≠ some .folder)
    (h : t.step here name = .ok next) : (t.put target item).step here name = .ok next := by
  cases found : t.find? here with
  | none => simp [step, found] at h
  | some there =>
    cases there with
    | folder =>
      have ne : here ≠ target := fun eq => free (eq ▸ found)
      rw [step, found] at h
      rw [step, find?_put_of_folder found ne]
      exact h
    | file content access => simp [step, found] at h
    | device d => simp [step, found] at h

/-- **The names on the way lead to the same place** when something is put where no folder is. -/
theorem walk_put {names : List String} (free : t.find? target ≠ some .folder)
    (h : t.walk here names = .ok next) : (t.put target item).walk here names = .ok next := by
  induction names generalizing here with
  | nil => exact h
  | cons name names ih =>
    rw [walk, List.foldlM_cons] at h ⊢
    cases first : t.step here name with
    | error e =>
      rw [first] at h
      cases h
    | ok there =>
      rw [first] at h
      rw [step_put free first]
      exact ih h

theorem follow_put {names : List String} (free : t.find? target ≠ some .folder)
    (h : t.follow path names = .ok next) : (t.put target item).follow path names = .ok next := by
  unfold follow at h ⊢
  split at h
  · cases h
  · rename_i not_empty
    rw [if_neg not_empty]
    split at h
    · cases h
    · rename_i short
      rw [if_neg short]
      exact walk_put free h

/-- A dot is followed in a folder only, and stays there. -/
theorem find?_of_follow_dot {names : List String} (h : t.follow path (names ++ ["."]) = .ok next) :
    t.find? next = some .folder := by
  have of_step : ∀ here, t.step here "." = .ok next → t.find? next = some .folder := by
    intro here h
    unfold step at h
    split at h
    · cases h
    · rename_i folder
      simp only [or_true, if_true] at h
      exact Except.ok.inj h ▸ folder
    · cases h
  unfold follow walk at h
  split at h
  · cases h
  · split at h
    · cases h
    · rw [List.foldlM_append] at h
      generalize List.foldlM t.step _ names = reached at h
      cases reached with
      | error e => cases h
      | ok here =>
        have last : List.foldlM t.step here ["."] = .ok next := h
        simp only [List.foldlM_cons, List.foldlM_nil, bind_pure] at last
        exact of_step here last

/-- A text is written where the path leads, and no folder is there. A slash at the end of a path asks
for a folder. -/
theorem target_cases {names : List String} (h : t.target path = .ok names) :
    t.follow path (FileTree.names path.toList) = .ok names ∧ t.find? names ≠ some .folder := by
  unfold target at h
  split at h
  · cases h
  · rename_i reached followed
    split at h
    · cases h
    · rename_i free
      obtain rfl := Except.ok.inj h
      have not_folder : t.find? reached ≠ some .folder := by
        intro folder
        rw [folder] at free
        cases free
      refine ⟨?_, not_folder⟩
      unfold writtenNames at followed
      split at followed
      · exact absurd (find?_of_follow_dot followed) not_folder
      · exact followed

/-! ## Reading what was written -/

/-- **A written file is there.** -/
theorem get_put {names : List String} (h : t.target path = .ok names) :
    (t.put names (.file content)).get path = .ok (.file content) := by
  obtain ⟨followed, not_folder⟩ := target_cases h
  have again : (t.put names (.file content)).follow path (FileTree.names path.toList) = .ok names :=
    follow_put not_folder followed
  simp only [get, again, find?_put_self]

theorem isThere_put {names : List String} (h : t.target path = .ok names) :
    (t.put names (.file content)).isThere path = true := by
  rw [isThere, get_put h]
  rfl

theorem size_put {names : List String} (h : t.target path = .ok names) :
    (t.put names (.file content)).size path = .ok content.size := by
  rw [size, get_put h]

/-- **A written text is read again.** -/
theorem readText_put {names : List String} (h : t.target path = .ok names) :
    (t.put names (.file text.toUTF8)).readText path = .ok text := by
  have valid : text.toUTF8.IsValidUTF8 := text.isValidUTF8
  have readable : ¬Access.all = .nothing := by decide
  simp only [readText, get_put h, if_neg readable, String.fromUTF8?, dif_pos valid]
  rfl

end Spreadsheet.FileTree

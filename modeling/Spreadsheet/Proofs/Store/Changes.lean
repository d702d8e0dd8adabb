import Spreadsheet.Proofs.Store.Links

/-!
# Changes that keep a store linked

Putting a parsed cell together with its links (`put`), dropping cells (`dropCell`, `dropOutside`),
forgetting values (`invalidateAll`) and keeping them for stored cells (`cacheAll`) each lead from a
linked store to a linked store; the last two change nothing but values (`Keeps`). Beside that each
has its effect: which texts it changes, and that the other cells that stay stored are the same as
before, their values included.
-/

namespace Spreadsheet.Store

variable {s : Store} {a b d : Address} {c : Cell}

/-! ## Putting a cell -/

/-- Puts a cell at an address and moves the links of the formula there. -/
def put (s : Store) (a : Address) (c : Cell) : Store :=
  (Sheet.relink s a (s.cell a).references c.references).replace a c

theorem relink_eq (s : Store) (a : Address) (old new : AddressSet) : Sheet.relink s a old new =
    (s.removeDependants a (old \ new).toList).addDependants a (new \ old).toList := rfl

theorem mem_diff_toList {t u : AddressSet} : b ∈ (t \ u).toList ↔ b ∈ t ∧ b ∉ u := by
  rw [Std.ExtTreeSet.mem_toList, Std.ExtTreeSet.mem_diff_iff]

@[simp] theorem bounds_put : (s.put a c).bounds = s.bounds := by
  rw [put, bounds_replace, relink_eq, bounds_addDependants, bounds_removeDependants]

theorem formula_put :
    ((s.put a c).cell b).formula = if a = b then c.formula else (s.cell b).formula := by
  rw [put, formula_replace, relink_eq, cell_addDependants, formula_removeDependants]

theorem cell_relink_of_mem {old new : AddressSet}
    (h : b ∈ (Sheet.relink s a old new).entries) :
    (Sheet.relink s a old new).cell b = s.cell b := by
  rw [relink_eq, mem_addDependants] at h
  rw [relink_eq, cell_addDependants]
  rcases h with added | stored
  · -- an address that is read anew was read by nothing that is taken away
    have untouched : b ∉ (old \ new).toList := fun removed =>
      (mem_diff_toList.1 removed).2 (mem_diff_toList.1 added).1
    rw [cell_eq_entry, cell_eq_entry, entry_congr (getElem?_removeDependants_of_not_mem untouched)]
  · exact cell_removeDependants_of_mem _ stored

theorem cell_put_of_mem (h : b ∈ (s.put a c).entries) :
    (s.put a c).cell b = if a = b then c else s.cell b := by
  split
  · rename_i eq
    subst eq
    exact cell_replace_of_mem h
  · rename_i ne
    have same : (s.put a c).entries[b]? = _ := getElem?_replace_of_ne ne
    rw [cell_eq_entry, entry_congr same, ← cell_eq_entry]
    exact cell_relink_of_mem ((mem_congr same).1 h)

theorem mem_dependants_put {x : Address} : x ∈ (s.put a c).dependants b ↔
    (a = x ∧ b ∈ c.references ∧ b ∉ (s.cell a).references) ∨
      (x ∈ s.dependants b ∧ ¬(a = x ∧ b ∈ (s.cell a).references ∧ b ∉ c.references)) := by
  rw [put, dependants_replace, relink_eq, mem_dependants_addDependants,
    mem_dependants_removeDependants, mem_diff_toList, mem_diff_toList]
  tauto

theorem Linked.put (h : s.Linked) (hc : c.Parsed) : (s.put a c).Linked := by
  have parsed : ∀ b, ((s.put a c).cell b).Parsed := by
    refine parsed_of_stored fun b stored => ?_
    rw [cell_put_of_mem stored]
    split
    · exact hc
    · exact h.parsed b
  have references : ∀ b, ((s.put a c).cell b).references =
      if a = b then c.references else (s.cell b).references := by
    intro b
    rw [(parsed b).references, formula_put]
    split
    · exact hc.references.symm
    · exact (h.references b).symm
  refine ⟨parsed, fun x b => ?_, fun b stored => ?_⟩
  · rw [mem_dependants_put, references, h.mirror]
    split
    · rename_i eq
      subst eq
      tauto
    · tauto
  · by_cases eq : a = b
    · subst eq
      exact isUnused_entry_iff.1 (used_replace stored)
    · by_cases added : b ∈ c.references ∧ b ∉ (s.cell a).references
      · refine Or.inr fun none => ?_
        have new : a ∈ (s.put a c).dependants b := mem_dependants_put.2 (Or.inl ⟨rfl, added⟩)
        rw [none] at new
        exact Std.ExtTreeSet.not_mem_empty new
      · -- an entry that is neither put nor read anew is what the removal of links has left of it
        have same : (s.put a c).entries[b]? =
            (s.removeDependants a ((s.cell a).references \ c.references).toList).entries[b]? := by
          rw [Store.put, getElem?_replace_of_ne eq, relink_eq]
          exact getElem?_addDependants_of_not_mem (mt mem_diff_toList.1 added)
        rw [← isUnused_entry_iff, entry_congr same]
        rw [mem_congr same] at stored
        by_cases removed : b ∈ ((s.cell a).references \ c.references).toList
        · exact used_removeDependants removed stored
        · have before := getElem?_removeDependants_of_not_mem (s := s) (d := a) removed
          rw [entry_congr before, isUnused_entry_iff]
          exact h.used b ((mem_congr before).1 stored)

/-! ## Dropping cells -/

@[simp] theorem bounds_dropCell : (s.dropCell a).bounds = s.bounds := by
  unfold dropCell
  split
  · rfl
  · exact bounds_removeDependants _

/-- A cell that is stored is dropped by making it blank, taking its links away, and leaving its
entry out if nothing reads it. -/
theorem dropCell_of_mem (h : a ∈ s.entries) : s.dropCell a =
    ((s.update a fun e => some { e with cell := Cell.blank }).removeDependants a
      (s.cell a).references.toList).prune a := by
  rw [dropCell, getElem?_of_mem h, cell_eq_entry]
  rfl

theorem dropCell_of_not_mem (h : a ∉ s.entries) : s.dropCell a = s := by
  rw [dropCell, Std.ExtTreeMap.getElem?_eq_none h]

theorem entry_blanked : (s.update a fun e => some { e with cell := Cell.blank }).entry b =
    if a = b then { s.entry a with cell := Cell.blank } else s.entry b :=
  entry_update _

theorem formula_dropCell :
    ((s.dropCell a).cell b).formula = if a = b then "" else (s.cell b).formula := by
  by_cases h : a ∈ s.entries
  · rw [dropCell_of_mem h, formula_prune, formula_removeDependants, cell_eq_entry, cell_eq_entry,
      entry_blanked]
    split <;> rfl
  · rw [dropCell_of_not_mem h]
    split
    · rename_i eq
      rw [← eq, cell_of_not_mem h]
      rfl
    · rfl

theorem mem_dependants_dropCell {x : Address} : x ∈ (s.dropCell a).dependants b ↔
    ¬(a = x ∧ b ∈ (s.cell a).references) ∧ x ∈ s.dependants b := by
  by_cases h : a ∈ s.entries
  · have same : (s.update a fun e => some { e with cell := Cell.blank }).dependants b =
        s.dependants b := by
      rw [dependants_eq_entry, dependants_eq_entry, entry_blanked]
      split
      · rename_i eq
        rw [eq]
      · rfl
    rw [dropCell_of_mem h, dependants_prune, mem_dependants_removeDependants, same,
      Std.ExtTreeSet.mem_toList, and_comm (a := b ∈ _)]
  · rw [dropCell_of_not_mem h, cell_of_not_mem h]
    simp [Cell.blank]

theorem mem_of_mem_dropCell (h : b ∈ (s.dropCell a).entries) : b ∈ s.entries := by
  by_cases stored : a ∈ s.entries
  · rw [dropCell_of_mem stored] at h
    have blanked := mem_of_mem_removeDependants _ (mem_of_mem_prune h)
    rw [mem_iff_isSome, getElem?_update] at blanked
    split at blanked
    · rename_i eq
      exact eq ▸ stored
    · exact mem_iff_isSome.2 blanked
  · rwa [dropCell_of_not_mem stored] at h

theorem cell_dropCell_of_mem (h : b ∈ (s.dropCell a).entries) :
    (s.dropCell a).cell b = if a = b then Cell.blank else s.cell b := by
  by_cases stored : a ∈ s.entries
  · rw [dropCell_of_mem stored] at h ⊢
    rw [cell_prune_of_mem h, cell_removeDependants_of_mem _ (mem_of_mem_prune h), cell_eq_entry,
      cell_eq_entry, entry_blanked]
    split <;> rfl
  · have ne : a ≠ b := by
      rintro rfl
      exact stored (mem_of_mem_dropCell h)
    rw [dropCell_of_not_mem stored, if_neg ne]

/-- A drop takes away what its cell reads, and nothing that another cell reads. -/
theorem references_dropCell (h : s.Quiet) : ((s.dropCell a).cell b).references =
    if a = b then ∅ else (s.cell b).references := by
  by_cases stored : b ∈ (s.dropCell a).entries
  · rw [cell_dropCell_of_mem stored]
    split <;> rfl
  · have none : (s.dropCell a).cell b = Cell.blank := cell_of_not_mem stored
    have text : ((s.dropCell a).cell b).formula = "" := by
      rw [none]
      rfl
    rw [formula_dropCell] at text
    rw [none]
    split
    · rfl
    · rename_i ne
      rw [if_neg ne] at text
      exact (h b text).symm

/-- The entries at the cell and at the addresses that it read are of use if they are still stored. -/
theorem used_dropCell (touched : a = b ∨ b ∈ (s.cell a).references)
    (h : b ∈ (s.dropCell a).entries) : ((s.dropCell a).entry b).isUnused = false := by
  have present : a ∈ s.entries := by
    rcases touched with rfl | read
    · exact mem_of_mem_dropCell h
    · exact mem_of_mem_references read
  rw [dropCell_of_mem present] at h ⊢
  by_cases eq : a = b
  · subst eq
    exact used_prune h
  · have pruned := getElem?_prune_of_ne (s := (s.update a fun e =>
      some { e with cell := Cell.blank }).removeDependants a (s.cell a).references.toList) eq
    rw [entry_congr pruned]
    rw [mem_congr pruned] at h
    exact used_removeDependants (Std.ExtTreeSet.mem_toList.2 (touched.resolve_left eq)) h

/-- The other entries stay as they are. -/
theorem getElem?_dropCell_of_untouched (ne : a ≠ b) (unread : b ∉ (s.cell a).references) :
    (s.dropCell a).entries[b]? = s.entries[b]? := by
  by_cases present : a ∈ s.entries
  · rw [dropCell_of_mem present, getElem?_prune_of_ne ne,
      getElem?_removeDependants_of_not_mem (mt Std.ExtTreeSet.mem_toList.1 unread),
      getElem?_update, if_neg ne]
  · rw [dropCell_of_not_mem present]

theorem Linked.dropCell (h : s.Linked) : (s.dropCell a).Linked := by
  have parsed : ∀ b, ((s.dropCell a).cell b).Parsed := by
    refine parsed_of_stored fun b stored => ?_
    rw [cell_dropCell_of_mem stored]
    split
    · exact Cell.parsed_blank
    · exact h.parsed b
  refine ⟨parsed, fun x b => ?_, fun b stored => ?_⟩
  · rw [mem_dependants_dropCell, references_dropCell h.quiet, h.mirror]
    split
    · rename_i eq
      subst eq
      simp
    · tauto
  · rw [← isUnused_entry_iff]
    by_cases touched : a = b ∨ b ∈ (s.cell a).references
    · exact used_dropCell touched stored
    · obtain ⟨ne, unread⟩ := not_or.1 touched
      have before := getElem?_dropCell_of_untouched ne unread
      rw [entry_congr before, isUnused_entry_iff]
      exact h.used b ((mem_congr before).1 stored)

/-- Drops several cells, one after the other. -/
def dropCells (s : Store) (as : List Address) : Store := as.foldl dropCell s

theorem dropCells_cons (s : Store) (a : Address) (as : List Address) :
    s.dropCells (a :: as) = (s.dropCell a).dropCells as := rfl

@[simp] theorem bounds_dropCells (as : List Address) : (s.dropCells as).bounds = s.bounds :=
  observe_foldl bounds (fun _ _ => bounds_dropCell) s as

theorem Linked.dropCells (h : s.Linked) (as : List Address) : (s.dropCells as).Linked := by
  induction as generalizing s with
  | nil => exact h
  | cons a as ih => exact ih h.dropCell

theorem formula_dropCells (as : List Address) :
    ((s.dropCells as).cell b).formula = if b ∈ as then "" else (s.cell b).formula := by
  induction as generalizing s with
  | nil => rfl
  | cons a as ih =>
    rw [dropCells_cons, ih, formula_dropCell]
    by_cases eq : a = b
    · simp [eq]
    · simp [eq, Ne.symm eq]

theorem mem_of_mem_dropCells (as : List Address) (h : b ∈ (s.dropCells as).entries) :
    b ∈ s.entries := by
  induction as generalizing s with
  | nil => exact h
  | cons a as ih => exact mem_of_mem_dropCell (ih h)

theorem cell_dropCells_of_mem (as : List Address) (h : b ∈ (s.dropCells as).entries) :
    (s.dropCells as).cell b = if b ∈ as then Cell.blank else s.cell b := by
  induction as generalizing s with
  | nil => rfl
  | cons a as ih =>
    rw [dropCells_cons, ih h, cell_dropCell_of_mem (mem_of_mem_dropCells as h)]
    by_cases eq : a = b
    · simp [eq]
    · simp [eq, Ne.symm eq]

theorem mem_outside : a ∈ s.outside ↔ a ∈ s.entries ∧ s.bounds.contains a = false := by
  rw [outside, List.mem_filter, Std.ExtTreeMap.mem_keys, Bool.not_eq_true']

theorem dropOutside_eq : s.dropOutside.2 = s.dropCells s.outside := rfl

theorem formula_dropOutside : (s.dropOutside.2.cell a).formula =
    if s.bounds.contains a = true then (s.cell a).formula else "" := by
  rw [dropOutside_eq, formula_dropCells]
  simp only [mem_outside]
  by_cases inside : s.bounds.contains a = true
  · simp [inside]
  · by_cases stored : a ∈ s.entries
    · simp [inside, stored]
    · simp [inside, stored, cell_of_not_mem stored, Cell.blank]

/-- A cell that is still stored when the outside has been dropped is the one it was, inside the
bounds, and blank outside of them. -/
theorem cell_dropOutside_of_mem (h : a ∈ s.dropOutside.2.entries) :
    s.dropOutside.2.cell a = if s.bounds.contains a = true then s.cell a else Cell.blank := by
  rw [dropOutside_eq] at h ⊢
  have stored := mem_of_mem_dropCells _ h
  rw [cell_dropCells_of_mem _ h]
  simp only [mem_outside]
  cases s.bounds.contains a <;> simp [stored]

/-! ## Other values -/

/-- The second store has other values than the first and no other difference. -/
structure Keeps (s s' : Store) : Prop where
  bounds : s'.bounds = s.bounds
  stored : ∀ b, b ∈ s'.entries ↔ b ∈ s.entries
  dependants : ∀ b, s'.dependants b = s.dependants b
  cell : ∀ b, (s'.cell b).forget = (s.cell b).forget

namespace Keeps

variable {t u : Store}

theorem refl (s : Store) : s.Keeps s := ⟨rfl, fun _ => Iff.rfl, fun _ => rfl, fun _ => rfl⟩

theorem trans (h : s.Keeps t) (h' : t.Keeps u) : s.Keeps u where
  bounds := h'.bounds.trans h.bounds
  stored b := (h'.stored b).trans (h.stored b)
  dependants b := (h'.dependants b).trans (h.dependants b)
  cell b := (h'.cell b).trans (h.cell b)

/-- A store that differs from a linked one in its values only is linked. -/
theorem linked (h : s.Keeps t) (linked : s.Linked) : t.Linked where
  parsed a := by
    rw [Cell.Parsed, h.cell, Cell.formula_congr (h.cell a)]
    exact linked.parsed a
  mirror a b := by
    rw [h.dependants, Cell.references_congr (h.cell a)]
    exact linked.mirror a b
  used a ha := by
    rw [Cell.formula_congr (h.cell a), h.dependants]
    exact linked.used a ((h.stored a).1 ha)

end Keeps

/-! ## Forgetting values -/

/-- Forgets the values of several cells, one after the other. -/
def invalidateEach (s : Store) (as : List Address) : Store := as.foldl invalidate s

theorem invalidateEach_cons (s : Store) (a : Address) (as : List Address) :
    s.invalidateEach (a :: as) = (s.invalidate a).invalidateEach as := rfl

theorem invalidateAll_eq (s : Store) (stale : AddressSet) :
    s.invalidateAll stale = s.invalidateEach stale.toList := rfl

@[simp] theorem bounds_invalidateEach (as : List Address) :
    (s.invalidateEach as).bounds = s.bounds :=
  observe_foldl bounds (fun _ _ => bounds_invalidate) s as

@[simp] theorem mem_invalidateEach (as : List Address) :
    b ∈ (s.invalidateEach as).entries ↔ b ∈ s.entries :=
  Iff.of_eq (observe_foldl (fun s => b ∈ s.entries) (fun _ _ => propext mem_invalidate) s as)

@[simp] theorem dependants_invalidateEach (as : List Address) :
    (s.invalidateEach as).dependants b = s.dependants b :=
  observe_foldl (fun s => s.dependants b) (fun _ _ => dependants_invalidate) s as

theorem cell_invalidateEach (as : List Address) : (s.invalidateEach as).cell b =
    if b ∈ as ∧ b ∈ s.entries then (s.cell b).forget else s.cell b := by
  induction as generalizing s with
  | nil => simp [invalidateEach]
  | cons a as ih =>
    rw [invalidateEach_cons, ih, cell_invalidate]
    by_cases eq : a = b
    · subst eq
      by_cases stored : a ∈ s.entries <;> simp [stored, Cell.forget]
    · simp [eq, Ne.symm eq]

@[simp] theorem bounds_invalidateAll (stale : AddressSet) :
    (s.invalidateAll stale).bounds = s.bounds :=
  bounds_invalidateEach _

@[simp] theorem mem_invalidateAll (stale : AddressSet) :
    b ∈ (s.invalidateAll stale).entries ↔ b ∈ s.entries :=
  mem_invalidateEach _

theorem cell_invalidateAll (stale : AddressSet) : (s.invalidateAll stale).cell b =
    if b ∈ stale ∧ b ∈ s.entries then (s.cell b).forget else s.cell b := by
  rw [invalidateAll_eq, cell_invalidateEach]
  simp only [Std.ExtTreeSet.mem_toList]

theorem cell_invalidateAll_of_not_mem {stale : AddressSet} (h : b ∉ stale) :
    (s.invalidateAll stale).cell b = s.cell b := by
  rw [cell_invalidateAll, if_neg fun held => h held.1]

/-- Forgetting values changes nothing but values. -/
theorem forget_cell_invalidateAll (stale : AddressSet) :
    ((s.invalidateAll stale).cell b).forget = (s.cell b).forget := by
  rw [cell_invalidateAll]
  split <;> rfl

theorem keeps_invalidateAll (stale : AddressSet) : s.Keeps (s.invalidateAll stale) where
  bounds := bounds_invalidateAll stale
  stored _ := mem_invalidateAll stale
  dependants _ := dependants_invalidateEach _
  cell _ := forget_cell_invalidateAll stale

theorem Linked.resize (h : s.Linked) (bounds : Bounds) : (s.resize bounds).Linked where
  parsed := h.parsed
  mirror := h.mirror
  used := h.used

/-! ## Keeping values -/

/-- Keeps values for several cells, one after the other. -/
def cacheEach (s : Store) (values : List (Address × Value)) : Store :=
  values.foldl (fun s (a, v) => s.cache a v) s

theorem cacheEach_cons (s : Store) (a : Address) (v : Value) (values : List (Address × Value)) :
    s.cacheEach ((a, v) :: values) = (s.cache a v).cacheEach values := rfl

@[simp] theorem bounds_cacheEach (values : List (Address × Value)) :
    (s.cacheEach values).bounds = s.bounds :=
  observe_foldl bounds (fun _ _ => bounds_cache) s values

theorem mem_cacheEach (values : List (Address × Value)) :
    b ∈ (s.cacheEach values).entries ↔ b ∈ values.map Prod.fst ∨ b ∈ s.entries := by
  induction values generalizing s with
  | nil => simp [cacheEach]
  | cons p values ih =>
    rw [cacheEach_cons, ih, mem_cache, List.map_cons, List.mem_cons, eq_comm (a := b)]
    tauto

@[simp] theorem dependants_cacheEach (values : List (Address × Value)) :
    (s.cacheEach values).dependants b = s.dependants b :=
  observe_foldl (fun s => s.dependants b) (fun _ _ => dependants_cache) s values

theorem forget_cell_cacheEach (values : List (Address × Value)) :
    ((s.cacheEach values).cell b).forget = (s.cell b).forget := by
  refine observe_foldl (fun s => (s.cell b).forget) (fun s p => ?_) s values
  dsimp only
  rw [cell_cache]
  split <;> rfl

theorem cell_cacheEach_of_not_mem {values : List (Address × Value)}
    (h : b ∉ values.map Prod.fst) : (s.cacheEach values).cell b = s.cell b := by
  induction values generalizing s with
  | nil => rfl
  | cons p values ih =>
    rw [List.map_cons, List.mem_cons, not_or] at h
    rw [cacheEach_cons, ih h.2, cell_cache, if_neg (Ne.symm h.1)]

theorem cached_cacheEach_of_mem {values : List (Address × Value)} {v : Value}
    (h : (b, v) ∈ values) (unique : ∀ w, (b, w) ∈ values → w = v) :
    ((s.cacheEach values).cell b).cached = some v := by
  induction values generalizing s with
  | nil => cases h
  | cons p values ih =>
    rw [cacheEach_cons]
    by_cases later : b ∈ values.map Prod.fst
    · obtain ⟨⟨_, w⟩, hw, rfl⟩ := List.mem_map.1 later
      have same : w = v := unique w (List.mem_cons_of_mem _ hw)
      exact ih (same ▸ hw) fun w' hw' => unique w' (List.mem_cons_of_mem _ hw')
    · have first : p = (b, v) := ((List.mem_cons.1 h).resolve_right fun hv =>
        later (List.mem_map_of_mem hv)).symm
      rw [cell_cacheEach_of_not_mem later, cell_cache, if_pos (by rw [first]), first]

theorem cacheAll_eq (s : Store) (values : AddressMap Value) :
    s.cacheAll values = s.cacheEach values.toList := rfl

theorem cacheCycle_eq (s : Store) (cells : AddressSet) :
    s.cacheCycle cells = s.cacheEach (cells.toList.map fun a => (a, cycleError)) := by
  rw [cacheCycle, cacheEach, List.foldl_map]

/-- Keeping values of stored cells changes nothing but values. -/
theorem keeps_cacheEach {values : List (Address × Value)}
    (stored : ∀ a ∈ values.map Prod.fst, a ∈ s.entries) : s.Keeps (s.cacheEach values) where
  bounds := bounds_cacheEach values
  stored b := (mem_cacheEach values).trans ⟨fun h => h.elim (stored b) id, Or.inr⟩
  dependants _ := dependants_cacheEach values
  cell _ := forget_cell_cacheEach values

theorem keeps_cacheAll {values : AddressMap Value} (stored : ∀ a ∈ values, a ∈ s.entries) :
    s.Keeps (s.cacheAll values) := by
  rw [cacheAll_eq]
  refine keeps_cacheEach fun a ha => stored a ?_
  rwa [Std.ExtTreeMap.map_fst_toList_eq_keys, Std.ExtTreeMap.mem_keys] at ha

theorem keeps_cacheCycle {cells : AddressSet} (stored : ∀ a ∈ cells, a ∈ s.entries) :
    s.Keeps (s.cacheCycle cells) := by
  rw [cacheCycle_eq]
  refine keeps_cacheEach fun a ha => stored a ?_
  simpa using ha

theorem cached_cacheAll (values : AddressMap Value) : ((s.cacheAll values).cell b).cached =
    match values[b]? with
    | some v => some v
    | none => (s.cell b).cached := by
  rw [cacheAll_eq]
  cases found : values[b]? with
  | some v =>
    refine cached_cacheEach_of_mem (Std.ExtTreeMap.mem_toList_iff_getElem?_eq_some.2 found) ?_
    intro w hw
    rw [Std.ExtTreeMap.mem_toList_iff_getElem?_eq_some, found] at hw
    exact (Option.some.inj hw).symm
  | none =>
    have absent : b ∉ values.toList.map Prod.fst := by
      rw [Std.ExtTreeMap.map_fst_toList_eq_keys, Std.ExtTreeMap.mem_keys,
        Std.ExtTreeMap.mem_iff_isSome_getElem?, found]
      exact Bool.false_ne_true
    rw [cell_cacheEach_of_not_mem absent]

theorem cached_cacheCycle (cells : AddressSet) : ((s.cacheCycle cells).cell b).cached =
    if b ∈ cells then some cycleError else (s.cell b).cached := by
  rw [cacheCycle_eq]
  split
  · rename_i marked
    refine cached_cacheEach_of_mem
      (List.mem_map.2 ⟨b, Std.ExtTreeSet.mem_toList.2 marked, rfl⟩) fun w hw => ?_
    obtain ⟨_, -, eq⟩ := List.mem_map.1 hw
    exact (Prod.mk.inj eq).2.symm
  · rename_i unmarked
    have absent : b ∉ (cells.toList.map fun a => (a, cycleError)).map Prod.fst := by
      simpa using unmarked
    rw [cell_cacheEach_of_not_mem absent]

end Spreadsheet.Store

import Spreadsheet.Proofs.Sheet.Tables

/-!
# Bars of a table that are not escaped

A reader that takes two backslashes for an escaped one sees a bar as escaped if the number of
backslashes directly in front of it is odd. A table puts one backslash in front of each bar of a text
and none in front of the backslashes of the text. So this reader sees the bars that a table has of its
own, and those bars of a text that had an odd number of backslashes in front of them, once the text
was put on one line (`Sheet.table_bars`). A text with a backslash and a bar gives its line a field too
many (`Sheet.table_bars_backslash`).
-/

namespace Spreadsheet

namespace Sheet

/-! ## Counting bars -/

/-- The number of backslashes directly in front of a place, if the characters in front of it are
listed backwards. -/
def backslashes (before : List Char) : Nat := (before.takeWhile (· = '\\')).length

/-- The number of bars in a text with `r` as the remainder of the number of backslashes directly in
front of them by 2. The characters in front of the text are listed backwards. -/
def bars (r : Nat) (before : List Char) : List Char → Nat
  | [] => 0
  | c :: cs =>
    (if c = '|' ∧ backslashes before % 2 = r then 1 else 0) + bars r (c :: before) cs

/-- The number of bars in a line that are not escaped. -/
def freeBars (line : List Char) : Nat := bars 0 [] line

/-- The number of bars in a text that have an odd number of backslashes in front of them. -/
def escapedBars (text : List Char) : Nat := bars 1 [] text

@[simp] theorem backslashes_nil : backslashes [] = 0 := rfl

@[simp] theorem backslashes_cons (c : Char) (before : List Char) :
    backslashes (c :: before) = if c = '\\' then backslashes before + 1 else 0 := by
  by_cases slash : c = '\\'
  · simp [backslashes, slash]
  · simp [backslashes, slash]

variable {r : Nat} {before before' : List Char}

theorem bars_append (r : Nat) (before cs cs' : List Char) :
    bars r before (cs ++ cs') = bars r before cs + bars r (cs.reverse ++ before) cs' := by
  induction cs generalizing before with
  | nil => simp [bars]
  | cons c cs ih => simp [bars, ih, Nat.add_assoc]

/-- Of what is in front of a text, only the number of backslashes at its end counts. -/
theorem bars_congr (same : backslashes before = backslashes before') (cs : List Char) :
    bars r before cs = bars r before' cs := by
  induction cs generalizing before before' with
  | nil => rfl
  | cons c cs ih =>
    have same' : backslashes (c :: before) = backslashes (c :: before') := by
      rw [backslashes_cons, backslashes_cons, same]
    rw [bars, bars, same, ih same']

/-- Behind any other character a text has the bars that it has on its own. -/
theorem bars_cons_of_ne {c : Char} (other : c ≠ '\\') (cs : List Char) :
    bars r (c :: before) cs = bars r [] cs :=
  bars_congr (by simp [other]) cs

/-- Without backslashes no bar is escaped. -/
theorem freeBars_eq_count {line : List Char} (h : '\\' ∉ line) : freeBars line = line.count '|' := by
  have counted : ∀ before, backslashes before = 0 → bars 0 before line = line.count '|' := by
    induction line with
    | nil => exact fun _ _ => rfl
    | cons c line ih =>
      intro before none
      rw [List.mem_cons, not_or] at h
      have none' : backslashes (c :: before) = 0 := by simp [Ne.symm h.1]
      rw [bars, ih h.2 _ none', none, List.count_cons, Nat.add_comm]
      simp
  exact counted [] rfl

/-! ## The bars of a line -/

theorem oneLine_cons (c : Char) (text : List Char) :
    oneLine (c :: text) =
      if c = '\r' then oneLine text else (if c = '\n' then ' ' else c) :: oneLine text := by
  by_cases carriage : c = '\r'
  · simp [oneLine, carriage]
  · simp [oneLine, carriage]

/-- **The bars that are free in a field** are those that are escaped in its text on one line: the
backslash that they get makes the number in front of them even. -/
theorem bars_escaped (same : backslashes before = backslashes before') (text : List Char) :
    bars 0 before (escaped text) = bars 1 before' (oneLine text) := by
  induction text generalizing before before' with
  | nil => rfl
  | cons c text ih =>
    rw [escaped_cons, oneLine_cons]
    fun_cases fieldChar c with
    | case1 bar =>
      obtain rfl : c = '|' := bar
      have one_more : (backslashes before + 1) % 2 = 0 ↔ backslashes before' % 2 = 1 := by
        rw [same]
        omega
      have behind : backslashes ('|' :: '\\' :: before) = backslashes ('|' :: before') := by simp
      simp [bars, ih behind, one_more]
    | case2 bar feed =>
      obtain rfl : c = '\n' := feed
      have behind : backslashes (' ' :: before) = backslashes (' ' :: before') := by simp
      simp [bars, ih behind]
    | case3 bar feed carriage =>
      rw [if_pos carriage]
      exact ih same
    | case4 bar feed carriage =>
      have behind : backslashes (c :: before) = backslashes (c :: before') := by simp [same]
      simp [bars, bar, feed, carriage, ih behind]

/-- A field has its own bar and those that are escaped in its text. -/
theorem bars_field (before : List Char) (text : List Char) :
    bars 0 before (field (escaped text)) = 1 + escapedBars (oneLine text) := by
  have own : ∀ before, bars 0 before [' ', '|'] = 1 := fun before => by simp [bars]
  rw [field, bars, bars_append, own, bars_cons_of_ne (by decide), bars_escaped rfl, escapedBars]
  simp [Nat.add_comm]

/-- **The bars of a line** that are free are one more than its fields and those that are escaped in
its texts. -/
theorem freeBars_line (texts : List (List Char)) :
    freeBars (line texts) =
      texts.length + 1 + (texts.map fun text => escapedBars (oneLine text)).sum := by
  have fields : ∀ before, bars 0 before (texts.flatMap fun text => field (escaped text)) =
      texts.length + (texts.map fun text => escapedBars (oneLine text)).sum := by
    induction texts with
    | nil => exact fun _ => rfl
    | cons text texts ih =>
      intro before
      rw [List.flatMap_cons, bars_append, bars_field, ih, List.length_cons, List.map_cons,
        List.sum_cons]
      omega
  rw [freeBars, line, bars, fields, if_pos ⟨rfl, rfl⟩]
  omega

/-- A text without bars has none that is escaped. -/
theorem escapedBars_of_not_mem {text : List Char} (h : '|' ∉ text) : escapedBars text = 0 := by
  have none : ∀ before, bars 1 before text = 0 := by
    induction text with
    | nil => exact fun _ => rfl
    | cons c text ih =>
      intro before
      rw [List.mem_cons, not_or] at h
      simp [bars, Ne.symm h.1, ih h.2]
  exact none []

/-! ## The bars of a table -/

theorem freeBars_header (b : Bounds) : freeBars (header b) = b.columns + 2 := by
  have plain : ∀ text ∈ [' '] :: (List.range b.columns).map fun col => Column.letters (col + 1),
      escapedBars (oneLine text) = 0 := by
    rw [List.forall_mem_cons, List.forall_mem_map]
    refine ⟨rfl, fun col _ => ?_⟩
    rw [oneLine_eq_self fun c hc => (plain_of_mem_letters hc).2]
    exact escapedBars_of_not_mem fun bar => (plain_of_mem_letters bar).1 rfl
  rw [header_eq, freeBars_line, List.map_congr_left plain]
  simp [Function.comp_def]

theorem freeBars_rule (b : Bounds) : freeBars (rule b) = b.columns + 2 := by
  have no_backslash : '\\' ∉ rule b := by simp [rule]
  have bars (n : Nat) : ((List.range n).flatMap fun _ => "---|".toList).count '|' = n := by
    simp [List.count_flatMap, Function.comp_def]
  rw [freeBars_eq_count no_backslash, rule, List.count_append, bars, Nat.add_comm]
  rfl

theorem freeBars_numbered (number : Nat) (texts : List String) :
    freeBars (numbered number texts) =
      texts.length + 2 + (texts.map fun text => escapedBars (oneLine text.toList)).sum := by
  have digits : escapedBars (oneLine (Nat.toDigits 10 number)) = 0 := by
    rw [oneLine_eq_self fun c hc => (plain_of_mem_toDigits hc).2]
    exact escapedBars_of_not_mem fun bar => (plain_of_mem_toDigits bar).1 rfl
  rw [numbered, freeBars_line, List.map_cons, List.sum_cons, digits, List.map_map, List.length_cons,
    List.length_map, Nat.zero_add]
  rfl

/-- The bars that are free in the lines of a table. -/
theorem map_freeBars_tableLines (s : Sheet) :
    s.tableLines.1.map freeBars =
      (s.bounds.columns + 2) :: (s.bounds.columns + 2) :: s.shown.map fun texts =>
        s.bounds.columns + 2 + (texts.map fun text => escapedBars (oneLine text.toList)).sum := by
  rw [tableLines_eq, List.map_cons, List.map_cons, freeBars_header, freeBars_rule]
  congr 2
  refine List.ext_getElem (by simp) fun i hi _ => ?_
  rw [List.length_map, List.length_mapIdx] at hi
  rw [List.getElem_map, List.getElem_mapIdx, List.getElem_map, freeBars_numbered,
    length_of_mem_shown (List.getElem_mem hi)]

/-- **The bars of a table.** To a reader that takes two backslashes for an escaped one, the first two
lines of a table have two more bars that are not escaped than the sheet has columns. The line of a row
has these and, beyond them, one for each bar in its texts that has an odd number of backslashes
directly in front of it, once the text is on one line. So all lines have as many if and only if there
is no such bar in a text that the queries for the cells answered. -/
theorem table_bars (s : Sheet) :
    ∃ (lines : List (List Char)) (rows : List (List String)),
      Text.splitOn '\n' s.table.1.toList = lines ++ [[]] ∧
      rows.length = s.bounds.rows ∧
      (∀ texts ∈ rows, texts.length = s.bounds.columns) ∧
      rows.flatten = (queryAll display s s.addresses).1 ∧
      lines.map freeBars =
        (s.bounds.columns + 2) :: (s.bounds.columns + 2) :: rows.map (fun texts =>
          s.bounds.columns + 2 + (texts.map fun text => escapedBars (oneLine text.toList)).sum) ∧
      ((∀ l ∈ lines, freeBars l = s.bounds.columns + 2) ↔
        ∀ text ∈ (queryAll display s s.addresses).1, escapedBars (oneLine text.toList) = 0) := by
  refine ⟨s.tableLines.1, s.shown, ?_, s.length_shown, fun _ => length_of_mem_shown, ?_,
    s.map_freeBars_tableLines, ?_⟩
  · rw [table, String.toList_ofList]
    exact Text.splitOn_flatMap fun l => feed_notMem_tableLines
  · rw [queryAll_addresses]
  · have counts : (∀ l ∈ s.tableLines.1, freeBars l = s.bounds.columns + 2) ↔
        ∀ n ∈ s.tableLines.1.map freeBars, n = s.bounds.columns + 2 := by
      rw [List.forall_mem_map]
    have none (texts : List String) :
        (texts.map fun text => escapedBars (oneLine text.toList)).sum = 0 ↔
          ∀ text ∈ texts, escapedBars (oneLine text.toList) = 0 := by
      rw [List.sum_eq_zero_iff, List.forall_mem_map]
    rw [counts, map_freeBars_tableLines, queryAll_addresses]
    simp only [List.forall_mem_cons, List.forall_mem_map, true_and, Nat.add_eq_left, none,
      List.mem_flatten]
    constructor
    · rintro h text ⟨texts, row, mem⟩
      exact h texts row text mem
    · exact fun h texts row text mem => h text ⟨texts, row, mem⟩

/-- A text of a backslash and a bar gives its line five bars that are not escaped, where the sheet
has two columns. -/
theorem table_bars_backslash :
    let s := (empty 2 2).after (.set ⟨0, 0⟩ "\\|")
    s.Reachable ∧ s.bounds.columns + 2 = 4 ∧
      (Text.splitOn '\n' s.table.1.toList)[2]? = some "| 1 | \\\\| |  |".toList ∧
      freeBars "| 1 | \\\\| |  |".toList = 5 := by
  intro s
  refine ⟨(Reachable.empty 2 2).after _, ?_, ?_, rfl⟩
  · unfold s
    cbv
  · unfold s
    cbv

end Sheet

end Spreadsheet

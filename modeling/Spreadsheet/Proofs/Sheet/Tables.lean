import Mathlib
import Spreadsheet.Proofs.Address.Naming
import Spreadsheet.Proofs.Sheet.Remembering
import Spreadsheet.Sheet.Table
import Spreadsheet.Text.Split

/-!
# Reading a table back

A reader of a table splits a line at the bars that have no backslash in front of them, takes one
space off each side of a part and writes `|` for `\|` (`Sheet.fieldsOf?`). Nothing else about a text
has to be known to read it: a bar in it gets a backslash of its own, and the space behind it keeps a
last backslash away from the bar that ends the field. So a line gives back the texts that were
written into it (`Sheet.fieldsOf?_line`), and a table the texts that its queries answered
(`Sheet.table_readable`), with spaces for their line feeds and without their carriage returns.
-/

namespace Spreadsheet

namespace Sheet

variable {s t : Sheet}

/-! ## Reading a line -/

/-- The parts of a line between the bars without a backslash in front of them. The flag says
whether the character in front of the line is a backslash. -/
def splitBars (escaped : Bool) : List Char → List (List Char)
  | [] => [[]]
  | c :: cs =>
    if c = '|' ∧ escaped = false then [] :: splitBars false cs
    else (splitBars (c == '\\') cs).modifyHead (c :: ·)

/-- A text with a bar for each bar that has a backslash in front of it. -/
def unescape : List Char → List Char
  | '\\' :: '|' :: cs => '|' :: unescape cs
  | c :: cs => c :: unescape cs
  | [] => []

/-- A text without the space on either side of it. -/
def unpad? : List Char → Option (List Char)
  | ' ' :: cs => if cs.getLast? = some ' ' then some cs.dropLast else none
  | _ => none

/-- The texts in the fields of a line, which starts and ends in a bar. -/
def fieldsOf? (line : List Char) : Option (List (List Char)) :=
  match splitBars false line with
  | [] :: parts =>
    if parts.getLast? = some [] then
      parts.dropLast.mapM fun part => (unpad? part).map unescape
    else none
  | _ => none

/-- A text on one line: spaces stand for its line feeds, and its carriage returns are left out. -/
def oneLine (text : List Char) : List Char :=
  (text.filter (· ≠ '\r')).map fun c => if c = '\n' then ' ' else c

/-! ## Writing and reading a field -/

/-- A text as it stands in a field. -/
def escaped (text : List Char) : List Char := text.flatMap fieldChar

theorem escaped_cons (c : Char) (text : List Char) :
    escaped (c :: text) = fieldChar c ++ escaped text := rfl

/-- A text without bars and line breaks stands in a field as it is. -/
theorem escaped_eq_self {text : List Char} (h : ∀ c ∈ text, c ≠ '|' ∧ c ≠ '\n' ∧ c ≠ '\r') :
    escaped text = text := by
  induction text with
  | nil => rfl
  | cons c text ih =>
    rw [List.forall_mem_cons] at h
    obtain ⟨⟨bar, feed, carriage⟩, others⟩ := h
    rw [escaped_cons, ih others, fieldChar, if_neg bar, if_neg feed, if_neg carriage,
      List.singleton_append]

theorem oneLine_eq_self {text : List Char} (h : ∀ c ∈ text, c ≠ '\n' ∧ c ≠ '\r') :
    oneLine text = text := by
  have kept : text.filter (· ≠ '\r') = text :=
    List.filter_eq_self.2 fun c hc => decide_eq_true (h c hc).2
  rw [oneLine, kept]
  exact (List.map_congr_left fun c hc => if_neg (h c hc).1).trans (List.map_id _)

theorem feed_notMem_escaped (text : List Char) : '\n' ∉ escaped text := by
  intro mem
  obtain ⟨c, -, mem⟩ := List.mem_flatMap.1 mem
  revert mem
  fun_cases fieldChar c <;> simp_all [eq_comm]

/-- The bars in a field have backslashes in front of them, so none comes first. -/
theorem head?_escaped (text : List Char) : (escaped text).head? ≠ some '|' := by
  induction text with
  | nil => simp [escaped]
  | cons c text ih =>
    rw [escaped_cons]
    fun_cases fieldChar c with
    | case1 bar => simp
    | case2 bar feed => simp
    | case3 bar feed carriage => exact ih
    | case4 bar feed carriage => simpa using bar

theorem unescape_cons {c : Char} {cs : List Char} (h : c = '\\' → cs.head? ≠ some '|') :
    unescape (c :: cs) = c :: unescape cs := by
  rw [unescape]
  rintro cs' rfl rfl
  exact h rfl rfl

/-- **A field is read back.** A carriage return that is taken out can bring a backslash and a bar
together, but the bar has a backslash of its own. -/
theorem unescape_escaped (text : List Char) : unescape (escaped text) = oneLine text := by
  induction text with
  | nil => rfl
  | cons c text ih =>
    rw [escaped_cons]
    fun_cases fieldChar c with
    | case1 bar => simp_all [unescape, oneLine]
    | case2 bar feed => simp_all [unescape, oneLine]
    | case3 bar feed carriage => simp_all [oneLine]
    | case4 bar feed carriage =>
      rw [List.singleton_append, unescape_cons fun _ => head?_escaped text, ih]
      simp [oneLine, feed, carriage]

example : escaped ['\\', '\r', '|'] = ['\\', '\\', '|'] ∧
    unescape ['\\', '\\', '|'] = ['\\', '|'] := by decide

/-- No bar in a field is one to split at, whatever is in front of the field. -/
theorem splitBars_escaped (before : Bool) (text rest : List Char) :
    splitBars before (escaped text ++ ' ' :: rest) =
      (splitBars false rest).modifyHead (escaped text ++ ' ' :: ·) := by
  induction text generalizing before with
  | nil => rfl
  | cons c text ih =>
    rw [escaped_cons]
    fun_cases fieldChar c with
    | case1 bar => simp [splitBars, ih, List.modifyHead_modifyHead, Function.comp_def]
    | case2 bar feed => simp [splitBars, ih, List.modifyHead_modifyHead, Function.comp_def]
    | case3 bar feed carriage => exact ih before
    | case4 bar feed carriage =>
      simp [splitBars, bar, ih, List.modifyHead_modifyHead, Function.comp_def]

/-- The part of a line that a field is split off as. -/
def padded (text : List Char) : List Char := ' ' :: (escaped text ++ [' '])

theorem splitBars_field (text rest : List Char) :
    splitBars false (field (escaped text) ++ rest) = padded text :: splitBars false rest := by
  have shape : field (escaped text) ++ rest = ' ' :: (escaped text ++ ' ' :: '|' :: rest) := by
    simp [field]
  rw [shape, splitBars, if_neg (by decide), splitBars_escaped, splitBars, if_pos ⟨rfl, rfl⟩]
  rfl

theorem unpad?_padded (text : List Char) : unpad? (padded text) = some (escaped text) := by
  simp [unpad?, padded]

/-! ## Writing and reading a line -/

/-- The line with some texts in its fields. -/
def line (texts : List (List Char)) : List Char :=
  '|' :: texts.flatMap fun text => field (escaped text)

theorem splitBars_line (texts : List (List Char)) :
    splitBars false (line texts) = [] :: (texts.map padded ++ [[]]) := by
  have fields : splitBars false (texts.flatMap fun text => field (escaped text)) =
      texts.map padded ++ [[]] := by
    induction texts with
    | nil => rfl
    | cons text texts ih =>
      rw [List.flatMap_cons, splitBars_field, ih, List.map_cons, List.cons_append]
  rw [line, splitBars, if_pos ⟨rfl, rfl⟩, fields]

/-- **A line is read back.** -/
theorem fieldsOf?_line (texts : List (List Char)) :
    fieldsOf? (line texts) = some (texts.map oneLine) := by
  have read : (texts.map padded).mapM (fun part => (unpad? part).map unescape) =
      some (texts.map oneLine) := by
    simp only [List.mapM_map, Function.comp_def, unpad?_padded, Option.map_some, unescape_escaped]
    exact List.mapM_pure
  simp [fieldsOf?, splitBars_line, read]

theorem feed_notMem_line (texts : List (List Char)) : '\n' ∉ line texts := by
  simp [line, field, feed_notMem_escaped]

/-! ## The lines of a table -/

theorem plain_of_isAlphanum {c : Char} (h : c.isAlphanum = true) :
    c ≠ '|' ∧ c ≠ '\n' ∧ c ≠ '\r' := by
  refine ⟨?_, ?_, ?_⟩ <;> rintro rfl <;> cases h

theorem plain_of_mem_toDigits {n : Nat} {c : Char} (h : c ∈ Nat.toDigits 10 n) :
    c ≠ '|' ∧ c ≠ '\n' ∧ c ≠ '\r' := by
  have digit := Nat.isDigit_of_mem_toDigits (by decide) (by decide) h
  exact plain_of_isAlphanum (by simp [Char.isAlphanum, digit])

theorem plain_of_mem_letters {n : Nat} {c : Char} (h : c ∈ Column.letters n) :
    c ≠ '|' ∧ c ≠ '\n' ∧ c ≠ '\r' := by
  have upper := Column.isUpper_of_mem_letters h
  exact plain_of_isAlphanum (by simp [Char.isAlphanum, Char.isAlpha, upper])

/-- The header is a line with a blank field and the names of the columns. -/
theorem header_eq (b : Bounds) :
    header b = line ([' '] :: (List.range b.columns).map fun col => Column.letters (col + 1)) := by
  have letters (col : Nat) : escaped (Column.letters (col + 1)) = Column.letters (col + 1) :=
    escaped_eq_self fun _ => plain_of_mem_letters
  simp only [header, line, List.flatMap_cons, List.flatMap_map, letters]
  rfl

theorem feed_notMem_rule (b : Bounds) : '\n' ∉ rule b := by
  simp [rule]

/-- The line of a row with its number and the texts that it shows. -/
def numbered (number : Nat) (texts : List String) : List Char :=
  line (Nat.toDigits 10 number :: texts.map String.toList)

theorem fieldsOf?_numbered (number : Nat) (texts : List String) :
    fieldsOf? (numbered number texts) =
      some (Nat.toDigits 10 number :: texts.map fun text => oneLine text.toList) := by
  have digits : oneLine (Nat.toDigits 10 number) = Nat.toDigits 10 number :=
    oneLine_eq_self fun c hc => (plain_of_mem_toDigits hc).2
  rw [numbered, fieldsOf?_line, List.map_cons, digits, List.map_map]
  rfl

theorem rowLine_eq (s : Sheet) (i : Nat) :
    s.rowLine i =
      (numbered (i + 1) (queryAll display s (s.rowAddresses i)).1,
        (queryAll display s (s.rowAddresses i)).2) := by
  have digits : escaped (Nat.toDigits 10 (i + 1)) = Nat.toDigits 10 (i + 1) :=
    escaped_eq_self fun _ => plain_of_mem_toDigits
  simp only [rowLine, numbered, line, List.flatMap_cons, List.flatMap_map, digits]
  rfl

/-- The texts that are answered for the rows of a sheet, row after row. -/
def rowTexts (s : Sheet) : Sheet → List Nat → List (List String) × Sheet :=
  queryAll fun t i => queryAll display t (s.rowAddresses i)

theorem queryAll_rowLine (bounds : t.bounds = s.bounds) (l : List Nat) :
    queryAll rowLine t l =
      (List.zipWith (fun i texts => numbered (i + 1) texts) l (s.rowTexts t l).1,
        (s.rowTexts t l).2) := by
  induction l generalizing t with
  | nil => rfl
  | cons i l ih =>
    have addresses : t.rowAddresses i = s.rowAddresses i := by
      rw [rowAddresses, rowAddresses, bounds]
    have kept : (queryAll display t (s.rowAddresses i)).2.bounds = t.bounds :=
      repeatable_display.queryAll.bounds_eq (.refl _)
    simp only [queryAll, rowLine_eq, addresses, ih (kept.trans bounds), rowTexts]
    rfl

/-- The texts that a table shows, row by row. -/
def shown (s : Sheet) : List (List String) := (s.rowTexts s (List.range s.bounds.rows)).1

theorem length_shown (s : Sheet) : s.shown.length = s.bounds.rows := by
  rw [shown, rowTexts, length_queryAll, List.length_range]

theorem length_of_mem_shown {texts : List String} (h : texts ∈ s.shown) :
    texts.length = s.bounds.columns := by
  have length (t : Sheet) (i : Nat) :
      (queryAll display t (s.rowAddresses i)).1.length = s.bounds.columns := by
    rw [length_queryAll, rowAddresses, List.length_map, List.length_range]
  exact forall_mem_queryAll (·.length = s.bounds.columns) length s _ texts h

/-- A table queries all cells, row by row. -/
theorem queryAll_addresses (s : Sheet) :
    queryAll display s s.addresses =
      (s.shown.flatten, (s.rowTexts s (List.range s.bounds.rows)).2) :=
  queryAll_flatMap display s.rowAddresses s _

/-- **The lines of a table** are the header, the rule and a line for each row of texts. -/
theorem tableLines_eq (s : Sheet) :
    s.tableLines =
      (header s.bounds :: rule s.bounds :: s.shown.mapIdx fun i texts => numbered (i + 1) texts,
        (queryAll display s s.addresses).2) := by
  have lines : List.zipWith (fun i texts => numbered (i + 1) texts) (List.range s.bounds.rows)
      s.shown = s.shown.mapIdx fun i texts => numbered (i + 1) texts :=
    List.ext_getElem (by simp [length_shown]) (by simp)
  rw [tableLines, queryAll_rowLine rfl, queryAll_addresses, ← lines]
  rfl

theorem feed_notMem_tableLines {s : Sheet} {l : List Char} (h : l ∈ s.tableLines.1) : '\n' ∉ l := by
  rw [tableLines_eq, List.mem_cons, List.mem_cons] at h
  rcases h with rfl | rfl | h
  · rw [header_eq]
    exact feed_notMem_line _
  · exact feed_notMem_rule _
  · obtain ⟨i, hi, rfl⟩ := List.mem_mapIdx.1 h
    exact feed_notMem_line _

/-- **A table can be read back.** It has two lines more than the sheet has rows, each ended by a line
feed, whatever the texts in it are. Read field by field, the lines behind the first two have the
number of their row, from 1 on, and as many texts as the sheet has columns. All these texts together
are those that the queries for the cells answered, asked row by row, with spaces for their line
feeds and without their carriage returns. -/
theorem table_readable (s : Sheet) :
    ∃ (lines : List (List Char)) (rows : List (List String)),
      Text.splitOn '\n' s.table.1.toList = lines ++ [[]] ∧
      lines.length = s.bounds.rows + 2 ∧
      rows.length = s.bounds.rows ∧
      (∀ texts ∈ rows, texts.length = s.bounds.columns) ∧
      rows.flatten = (queryAll display s s.addresses).1 ∧
      (lines.drop 2).map fieldsOf? = rows.mapIdx fun i texts =>
        some (Nat.toDigits 10 (i + 1) :: texts.map fun text => oneLine text.toList) := by
  refine ⟨s.tableLines.1, s.shown, ?_, ?_, s.length_shown, fun _ => length_of_mem_shown, ?_, ?_⟩
  · rw [table, String.toList_ofList]
    exact Text.splitOn_flatMap fun l => feed_notMem_tableLines
  · rw [tableLines_eq, List.length_cons, List.length_cons, List.length_mapIdx, length_shown]
  · rw [queryAll_addresses]
  · rw [tableLines_eq]
    exact List.ext_getElem (by simp) (by simp [fieldsOf?_numbered])

end Sheet

end Spreadsheet

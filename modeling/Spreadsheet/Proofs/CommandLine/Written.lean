import Spreadsheet.Proofs.Address.Naming
import Spreadsheet.Proofs.CommandLine.Arguments

/-!
# Writing arguments

What a command can be asked for are switches, texts, edits and a file, and each of these requests is
written as one or two arguments (`Request.args`). Any list of requests with at most one file is read
back from its arguments: the edits are those that were asked for, in their order, each text is the
last one that was given, and a switch is on if it was asked for (`Options.StandsFor`). Nothing has to
be known of a text, which may look like the name of a field. A second file is refused, and so is the
name of a field behind all other arguments (`Options.ofArgs_written`). Also of arguments that were
written in another way, only those are read that ask for requests (`Asks`), and the options are what
these stand for (`Options.StandsFor.of_readArgs`).
-/

namespace Spreadsheet

/-! ## Names of switches and fields -/

/-- The name of a switch. -/
def Switch.name (long : Bool) : Switch → String
  | .help => if long then "--help" else "-h"
  | .verbose => if long then "--verbose" else "-v"

/-- The name of a field. Some have a long one only. -/
def Field.name (long : Bool) : Field → String
  | .command => if long then "--command" else "-c"
  | .set => if long then "--set" else "-s"
  | .extend => "--extend"
  | .shrink => "--shrink"
  | .output => if long then "--output" else "-o"
  | .write => if long then "--write" else "-w"
  | .config => "--config"

theorem Switch.ofName?_name (long : Bool) (s : Switch) : ofName? (s.name long) = some s := by
  cases s <;> cases long <;> rfl

theorem Field.ofName?_name (long : Bool) (field : Field) : ofName? (field.name long) = some field := by
  cases field <;> cases long <;> rfl

/-! ## Edits -/

namespace Edit

variable {e : Edit} {n : Nat}

/-- The field that asks for an edit. -/
def field : Edit → Field
  | .set _ _ => .set
  | .extend _ _ => .extend
  | .shrink _ _ => .shrink

/-- An edit as the value of its field. -/
def written : Edit → String
  | .set a text => a.name ++ "=" ++ text
  | .extend rows columns | .shrink rows columns => toString rows ++ "," ++ toString columns

/-- The numbers of an edit fit a word, those of an address also when they are counted from one. -/
def Fits : Edit → Prop
  | .set a _ => a.row ≤ 2 ^ 64 - 2 ∧ a.col ≤ 2 ^ 64 - 2
  | .extend rows columns | .shrink rows columns => rows < 2 ^ 64 ∧ columns < 2 ^ 64

/-- The digits of a count are read back. -/
theorem count?_toDigits (h : n < 2 ^ 64) : count? (Nat.toDigits 10 n) = some n := by
  have digit : ∀ c ∈ Nat.toDigits 10 n, c.isDigit = true := fun c hc =>
    Nat.isDigit_of_mem_toDigits (by decide) (by decide) hc
  have no_sign : ∀ digits, Nat.toDigits 10 n ≠ '+' :: digits := by
    intro digits eq
    have sign := digit '+' (eq ▸ List.mem_cons_self)
    cases sign
  rw [count?, Text.trim_of_not_blank fun c hc => Text.not_isBlank_of_isDigit (digit c hc)]
  split
  · rename_i digits eq
    exact absurd eq (no_sign digits)
  · rw [Text.wordOfDigits?_toDigits]
    exact if_pos h

/-- Two counts are read back. -/
theorem pair?_written {rows columns : Nat} (hr : rows < 2 ^ 64) (hc : columns < 2 ^ 64) :
    pair? (toString rows ++ "," ++ toString columns) = some (rows, columns) := by
  have text : (toString rows ++ "," ++ toString columns).toList =
      Nat.toDigits 10 rows ++ ',' :: Nat.toDigits 10 columns := by
    simp [String.toList_append, Nat.toString_eq_repr, Nat.toList_repr]
  have no_comma : ',' ∉ Nat.toDigits 10 rows := by
    intro mem
    have digit := Nat.isDigit_of_mem_toDigits (by decide) (by decide) mem
    cases digit
  rw [pair?, Text.cut?_eq_some_iff.2 ⟨no_comma, text⟩]
  dsimp only
  rw [count?_toDigits hr, count?_toDigits hc]

/-- The name of an address ends at the equals sign behind it. -/
theorem sides?_written (a : Address) (text : String) :
    sides? (a.name ++ "=" ++ text) = some (a.name, text) := by
  have chars : (a.name ++ "=" ++ text).toList = a.name.toList ++ '=' :: text.toList := by
    simp [String.toList_append]
  have no_sign : '=' ∉ a.name.toList := by
    rw [Address.toList_name, List.mem_append]
    rintro (letter | digit)
    · have upper := Column.isUpper_of_mem_letters letter
      cases upper
    · have digit := Nat.isDigit_of_mem_toDigits (by decide) (by decide) digit
      cases digit
  rw [sides?, Text.cut?_eq_some_iff.2 ⟨no_sign, chars⟩]
  simp

/-- **An edit is read back** from the value of its field. -/
theorem Fits.give (h : e.Fits) (o : Options) (name : String) :
    o.give e.field name e.written = .ok (o.addEdit e) := by
  cases e with
  | set a text => simp only [field, written, Options.give, Options.addAssignment, sides?_written,
      Address.ofName?_name h.1 h.2]
  | extend rows columns => simp only [field, written, Options.give, Options.addPair,
      pair?_written h.1 h.2]
  | shrink rows columns => simp only [field, written, Options.give, Options.addPair,
      pair?_written h.1 h.2]

end Edit

/-! ## Requests -/

/-- A field whose value is kept as it is. -/
inductive TextField where
  | command
  | output
  | write
  | config
  deriving DecidableEq

/-- The field itself. -/
def TextField.field : TextField → Field
  | .command => .command
  | .output => .output
  | .write => .write
  | .config => .config

/-- One of the things that a command is asked for. -/
inductive Request where
  | switch (s : Switch)
  | text (f : TextField) (value : String)
  | edit (e : Edit)
  | file (path : String)
  deriving DecidableEq

namespace Request

/-- The arguments that a request is written as. -/
def args (long : Bool) : Request → List String
  | .switch s => [s.name long]
  | .text f value => [f.field.name long, value]
  | .edit e => [e.field.name long, e.written]
  | .file path => [path]

/-- A request that can be written: the numbers of an edit fit a word, and a path does not start like
an option. -/
def Fits : Request → Prop
  | .switch _ | .text _ _ => True
  | .edit e => e.Fits
  | .file path => path.toList.head? ≠ some '-'

/-- The value, if the request is one for that field. -/
def text? (f : TextField) : Request → Option String
  | .text g value => if g = f then some value else none
  | _ => none

/-- The edit, if the request is one. -/
def edit? : Request → Option Edit
  | .edit e => some e
  | _ => none

/-- The path, if the request is one. -/
def file? : Request → Option String
  | .file path => some path
  | _ => none

/-- The files that are asked for. -/
def files (requests : List Request) : List String := requests.filterMap file?

/-- In front of a second file there is one file. -/
theorem exists_second_file {requests : List (Bool × Request)} {path : String}
    (second : (files (requests.map Prod.snd))[1]? = some path) :
    ∃ front long back, requests = front ++ (long, .file path) :: back ∧
      (files (front.map Prod.snd)).length = 1 := by
  rw [files, List.filterMap_map] at second
  match found : requests.filterMap (file? ∘ Prod.snd), second with
  | first :: other :: more, second =>
    obtain rfl : other = path := Option.some.inj second
    obtain ⟨front, r, back, rfl, no_file, file, found⟩ := List.filterMap_eq_cons_iff.1 found
    obtain ⟨front', ⟨long, r'⟩, back', rfl, no_file', file', -⟩ := List.filterMap_eq_cons_iff.1 found
    have path_of : r' = .file other := by
      cases r' <;> simp_all [file?]
    refine ⟨front ++ r :: front', long, back', by simp [path_of], ?_⟩
    rw [files, List.filterMap_map, List.filterMap_append, List.filterMap_eq_nil_iff.2 no_file,
      List.nil_append, List.filterMap_cons_some file, List.filterMap_eq_nil_iff.2 no_file']
    rfl

/-- The arguments of some requests, each with one of its spellings. -/
def writeAll (requests : List (Bool × Request)) : List String :=
  requests.flatMap fun (long, r) => r.args long

end Request

/-! ## What arguments ask for -/

namespace Options

variable {o : Options} {r : Request} {seen : List Request} {long : Bool}

/-- The text that a field has. -/
def text (o : Options) : TextField → Option String
  | .command => o.command
  | .output => o.output
  | .write => o.write
  | .config => o.config

/-- Gives a text to a field. -/
def setText (o : Options) (value : String) : TextField → Options
  | .command => { o with command := some value }
  | .output => { o with output := some value }
  | .write => { o with write := some value }
  | .config => { o with config := some value }

/-- Whether a switch is on. -/
def isOn (o : Options) : Switch → Bool
  | .help => o.help
  | .verbose => o.verbose

/-- The options with one more request. -/
def grant (o : Options) : Request → Options
  | .switch s => o.turnOn s
  | .text f value => o.setText value f
  | .edit e => o.addEdit e
  | .file path => { o with file := some path }

@[simp] theorem text_turnOn (o : Options) (s : Switch) : (o.turnOn s).text = o.text := by
  cases s <;> rfl

@[simp] theorem edits_turnOn (o : Options) (s : Switch) : (o.turnOn s).edits = o.edits := by
  cases s <;> rfl

@[simp] theorem file_turnOn (o : Options) (s : Switch) : (o.turnOn s).file = o.file := by
  cases s <;> rfl

theorem isOn_turnOn (o : Options) (s s' : Switch) :
    (o.turnOn s).isOn s' = (decide (s' = s) || o.isOn s') := by
  cases s <;> cases s' <;> rfl

theorem text_setText (o : Options) (value : String) (f f' : TextField) :
    (o.setText value f).text f' = if f = f' then some value else o.text f' := by
  cases f <;> cases f' <;> rfl

@[simp] theorem edits_setText (o : Options) (value : String) (f : TextField) :
    (o.setText value f).edits = o.edits := by
  cases f <;> rfl

@[simp] theorem file_setText (o : Options) (value : String) (f : TextField) :
    (o.setText value f).file = o.file := by
  cases f <;> rfl

@[simp] theorem isOn_setText (o : Options) (value : String) (f : TextField) :
    (o.setText value f).isOn = o.isOn := by
  cases f <;> rfl

@[simp] theorem text_addEdit (o : Options) (e : Edit) : (o.addEdit e).text = o.text := by
  ext1 f
  cases f <;> rfl

@[simp] theorem isOn_addEdit (o : Options) (e : Edit) : (o.addEdit e).isOn = o.isOn := by
  ext1 s
  cases s <;> rfl

@[simp] theorem text_grant_file (o : Options) (path : String) :
    (o.grant (.file path)).text = o.text := by
  ext1 f
  cases f <;> rfl

@[simp] theorem isOn_grant_file (o : Options) (path : String) :
    (o.grant (.file path)).isOn = o.isOn := by
  ext1 s
  cases s <;> rfl

/-- The options are what some requests ask for: the first file, the last text that was given to each
field, all edits in their order, and the switches that were named. -/
structure StandsFor (o : Options) (requests : List Request) : Prop where
  file : o.file = (Request.files requests).head?
  text : ∀ f, o.text f = (requests.filterMap (Request.text? f)).getLast?
  edits : o.edits = requests.filterMap Request.edit?
  isOn : ∀ s, o.isOn s = true ↔ .switch s ∈ requests

/-- Requests determine the options. -/
theorem StandsFor.unique {o' : Options} {requests : List Request} (h : o.StandsFor requests)
    (h' : o'.StandsFor requests) : o = o' := by
  have text (f : TextField) : o.text f = o'.text f := (h.text f).trans (h'.text f).symm
  have isOn (s : Switch) : o.isOn s = o'.isOn s :=
    Bool.eq_iff_iff.2 ((h.isOn s).trans (h'.isOn s).symm)
  have file : o.file = o'.file := h.file.trans h'.file.symm
  have edits : o.edits = o'.edits := h.edits.trans h'.edits.symm
  cases o
  cases o'
  simp only [mk.injEq]
  exact ⟨file, text .command, edits, text .output, text .write, text .config, isOn .verbose,
    isOn .help⟩

theorem standsFor_nil : StandsFor {} [] where
  file := rfl
  text f := by cases f <;> rfl
  edits := rfl
  isOn s := by cases s <;> simp [Options.isOn]

/-- One more request, which is not a second file. -/
theorem StandsFor.grant (h : o.StandsFor seen) (first : ∀ path, r = .file path → o.file = none) :
    (o.grant r).StandsFor (seen ++ [r]) := by
  cases r with
  | switch s => exact {
      file := by simp [Options.grant, h.file, Request.files, Request.file?]
      text := fun f => by simp [Options.grant, h.text, Request.text?]
      edits := by simp [Options.grant, h.edits, Request.edit?]
      isOn := fun s' => by simp [Options.grant, isOn_turnOn, h.isOn, or_comm] }
  | text f value => exact {
      file := by simp [Options.grant, h.file, Request.files, Request.file?]
      text := fun f' => by
        by_cases eq : f = f'
        · simp [Options.grant, text_setText, Request.text?, eq]
        · simp [Options.grant, text_setText, Request.text?, eq, h.text]
      edits := by simp [Options.grant, h.edits, Request.edit?]
      isOn := fun s => by simp [Options.grant, h.isOn] }
  | edit e => exact {
      file := by simp [Options.grant, addEdit, h.file, Request.files, Request.file?]
      text := fun f => by simp [Options.grant, h.text, Request.text?]
      edits := by simp [Options.grant, addEdit, h.edits, Request.edit?]
      isOn := fun s => by simp [Options.grant, h.isOn] }
  | file path =>
    have no_file : seen.filterMap Request.file? = [] := by
      rw [← List.head?_eq_none_iff]
      exact h.file.symm.trans (first path rfl)
    exact {
      file := by simp [Options.grant, Request.files, no_file, Request.file?]
      text := fun f => by simp [h.text, Request.text?]
      edits := by simp [Options.grant, h.edits, Request.edit?]
      isOn := fun s => by simp [h.isOn] }

/-! ## Reading requests -/

/-- **A request is read** from its arguments, whatever follows them, if it is not a second file. -/
theorem readArgs_args (fits : r.Fits) (first : ∀ path, r = .file path → o.file = none)
    (rest : List String) : o.readArgs (r.args long ++ rest) = (o.grant r).readArgs rest := by
  cases r with
  | switch s => simp only [Request.args, List.singleton_append, readArgs, Switch.ofName?_name, grant]
  | text f value =>
    have given : o.give f.field (f.field.name long) value = .ok (o.setText value f) := by
      cases f <;> rfl
    exact readArgs_of_given (Field.ofName?_name long _) given rest
  | edit e => exact readArgs_of_given (Field.ofName?_name long _) (Edit.Fits.give fits o _) rest
  | file path =>
    have no_file : o.file = none := first path rfl
    have plain : path.toList.head? ≠ some '-' := fits
    simp only [Request.args, List.singleton_append, readArgs, Switch.ofName?_of_plain plain,
      Field.ofName?_of_plain plain, addPath, if_neg plain, no_file, Option.isSome_none,
      Bool.false_eq_true, if_false, grant]

/-- A second file is refused, whatever follows it. -/
theorem readArgs_file {path : String} (fits : (Request.file path).Fits) (named : o.file.isSome = true)
    (rest : List String) :
    o.readArgs ((Request.file path).args long ++ rest) = .error (.unexpectedArgument path) := by
  have plain : path.toList.head? ≠ some '-' := fits
  simp only [Request.args, List.singleton_append, readArgs, Switch.ofName?_of_plain plain,
    Field.ofName?_of_plain plain, addPath, if_neg plain, named, if_true]

/-- A field without a value behind it is refused. -/
theorem readArgs_name {name : String} {field : Field} (called : Field.ofName? name = some field) :
    o.readArgs [name] = .error (.missingValue name) := by
  simp only [readArgs, Field.not_switch called, called]

/-- **Requests are read one after the other** from their arguments, whatever follows these. -/
theorem readArgs_writeAll {requests : List (Bool × Request)} (h : o.StandsFor seen)
    (fits : ∀ r ∈ requests, r.2.Fits)
    (single : (Request.files (seen ++ requests.map Prod.snd)).length ≤ 1) :
    ∃ o' : Options, o'.StandsFor (seen ++ requests.map Prod.snd) ∧
      ∀ rest, o.readArgs (Request.writeAll requests ++ rest) = o'.readArgs rest := by
  induction requests generalizing o seen with
  | nil => exact ⟨o, by simpa using h, fun rest => rfl⟩
  | cons request requests ih =>
    obtain ⟨long, r⟩ := request
    obtain ⟨fits_r, fits⟩ := List.forall_mem_cons.1 fits
    rw [List.map_cons, List.append_cons] at single ⊢
    have first : ∀ path, r = .file path → o.file = none := by
      rintro path rfl
      rw [h.file, List.head?_eq_none_iff, ← List.length_eq_zero_iff]
      simp only [Request.files, Request.file?, List.filterMap_append, List.length_append,
        List.filterMap_cons, List.length_cons] at single ⊢
      omega
    obtain ⟨o', stands, read⟩ := ih (h.grant first) fits single
    refine ⟨o', stands, fun rest => ?_⟩
    rw [Request.writeAll, List.flatMap_cons, List.append_assoc, readArgs_args fits_r first]
    exact read rest

/-- **A second file is refused**, whatever follows it. -/
theorem ofArgs_second_file {requests : List (Bool × Request)} {path : String}
    (fits : ∀ r ∈ requests, r.2.Fits)
    (second : (Request.files (requests.map Prod.snd))[1]? = some path) (rest : List String) :
    ofArgs (Request.writeAll requests ++ rest) = .error (.unexpectedArgument path) := by
  obtain ⟨front, long, back, rfl, single⟩ := Request.exists_second_file second
  obtain ⟨fits, fits_path, -⟩ := List.forall_mem_append.1 fits |>.imp_right List.forall_mem_cons.1
  obtain ⟨o, stands, read⟩ := readArgs_writeAll standsFor_nil fits single.le
  have named : o.file.isSome = true := by
    rw [stands.file, List.isSome_head?, List.nil_append, ← List.length_pos_iff, single]
    exact Nat.one_pos
  rw [Request.writeAll, List.flatMap_append, List.flatMap_cons, List.append_assoc, List.append_assoc,
    ofArgs]
  exact (read _).trans (readArgs_file fits_path named _)

/-- **Arguments are read back.** Requests of any kind and number, each in one of its spellings, are
what the options that are read stand for, unless there is more than one file: then the second one is
refused. The name of a field with nothing behind it is refused in any case. -/
theorem ofArgs_written (requests : List (Bool × Request)) (fits : ∀ r ∈ requests, r.2.Fits) :
    ((Request.files (requests.map Prod.snd)).length ≤ 1 →
      ∃ o : Options, ofArgs (Request.writeAll requests) = .ok o ∧
        o.StandsFor (requests.map Prod.snd)) ∧
    (∀ path, (Request.files (requests.map Prod.snd))[1]? = some path →
      ofArgs (Request.writeAll requests) = .error (.unexpectedArgument path)) ∧
    ∀ name field, Field.ofName? name = some field →
      ∃ e, ofArgs (Request.writeAll requests ++ [name]) = .error e ∧
        ((Request.files (requests.map Prod.snd)).length ≤ 1 → e = .missingValue name) := by
  refine ⟨fun single => ?_, fun path second => ?_, fun name field called => ?_⟩
  · obtain ⟨o, stands, read⟩ := readArgs_writeAll standsFor_nil fits single
    refine ⟨o, ?_, stands⟩
    rw [ofArgs, ← List.append_nil (Request.writeAll requests), read, readArgs]
  · rw [← List.append_nil (Request.writeAll requests)]
    exact ofArgs_second_file fits second []
  · by_cases single : (Request.files (requests.map Prod.snd)).length ≤ 1
    · obtain ⟨o, -, read⟩ := readArgs_writeAll standsFor_nil fits single
      exact ⟨_, (read [name]).trans (readArgs_name called), fun _ => rfl⟩
    · have second := List.getElem?_eq_getElem (Nat.not_le.1 single)
      exact ⟨_, ofArgs_second_file fits second [name], fun single' => absurd single' single⟩

/-- A text that looks like a field, an assignment with signs of its own, the largest count, and a
field that is given twice; a second file, and a field without a value. -/
theorem ofArgs_written_twice :
    let requests : List (Bool × Request) := [(true, .text .command "-w"),
      (false, .edit (.set ⟨0, 26⟩ "-=1,2")), (false, .edit (.extend (2 ^ 64 - 1) 0)),
      (false, .switch .verbose), (true, .file "f"), (false, .text .command "")]
    ((∀ r ∈ requests, r.2.Fits) ∧ (Request.files (requests.map Prod.snd)).length ≤ 1 ∧
        Request.writeAll requests = ["--command", "-w", "-s", "AA1=-=1,2", "--extend",
          "18446744073709551615,0", "-v", "f", "-c", ""] ∧
        ofArgs (Request.writeAll requests) = .ok {
          file := some "f"
          command := some ""
          edits := [.set ⟨0, 26⟩ "-=1,2", .extend (2 ^ 64 - 1) 0]
          verbose := true }) ∧
      ofArgs (Request.writeAll (requests ++ [(false, .file "g")])) =
        .error (.unexpectedArgument "g") ∧
      Field.ofName? "-w" = some .write ∧
      ofArgs (Request.writeAll requests ++ ["-w"]) = .error (.missingValue "-w") := by
  intro requests
  have fits : ∀ r ∈ requests, r.2.Fits := by
    simp [requests, Request.Fits, Edit.Fits]
  have fits' : ∀ r ∈ requests ++ [(false, .file "g")], r.2.Fits := by
    simp [requests, Request.Fits, Edit.Fits]
  have single : (Request.files (requests.map Prod.snd)).length ≤ 1 := by decide
  obtain ⟨reads, -, refuses⟩ := ofArgs_written requests fits
  obtain ⟨o, read, stands⟩ := reads single
  have asked : StandsFor {
      file := some "f"
      command := some ""
      edits := [.set ⟨0, 26⟩ "-=1,2", .extend (2 ^ 64 - 1) 0]
      verbose := true } (requests.map Prod.snd) := by
    refine ⟨rfl, fun f => ?_, rfl, fun s => ?_⟩
    · cases f <;> rfl
    · cases s <;> decide
  obtain ⟨e, refused, missing⟩ := refuses "-w" .write rfl
  refine ⟨⟨fits, single, by cbv, ?_⟩, ?_, rfl, ?_⟩
  · rw [read, stands.unique asked]
  · exact (ofArgs_written _ fits').2.1 "g" rfl
  · rw [refused, missing single]

end Options

end Spreadsheet

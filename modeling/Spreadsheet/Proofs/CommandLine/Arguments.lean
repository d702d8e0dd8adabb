import Spreadsheet.CommandLine.Options

/-!
# Arguments in front of others

A path and some edits are read in the same way whatever arguments follow them
(`Options.ofArgs_edits`): the first one that is wrong is refused, and else the path and the edits
stand in the options with which the reading goes on.
-/

namespace Spreadsheet

variable {arg : String} {args : List String}

/-! ## Paths -/

theorem Switch.ofName?_of_plain (plain : arg.toList.head? ≠ some '-') : ofName? arg = none := by
  unfold ofName?
  split <;> simp_all

theorem Field.ofName?_of_plain (plain : arg.toList.head? ≠ some '-') : ofName? arg = none := by
  unfold ofName?
  split <;> simp_all

/-- A path comes first or not at all. -/
theorem Options.ofArgs_path {file : Option String}
    (plain : ∀ path ∈ file, path.toList.head? ≠ some '-') (args : List String) :
    ofArgs (file.toList ++ args) = readArgs { file := file } args := by
  cases file with
  | none => rfl
  | some path =>
    have plain : path.toList.head? ≠ some '-' := plain path rfl
    rw [Option.toList_some, List.singleton_append, ofArgs, readArgs, Switch.ofName?_of_plain plain,
      Field.ofName?_of_plain plain]
    simp only [addPath, if_neg plain, Option.isSome_none, Bool.false_eq_true, if_false]

/-! ## Edits -/

/-- No name is that of a field and of a switch. -/
theorem Field.not_switch {field : Field} (h : ofName? arg = some field) :
    Switch.ofName? arg = none := by
  unfold Switch.ofName?
  split <;> simp_all [ofName?]

/-- The field asks for an edit. -/
inductive Field.IsEdit : Field → Prop
  | set : IsEdit .set
  | extend : IsEdit .extend
  | shrink : IsEdit .shrink

/-- The arguments ask for edits and nothing else. -/
inductive EditArgs : List String → Prop
  | nil : EditArgs []
  | cons {name value : String} {args : List String} {field : Field}
    (called : Field.ofName? name = some field) (edit : field.IsEdit) (rest : EditArgs args) :
    EditArgs (name :: value :: args)

/-- The value of such a field is an edit, whatever else is asked for, or it is refused. -/
theorem Field.IsEdit.give {field : Field} (h : field.IsEdit) (name value : String) :
    (∃ e, ∀ o : Options, o.give field name value = .ok (o.addEdit e)) ∨
      ∃ e, ∀ o : Options, o.give field name value = .error e := by
  cases h with
  | set =>
    simp only [Options.give, Options.addAssignment]
    split
    · exact Or.inr ⟨_, fun _ => rfl⟩
    · split
      · exact Or.inr ⟨_, fun _ => rfl⟩
      · exact Or.inl ⟨_, fun _ => rfl⟩
  | extend =>
    simp only [Options.give, Options.addPair]
    split
    · exact Or.inr ⟨_, fun _ => rfl⟩
    · exact Or.inl ⟨_, fun _ => rfl⟩
  | shrink =>
    simp only [Options.give, Options.addPair]
    split
    · exact Or.inr ⟨_, fun _ => rfl⟩
    · exact Or.inl ⟨_, fun _ => rfl⟩

theorem Options.readArgs_of_given {o o' : Options} {field : Field} {name value : String}
    (called : Field.ofName? name = some field) (given : o.give field name value = .ok o')
    (args : List String) : o.readArgs (name :: value :: args) = o'.readArgs args := by
  simp only [readArgs, Field.not_switch called, called, given]

theorem Options.readArgs_of_refused {o : Options} {field : Field} {name value : String}
    {e : UsageError} (called : Field.ofName? name = some field)
    (refused : o.give field name value = .error e) (args : List String) :
    o.readArgs (name :: value :: args) = .error e := by
  simp only [readArgs, Field.not_switch called, called, refused]

/-- **Edits are read in the same way in front of any other arguments**: they are added to the
options, or one of them is refused. -/
theorem EditArgs.readArgs (h : EditArgs args) :
    (∃ edits : List Edit, (args ≠ [] → edits ≠ []) ∧ ∀ (o : Options) (rest : List String),
      o.readArgs (args ++ rest) = { o with edits := o.edits ++ edits }.readArgs rest) ∨
    ∃ e, ∀ (o : Options) (rest : List String), o.readArgs (args ++ rest) = .error e := by
  induction h with
  | nil =>
    refine Or.inl ⟨[], fun some => absurd rfl some, fun o rest => ?_⟩
    rw [List.append_nil, List.nil_append]
  | @cons name value args field called edit _ ih =>
    rcases edit.give name value with ⟨e, given⟩ | ⟨e, refused⟩
    · have first : ∀ (o : Options) (rest : List String), o.readArgs (name :: value :: args ++ rest) =
          (o.addEdit e).readArgs (args ++ rest) := fun o rest =>
        Options.readArgs_of_given called (given o) _
      rcases ih with ⟨edits, -, read⟩ | ⟨e', refused⟩
      · refine Or.inl ⟨e :: edits, fun _ => List.cons_ne_nil _ _, fun o rest => ?_⟩
        rw [first, read]
        simp [Options.addEdit]
      · exact Or.inr ⟨e', fun o rest => (first o rest).trans (refused _ rest)⟩
    · exact Or.inr ⟨e, fun o rest => Options.readArgs_of_refused called (refused o) _⟩

/-- **A path and edits in front of other arguments** are read, or refused whatever follows. -/
theorem Options.ofArgs_edits {file : Option String}
    (plain : ∀ path ∈ file, path.toList.head? ≠ some '-') (h : EditArgs args) :
    (∃ edits : List Edit, (args ≠ [] → edits ≠ []) ∧ ∀ rest : List String,
      ofArgs (file.toList ++ args ++ rest) = readArgs { file, edits } rest) ∨
    ∃ e, ∀ rest : List String, ofArgs (file.toList ++ args ++ rest) = .error e := by
  simp only [List.append_assoc, ofArgs_path plain]
  rcases h.readArgs with ⟨edits, some_edit, read⟩ | ⟨e, refused⟩
  · exact Or.inl ⟨edits, some_edit, fun rest => read _ rest⟩
  · exact Or.inr ⟨e, fun rest => refused _ rest⟩

end Spreadsheet

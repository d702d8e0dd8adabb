import Spreadsheet.CommandLine.Edit

/-!
# Options

The arguments of a command are switches, fields with a value behind them, and at most one path. A
field that comes again replaces its value, except that edits are collected in their order. The first
argument that is wrong decides the error.
-/

namespace Spreadsheet

/-- What a command is asked to do. -/
structure Options where
  file : Option String := none
  command : Option String := none
  edits : List Edit := []
  output : Option String := none
  write : Option String := none
  config : Option String := none
  verbose : Bool := false
  help : Bool := false
  deriving DecidableEq

/-- Why arguments are refused. -/
inductive UsageError where
  | unknownOption (arg : String)
  | missingValue (name : String)
  | notAnAssignment (text : String)
  | notACell (text : String)
  | notAPair (name text : String)
  | unexpectedArgument (arg : String)
  deriving DecidableEq

/-- The message for an error. -/
def UsageError.message : UsageError → String
  | .unknownOption arg => "Unknown option: " ++ arg
  | .missingValue name => name ++ " requires a value"
  | .notAnAssignment text => "--set expects <A1>=<TEXT>, got " ++ text
  | .notACell text => (FormulaError.invalidCellReference text).message
  | .notAPair name text => name ++ " expects <ROWS>,<COLS>, got " ++ text
  | .unexpectedArgument arg => "Unexpected argument: " ++ arg

/-- An argument that stands alone. -/
inductive Switch where
  | help
  | verbose
  deriving DecidableEq

/-- An argument with a value behind it. -/
inductive Field where
  | command
  | set
  | extend
  | shrink
  | output
  | write
  | config
  deriving DecidableEq

/-- The switch with a name. -/
def Switch.ofName? : String → Option Switch
  | "-h" | "--help" => some .help
  | "-v" | "--verbose" => some .verbose
  | _ => none

/-- The field with a name. -/
def Field.ofName? : String → Option Field
  | "-c" | "--command" => some .command
  | "-s" | "--set" => some .set
  | "--extend" => some .extend
  | "--shrink" => some .shrink
  | "-o" | "--output" => some .output
  | "-w" | "--write" => some .write
  | "--config" => some .config
  | _ => none

namespace Options

/-- Turns a switch on. -/
def turnOn (o : Options) : Switch → Options
  | .help => { o with help := true }
  | .verbose => { o with verbose := true }

/-- Adds an edit behind the others. -/
def addEdit (o : Options) (e : Edit) : Options :=
  { o with edits := o.edits ++ [e] }

/-- Adds the edit of an assignment. -/
def addAssignment (o : Options) (text : String) : Except UsageError Options :=
  match Edit.sides? text with
  | none => .error (.notAnAssignment text)
  | some (name, text) =>
    match Address.ofName? name with
    | none => .error (.notACell name)
    | some a => .ok (o.addEdit (.set a text))

/-- Adds the edit that a pair of counts makes. -/
def addPair (o : Options) (edit : Nat → Nat → Edit) (name text : String) :
    Except UsageError Options :=
  match Edit.pair? text with
  | none => .error (.notAPair name text)
  | some (rows, columns) => .ok (o.addEdit (edit rows columns))

/-- Gives a value to the field that is called `name`. -/
def give (o : Options) (field : Field) (name value : String) : Except UsageError Options :=
  match field with
  | .command => .ok { o with command := some value }
  | .set => o.addAssignment value
  | .extend => o.addPair .extend name value
  | .shrink => o.addPair .shrink name value
  | .output => .ok { o with output := some value }
  | .write => .ok { o with write := some value }
  | .config => .ok { o with config := some value }

/-- Takes an argument that is neither a switch nor a field. -/
def addPath (o : Options) (arg : String) : Except UsageError Options :=
  if arg.toList.head? = some '-' then .error (.unknownOption arg)
  else if o.file.isSome then .error (.unexpectedArgument arg)
  else .ok { o with file := some arg }

/-- Takes some arguments, the first one first. -/
def readArgs (o : Options) : List String → Except UsageError Options
  | [] => .ok o
  | arg :: args =>
    match Switch.ofName? arg with
    | some switch => (o.turnOn switch).readArgs args
    | none =>
      match Field.ofName? arg with
      | none =>
        match o.addPath arg with
        | .error e => .error e
        | .ok o => o.readArgs args
      | some field =>
        match args with
        | [] => .error (.missingValue arg)
        | value :: args =>
          match o.give field arg value with
          | .error e => .error e
          | .ok o => o.readArgs args

/-- The options that the arguments of a command stand for. -/
def ofArgs (args : List String) : Except UsageError Options :=
  readArgs {} args

/-- The text that explains the arguments. -/
def usage : String :=
  "Usage: sheets [OPTIONS] [FILE]\n" ++
  "\n" ++
  "Arguments:\n" ++
  "  [FILE]                    Sheet to open (.json)\n" ++
  "\n" ++
  "Options:\n" ++
  "  -c, --command <FORMULA>   Evaluate a formula and print its value\n" ++
  "  -s, --set <A1>=<TEXT>     Set a cell (can be repeated)\n" ++
  "  --extend <ROWS>,<COLS>    Add rows and columns\n" ++
  "  --shrink <ROWS>,<COLS>    Remove rows and columns\n" ++
  "  -o, --output <FILE>       Export to markdown file\n" ++
  "  -w, --write <FILE>        Save the sheet as JSON\n" ++
  "  --config <FILE>           Read config from FILE\n" ++
  "  -v, --verbose             Print invalidated cells after each edit\n" ++
  "  -h, --help                Print help\n"

end Options

end Spreadsheet

import EntityFilter.Command.Arguments
import EntityFilter.Command.Help
import EntityFilter.Filter.Outline

/-!
# What the command prints

`run` is the whole command: from its arguments and its input to what it prints and its exit code.
-/

namespace EntityFilter.Command

/-- The end of a run. -/
structure Outcome where
  code : Nat
  output : String
  errors : String
deriving DecidableEq, Repr

/-- The name and the version of the command. -/
def version : String :=
  "tagql 0.1.0\n"

/-- A run that failed with a message. -/
def failed (message : String) : Outcome :=
  ⟨1, "", s!"Error: {message}\n"⟩

/-- A run that printed a text. -/
def printed (text : String) : Outcome :=
  ⟨0, text ++ "\n", ""⟩

/-- The filter that is asked for: a hyphen stands for the input, less the blanks at its end. -/
def filterText (filter input : String) : String :=
  if filter == "-" then String.ofList (Text.trimEnd input.toList) else filter

/-- The value columns of the arguments. -/
def valueColumns (a : CompileArguments) : Except QueryError ValueColumns :=
  if a.columns.isEmpty then .ok ValueColumns.standard else ValueColumns.ofNames a.columns

/-- The statement for the arguments. -/
def statement (a : CompileArguments) (input : String) : Except QueryError CompiledQuery := do
  let columns ← valueColumns a
  let compiler ← QueryCompiler.of a.options columns
  { a.query with filter := filterText a.query.filter input }.compile compiler

/-- Does what is asked for. -/
def perform (input : String) : Invocation → Outcome
  | .parse filter =>
    match EntityFilter.parse (filterText filter input) with
    | .ok e    => printed e.outline.pretty
    | .error e => failed e.message
  | .compile a =>
    match statement a input with
    | .ok q    => printed q.sql
    | .error e => failed e.message
  | .version => ⟨0, version, ""⟩
  | .help topic full => ⟨0, topic.text full, ""⟩

/-- The arguments ask for a filter that is in the input. -/
def readsInput (arguments : List String) : Bool :=
  match Invocation.read arguments with
  | some (.parse filter) => filter == "-"
  | some (.compile a)    => a.query.filter == "-"
  | _                    => false

/-- The command; none if the arguments are refused. -/
def run (arguments : List String) (input : String) : Option Outcome :=
  (Invocation.read arguments).map (perform input)

end EntityFilter.Command

import EntityFilter.Query.Statement

/-!
# Arguments of the command

The command is asked to outline a filter (`parse`) or to print its statement (`compile`).
Arguments are read from left to right, and the first one that asks for help or for the version
wins over all that follows; `Invocation.read` knows no reason why arguments are refused, only
that they are.

An option has its value behind `=` or in the next argument, which then must not start with a
hyphen, unless it is nothing but a hyphen.  Behind `--` there are no options.
-/

namespace EntityFilter

/-- The options of `compile`. -/
inductive CompileOption
  | orgId | userId | tags | schema | kindSource | maxPathDepth | columns
deriving DecidableEq, Repr

namespace CompileOption

/-- All options, in the order the help lists them. -/
def all : List CompileOption :=
  [orgId, userId, tags, schema, kindSource, maxPathDepth, columns]

/-- The name of an option, without its hyphens. -/
def name : CompileOption → String
  | orgId        => "org-id"
  | userId       => "user-id"
  | tags         => "tags"
  | schema       => "schema"
  | kindSource   => "kind-source"
  | maxPathDepth => "max-path-depth"
  | columns      => "columns"

/-- The option may be given more than once. -/
def repeats : CompileOption → Bool
  | tags | columns => true
  | _              => false

/-- The option with a name. -/
def ofName? (name : String) : Option CompileOption :=
  all.find? fun o => o.name == name

end CompileOption

/-- What `compile` is asked for. -/
structure CompileArguments where
  query : Query
  options : CompileOptions := {}
  /-- The value columns, if there are any. -/
  columns : List String := []
deriving DecidableEq, Repr

namespace CompileArguments

/-- A list of values between commas; an empty text is one empty value. -/
def values (text : String) : List String :=
  text.splitOn ","

/-- A number that fits in 64 bits without a sign; a plus in front of it does not matter. -/
def natural? (text : String) : Option Nat :=
  Text.unsigned? 64 text.toList

/-- The source of kinds with this name. -/
def kindSource? : String → Option KindSource
  | "hierarchy"    => some .hierarchy
  | "parents-view" => some .parentsView
  | _              => none

/-- Sets an option to a value. -/
def set (a : CompileArguments) (option : CompileOption) (value : String) :
    Option CompileArguments :=
  match option with
  | .orgId        => (Text.int64? value.toList).map fun n => { a with query.orgId := n }
  | .userId       => (Text.int64? value.toList).map fun n => { a with query.userId := n }
  | .tags         => some { a with query.tags := a.query.tags ++ values value }
  | .schema       => some { a with query.schema := value }
  | .kindSource   => (kindSource? value).map fun s => { a with options.kindSource := s }
  | .maxPathDepth => (natural? value).map fun n => { a with options.maxPathDepth := n }
  | .columns      => some { a with columns := a.columns ++ values value }

end CompileArguments

/-- The parts of the command that have a help of their own. -/
inductive HelpTopic
  | command | parse | compile | help
deriving DecidableEq, Repr

/-- What the command is asked for. -/
inductive Invocation
  | parse (filter : String)
  | compile (arguments : CompileArguments)
  | version
  /-- Help, in full or in short. -/
  | help (topic : HelpTopic) (full : Bool)
deriving DecidableEq, Repr

namespace Invocation

/-- How an argument looks. -/
inductive Shape
  /-- Two hyphens alone. -/
  | escape
  /-- `--name` or `--name=value`. -/
  | long (name : String) (value : Option String)
  /-- Letters behind one hyphen. -/
  | short (letters : List Char)
  | plain
deriving DecidableEq, Repr

/-- The shape of an argument. -/
def Shape.of (argument : String) : Shape :=
  match argument.toList with
  | ['-', '-'] => .escape
  | '-' :: '-' :: text =>
    let name := text.takeWhile (· != '=')
    match text.drop name.length with
    | _ :: value => .long (String.ofList name) (some (String.ofList value))
    | []         => .long (String.ofList name) none
  | '-' :: letter :: letters => .short (letter :: letters)
  | _ => .plain

/-- The help that a shape asks for. -/
def helpAsked (topic : HelpTopic) : Shape → Option Invocation
  | .long "help" none => some (.help topic true)
  | .short ('h' :: _) => some (.help topic false)
  | _                 => none

/-- The filter, which is the one argument that is not an option. -/
abbrev Filter := Option String

/-- Reads the arguments behind `--`, where at most one filter is accepted. -/
def readPlain (filter : Filter) : List String → Option String
  | []         => filter
  | a :: rest  => if filter.isSome then none else readPlain (some a) rest

/-- Reads the arguments of `parse`. -/
def readParse (filter : Filter) : List String → Option Invocation
  | [] => filter.map .parse
  | a :: rest =>
    let shape := Shape.of a
    if let some asked := helpAsked .parse shape then some asked
    else match shape with
      | .escape => (readPlain filter rest).map .parse
      | .plain  => if filter.isSome then none else readParse (some a) rest
      | _       => none

/-- Sets an option of `compile`, unless it is given again and may not be. -/
def give (a : CompileArguments) (given : List CompileOption) (option : CompileOption)
    (value : String) : Option CompileArguments :=
  if given.contains option && !option.repeats then none else a.set option value

/-- The arguments of `compile` with their filter. -/
def finish (a : CompileArguments) (filter : Filter) : Option Invocation :=
  filter.map fun text => .compile { a with query.filter := text }

/-- Reads the arguments of `compile`, of which `a` and the options in `given` are known, and the
option `awaiting` still lacks its value. -/
def readCompile (a : CompileArguments) (given : List CompileOption) (filter : Filter) :
    Option CompileOption → List String → Option Invocation
  | none, [] => finish a filter
  | some _, [] => none
  | some awaiting, value :: rest => do
    guard (Shape.of value = .plain)
    readCompile (← give a given awaiting value) (awaiting :: given) filter none rest
  | none, first :: rest =>
    let shape := Shape.of first
    if let some asked := helpAsked .compile shape then some asked
    else match shape with
      | .escape  => (readPlain filter rest).bind fun text => finish a (some text)
      | .plain   => if filter.isSome then none else readCompile a given (some first) none rest
      | .short _ => none
      | .long name none => do
        readCompile a given filter (some (← CompileOption.ofName? name)) rest
      | .long name (some value) => do
        let option ← CompileOption.ofName? name
        readCompile (← give a given option value) (option :: given) filter none rest

/-- The part of the command that help is asked for by name. -/
def readHelp : List String → Option Invocation
  | []          => some (.help .command true)
  | ["parse"]   => some (.help .parse true)
  | ["compile"] => some (.help .compile true)
  | ["help"]    => some (.help .help true)
  | _           => none

/-- What the arguments ask for; none if they are refused. -/
def read : List String → Option Invocation
  | "parse" :: rest   => readParse none rest
  | "compile" :: rest => readCompile { query := { filter := "" } } [] none none rest
  | "help" :: rest    => readHelp rest
  | first :: _ =>
    match Shape.of first with
    | .long "version" none => some .version
    | .short ('V' :: _)    => some .version
    | shape                => helpAsked .command shape
  | [] => none

end Invocation

end EntityFilter

import EntityFilter.Query.Error
import EntityFilter.Query.Predicate

/-!
# From filters to predicates

Compilation goes through a filter from left to right and gives every mention of a tag the next
alias.  On a path the tag at the end comes first, then the references from the last to the first.
A mention with a condition also needs the ancestors of its tag: the closures and lookups it needs
are gathered on the way.

A path that is too deep fails before it draws an alias; what was drawn before it stays drawn.
-/

namespace EntityFilter

/-- How filters are compiled. -/
structure CompileOptions where
  kindSource : KindSource := .hierarchy
  /-- The largest number of names in a path with references. -/
  maxPathDepth : Nat := 16
deriving DecidableEq, Repr

/-- The options allow a path. -/
def CompileOptions.validate (options : CompileOptions) : Except QueryError Unit :=
  if options.maxPathDepth = 0 then .error (.invalidOptions .zeroDepth) else .ok ()

/-- What compilation has gathered. -/
structure CompileState where
  /-- The aliases that are drawn: all from 1 to this number. -/
  aliases : Nat := 0
  closures : List Closure := []
  /-- The lookups of the tags that are tested on the entity's own rows. -/
  lookups : List Lookup := []
deriving DecidableEq, Repr

/-- A step of compilation.  The state is also known when it fails. -/
abbrev Compile := ExceptT QueryError (StateM CompileState)

namespace Compile

/-- Draws the next alias. -/
def nextAlias : Compile Nat := do
  modify fun s => { s with aliases := s.aliases + 1 }
  return (← get).aliases

/-- Adds the walk from `tag` upward, if ancestors are found by walking. -/
def addClosure (options : CompileOptions) (mention : Nat) (tag : String) : Compile Unit :=
  match options.kindSource with
  | .hierarchy   => modify fun s => { s with closures := s.closures ++ [⟨mention, tag⟩] }
  | .parentsView => pure ()

/-- The lookup of the ancestors of `tag`, for which its closure is added. -/
def lookup (options : CompileOptions) (mention : Nat) (tag : String) : Compile Lookup := do
  addClosure options mention tag
  pure ⟨mention, tag, options.kindSource⟩

/-- Adds a lookup to those of the entity's own rows. -/
def addLookup (l : Lookup) : Compile Unit :=
  modify fun s => { s with lookups := s.lookups ++ [l] }

/-- A tag of the entity itself. -/
def ownTag (options : CompileOptions) (tag : String) (condition : Option Condition) :
    Compile Predicate := do
  let mention ← nextAlias
  match condition with
  | none => pure (.entityIn (.tagged mention tag))
  | some c =>
    addLookup (← lookup options mention tag)
    pure (.rowPasses mention tag (c.dispatch mention))

/-- The tag at the end of a path. -/
def lastTag (options : CompileOptions) (tag : String) (condition : Option Condition) :
    Compile RowSource := do
  let mention ← nextAlias
  match condition with
  | none   => pure (.tagged mention tag)
  | some c => return .valued tag (← lookup options mention tag) (c.dispatch mention)

/-- The references that lead to `inner`, the last one first. -/
def links (options : CompileOptions) (condition : Option Condition) (inner : RowSource) :
    List String → Compile RowSource
  | [] => pure inner
  | tag :: rest => do
    let mention ← nextAlias
    if condition.isSome then addClosure options mention tag
    links options condition (.linked mention tag inner) rest

/-- A tag at the end of references. -/
def chain (options : CompileOptions) (path : Path) (condition : Option Condition) :
    Compile Predicate := do
  if options.maxPathDepth < path.depth then
    throw (.pathTooDeep path.depth options.maxPathDepth)
  match path.segments.getLast? with
  | none => throw (.invalidIdentifier "<empty path>")
  | some terminal =>
    let last ← lastTag options terminal condition
    return .entityIn (← links options condition last path.segments.dropLast.reverse)

/-- A mention of a tag. -/
def reference (options : CompileOptions) (r : Reference) : Compile Predicate :=
  if r.path.isChain then chain options r.path r.condition
  else ownTag options r.path.terminal r.condition

mutual

/-- The predicate of a filter. -/
def expr (options : CompileOptions) : Expr → Compile Predicate
  | .or operands           => return .or (← exprs options operands)
  | .and operands          => return .and (← exprs options operands)
  | .paren inner           => return .paren (← expr options inner)
  | .has path              => reference options ⟨path, none⟩
  | .missing path          => return .not (← reference options ⟨path, none⟩)
  | .compare path op value => reference options ⟨path, some (.compare op value)⟩
  | .member path values    => reference options ⟨path, some (.member values)⟩

/-- The predicates of several filters, from left to right. -/
def exprs (options : CompileOptions) : List Expr → Compile (List Predicate)
  | []        => pure []
  | e :: rest => return (← expr options e) :: (← exprs options rest)

end

end Compile

/-- A compiled filter. -/
structure CompiledFilter where
  closures : List Closure
  lookups : List Lookup
  predicate : Predicate
  /-- How many aliases were drawn. -/
  aliases : Nat
deriving Repr

/-- Compiles a filter. -/
def compileExpr (options : CompileOptions) (e : Expr) : Except QueryError CompiledFilter := do
  options.validate
  match (Compile.expr options e).run.run {} with
  | (.ok predicate, s) => pure ⟨s.closures, s.lookups, predicate, s.aliases⟩
  | (.error error, _)  => throw error

end EntityFilter

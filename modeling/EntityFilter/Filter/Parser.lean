import EntityFilter.Filter.Expr
import EntityFilter.Filter.Lexer
import EntityFilter.Filter.Rule

/-!
# The grammar of filters

```text
expression := condition eof
condition  := all (OR all)*
all        := term (AND term)*
term       := '(' condition ')' | NOT path | path comparison value | path IN list | path
path       := NAME ('->' NAME)*
list       := '(' element (',' element)* ')'
```

`AND` binds tighter than `OR`.  A condition stands for its operand if it has only one.  The
elements of a list are all numbers and references, or all texts.  Conditions nest up to
`maxNesting` levels; `condition` is given the number of levels that are left.
-/

namespace EntityFilter

namespace Grammar

open Rule

/-- The kinds of tokens that start a term. -/
def termStart : List TokenKind :=
  [.openParen, .not, .name]

/-- Names with arrows between them. -/
def path : Rule Path := do
  let names ← separatedBy .arrow (expect .name)
  pure ⟨names.map Token.value⟩

/-- A token of one of `kinds`, as a value. -/
def literalOf (kinds : List TokenKind) : Rule Literal := do
  let t ← peek
  if t.kind ∈ kinds then
    let t ← token
    match Literal.ofToken t with
    | .ok value    => pure value
    | .error cause => failAt t.position cause
  else fail fun t => .mismatched t.display kinds

/-- The value of a comparison. -/
def value : Rule Literal :=
  literalOf Literal.scalarKinds

/-- An element of a list that starts with `first`. -/
def elementAfter (first : Literal) : Rule Literal := do
  let t ← peek
  let element ← literalOf Literal.listKinds
  if element.isNumeric = first.isNumeric then pure element
  else failAt t.position (.mixedList t.display)

/-- Elements in parentheses. -/
def list : Rule (List Literal) := do
  let _ ← expect .openParen
  let first ← literalOf Literal.listKinds
  let rest ← manyAfter .comma (elementAfter first)
  let _ ← expect .closeParen
  pure (first :: rest)

/-- A term, where `nested` reads a condition in parentheses. -/
def term (nested : Rule Expr) : Rule Expr := do
  let t ← peek
  match t.kind with
  | .openParen =>
    let _ ← token
    let inner ← nested
    let _ ← expect .closeParen
    pure (.paren inner)
  | .not =>
    let _ ← token
    let p ← path
    pure (.missing p)
  | .name =>
    let p ← path
    let t ← peek
    match t.kind with
    | .comparison op =>
      let _ ← token
      let v ← value
      pure (.compare p op v)
    | .member =>
      let _ ← token
      let vs ← list
      pure (.member p vs)
    | _ => pure (.has p)
  | .and | .or => fail fun t => .extraneous t.display termStart
  | _ => fail fun t => .mismatched t.display termStart

/-- A single operand stands for itself. -/
def collapse (join : List Expr → Expr) : List Expr → Expr
  | [operand] => operand
  | operands  => join operands

/-- Terms joined by `AND`. -/
def all (nested : Rule Expr) : Rule Expr := do
  let operands ← separatedBy .and (term nested)
  pure (collapse .and operands)

/-- A condition that may nest `levels` levels, itself counted. -/
def condition : Nat → Rule Expr
  | 0          => fail fun _ => .tooDeep
  | levels + 1 => do
    let operands ← separatedBy .or (all (condition levels))
    pure (collapse .or operands)

/-- A condition and nothing after it. -/
def expression (levels : Nat) : Rule Expr := do
  let e ← condition levels
  let t ← peek
  if t.kind = .eof then pure e else fail fun t => .extraneous t.display [.and, .or, .eof]

end Grammar

/-- A token stream that is being read by the grammar. -/
structure Parser where
  stream : TokenStream
  /-- The levels that are counted as entered. -/
  depth : Nat
deriving DecidableEq, Repr

namespace Parser

/-- The parser at the start of a text. -/
def start (text : String) : Except SyntaxError Parser := do
  let stream ← tokenize text
  pure ⟨stream, 0⟩

/-- The filter that the rest of the stream is, and the parser where reading stopped.  A level that
was refused stays counted. -/
def next (p : Parser) : Except SyntaxError Expr × Parser :=
  match (Grammar.expression (maxNesting - p.depth)).run p.stream with
  | (.ok e, stream)                   => (.ok e, ⟨stream, p.depth⟩)
  | (.error ⟨at_, .tooDeep⟩, stream)  => (.error ⟨at_, .tooDeep⟩, ⟨stream, p.depth + 1⟩)
  | (.error e, stream)                => (.error e, ⟨stream, p.depth⟩)

end Parser

/-- The filter that a text is. -/
def parse (text : String) : Except SyntaxError Expr := do
  let p ← Parser.start text
  p.next.1

end EntityFilter

import EntityFilter.Filter.Comparison
import EntityFilter.Filter.Position

/-!
# Tokens

The words of the filter language.  A token keeps its value, which is the text as written except in
quoted literals, where it is the text that the quotes stand for.
-/

namespace EntityFilter

/-- What a token is. -/
inductive TokenKind
  /-- `true` or `false`. -/
  | bool
  /-- `@` and an entity's number. -/
  | ref
  /-- A text in double quotes. -/
  | str
  /-- A text in single quotes, as lists have them. -/
  | inStr
  /-- A text in back quotes. -/
  | uri
  | number
  | date
  | dateTime
  | time
  | name
  | and
  | or
  | not
  | member
  | comparison (op : Comparison)
  | arrow
  | openParen
  | closeParen
  | comma
  /-- The end of the text. -/
  | eof
deriving DecidableEq, Repr

namespace TokenKind

/-- The name of the kind in a message. -/
def describe : TokenKind → String
  | bool => "BOOL" | ref => "REF" | str => "STR" | inStr => "INSTR" | uri => "URI"
  | number => "NUMBER" | date => "DATE" | dateTime => "DATETIME" | time => "TIME"
  | name => "NAME" | and => "AND" | or => "OR" | not => "NOT" | member => "IN"
  | comparison op => "'" ++ op.spelling ++ "'"
  | arrow => "'->'" | openParen => "'('" | closeParen => "')'" | comma => "','"
  | eof => "<EOF>"

end TokenKind

/-- A word of a filter. -/
structure Token where
  kind : TokenKind
  /-- The text, without quotes and escapes if it is quoted. -/
  value : String
  /-- Where it starts. -/
  position : Position
deriving DecidableEq, Repr

/-- The token as a message shows it: quoted again, but not escaped. -/
def Token.display (t : Token) : String :=
  match t.kind with
  | .eof   => "<EOF>"
  | .str   => "\"" ++ t.value ++ "\""
  | .inStr => "'" ++ t.value ++ "'"
  | .uri   => "`" ++ t.value ++ "`"
  | .ref   => "@" ++ t.value
  | _      => t.value

/-- The words of a text, in order, and where the text ends. -/
structure TokenStream where
  tokens : List Token
  endsAt : Position
deriving DecidableEq, Repr

namespace TokenStream

/-- The token that marks the end. -/
def eof (s : TokenStream) : Token :=
  ⟨.eof, "", s.endsAt⟩

/-- The next token; at the end, the one that marks it. -/
def current (s : TokenStream) : Token :=
  s.tokens.headD s.eof

/-- The stream after its next token.  The end is never passed. -/
def advance (s : TokenStream) : TokenStream :=
  { s with tokens := s.tokens.tail }

/-- All tokens, with the mark of the end. -/
def toList (s : TokenStream) : List Token :=
  s.tokens ++ [s.eof]

end TokenStream

end EntityFilter

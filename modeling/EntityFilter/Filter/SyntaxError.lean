import EntityFilter.Filter.Token
import EntityFilter.Text.Numeral

/-!
# Syntax errors

Why a text is no filter.  Reading stops at the first problem, so that a text is either a filter or
has exactly one error, with the place of the offending character or token.
-/

namespace EntityFilter

/-- How deep conditions may nest, the whole filter counted as one level. -/
def maxNesting : Nat := 200

/-- The literals that are recognised by their first characters and then fail to denote a value. -/
inductive LiteralForm
  | string | reference | date | dateTime | time
deriving DecidableEq, Repr

/-- The name of the form in a message. -/
def LiteralForm.describe : LiteralForm → String
  | string => "string" | reference => "reference" | date => "date" | dateTime => "dateTime"
  | time => "time"

/-- What is wrong with a text. -/
inductive SyntaxCause
  /-- No token starts with `text`. -/
  | unrecognised (text : String)
  /-- The literal denotes nothing. -/
  | invalidLiteral (form : LiteralForm) (text : String)
  /-- A token stands where one of `expected` has to. -/
  | mismatched (found : String) (expected : List TokenKind)
  /-- A token follows where only one of `expected` can. -/
  | extraneous (found : String) (expected : List TokenKind)
  /-- Conditions nest beyond `maxNesting`. -/
  | tooDeep
  /-- A list mixes numbers and texts. -/
  | mixedList (found : String)
deriving DecidableEq, Repr

namespace SyntaxCause

/-- A single kind by its name, several in braces. -/
def describeExpected : List TokenKind → String
  | [kind] => kind.describe
  | kinds  => "\x7b" ++ ", ".intercalate (kinds.map TokenKind.describe) ++ "\x7d"

/-- The wording. -/
def message : SyntaxCause → String
  | unrecognised text => "token recognition error at: '" ++ text ++ "'"
  | invalidLiteral form text => "invalid " ++ form.describe ++ " literal '" ++ text ++ "'"
  | mismatched found expected =>
    "mismatched input '" ++ found ++ "' expecting " ++ describeExpected expected
  | extraneous found expected =>
    "extraneous input '" ++ found ++ "' expecting " ++ describeExpected expected
  | tooDeep =>
    "expression too deeply nested (max depth: " ++ Text.natural maxNesting ++ ")"
  | mixedList found =>
    "list element '" ++ found ++ "' does not match the type of the first element"

end SyntaxCause

/-- What is wrong with a text, and where. -/
structure SyntaxError where
  position : Position
  cause : SyntaxCause
deriving DecidableEq, Repr

/-- `line:column` and the wording of the cause. -/
def SyntaxError.message (e : SyntaxError) : String :=
  Text.natural e.position.line ++ ":" ++ Text.natural e.position.column ++ " " ++ e.cause.message

end EntityFilter

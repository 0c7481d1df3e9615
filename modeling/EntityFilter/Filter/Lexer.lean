import EntityFilter.Filter.Lexeme

/-!
# The tokens of a text

A `Cursor` walks through a text.  `Cursor.next` skips blanks and reads one token; where there is
none it stops at the place up to which the text was looked through, and may be asked again.
`tokenize` reads a whole text, up to its end or its first error.
-/

namespace EntityFilter

/-- A place in a text that is being read. -/
structure Cursor where
  /-- The text that is still unread. -/
  rest : List Char
  /-- Where it starts. -/
  position : Position
deriving DecidableEq, Repr

namespace Cursor

/-- The start of a text. -/
def start (text : String) : Cursor :=
  ⟨text.toList, Position.start⟩

/-- The cursor `n` characters on, or at the end. -/
def advance (c : Cursor) (n : Nat) : Cursor :=
  ⟨c.rest.drop n, c.position.after (c.rest.take n)⟩

/-- The cursor behind the blanks it stands at. -/
def skipBlanks (c : Cursor) : Cursor :=
  c.advance (c.rest.takeWhile Text.isBlank).length

/-- The next token, and the cursor behind it.  At the end this is the mark of the end, again and
again. -/
def next (c : Cursor) : Except SyntaxError Token × Cursor :=
  let c := c.skipBlanks
  match c.rest with
  | [] => (.ok ⟨.eof, "", c.position⟩, c)
  | first :: rest =>
    match Reading.of first rest with
    | .token kind value more => (.ok ⟨kind, value, c.position⟩, c.advance (more + 1))
    | .fault cause taken     => (.error ⟨c.position, cause⟩, c.advance taken)

@[simp] theorem rest_advance (c : Cursor) (n : Nat) : (c.advance n).rest = c.rest.drop n := rfl

theorem length_skipBlanks_le (c : Cursor) : c.skipBlanks.rest.length ≤ c.rest.length := by
  simp [skipBlanks]

/-- The tokens from the cursor to the end of the text. -/
def tokens (c : Cursor) : Except SyntaxError TokenStream :=
  match _h : c.skipBlanks.rest with
  | [] => .ok ⟨[], c.skipBlanks.position⟩
  | first :: rest =>
    match Reading.of first rest with
    | .token kind value more => do
      let later ← (c.skipBlanks.advance (more + 1)).tokens
      pure { later with tokens := ⟨kind, value, c.skipBlanks.position⟩ :: later.tokens }
    | .fault cause _ => .error ⟨c.skipBlanks.position, cause⟩
termination_by c.rest.length
decreasing_by
  have := c.length_skipBlanks_le
  simp_all only [rest_advance, List.drop_succ_cons, List.length_drop, List.length_cons]
  omega

end Cursor

/-- The tokens of a whole text. -/
def tokenize (text : String) : Except SyntaxError TokenStream :=
  (Cursor.start text).tokens

end EntityFilter

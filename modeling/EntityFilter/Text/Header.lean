/-!
# Text of headers

The characters that names and values of headers may have.
-/

namespace EntityFilter.Text

/-- A character of a token: an ASCII letter, a digit or one of fifteen marks. -/
def isTokenChar (c : Char) : Bool :=
  c.isAlphanum || "!#$%&'*+-.^_`|~".toList.contains c

/-- A name is a token that is not empty. -/
def isHeaderName (name : String) : Bool :=
  !name.isEmpty && name.toList.all isTokenChar

/-- A character that a value may have: no control character but the tab. -/
def isHeaderChar (c : Char) : Bool :=
  c == '\t' || (0x20 ≤ c.toNat && c.toNat != 0x7F)

/-- A text that can be a value. -/
def isHeaderValue (value : String) : Bool :=
  value.toList.all isHeaderChar

/-- A value that is plain text: printable ASCII and tabs. -/
def isPlainValue (value : String) : Bool :=
  value.toList.all fun c => isHeaderChar c && c.toNat < 0x7F

/-- Names in different letter case are the same. -/
def sameHeader (a b : String) : Bool :=
  a.toList.map Char.toLower == b.toList.map Char.toLower

end EntityFilter.Text

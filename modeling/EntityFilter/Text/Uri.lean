/-!
# Addresses of services

An address is `scheme://authority/path?query`, an authority alone, a path alone, or an asterisk.
`Uri.read` takes it apart, or finds the first reason why a text is none.  Escapes are not looked
into, and what stands behind a hash sign is dropped.
-/

namespace EntityFilter

/-- An address in its parts. -/
structure Uri where
  scheme : Option String := none
  authority : Option String := none
  /-- The path; empty if there is an authority alone. -/
  path : String := ""
  query : Option String := none
deriving DecidableEq, Repr

/-- Why a text is no address. -/
inductive UriFault
  | empty
  | tooLong
  | schemeTooLong
  | character
  | authority
  | form
deriving DecidableEq, Repr

/-- The wording. -/
def UriFault.message : UriFault → String
  | empty         => "empty string"
  | tooLong       => "uri too long"
  | schemeTooLong => "scheme too long"
  | character     => "invalid uri character"
  | authority     => "invalid authority"
  | form          => "invalid format"

namespace Uri

/-- The largest number of bytes in an address. -/
def maxBytes : Nat := 65534

/-! ### Schemes -/

/-- A character of a scheme. -/
def isSchemeChar (c : Char) : Bool :=
  c.isAlphanum || c == '+' || c == '-' || c == '.' || c == '~'

/-- The largest length of a scheme. -/
def maxScheme : Nat := 64

/-- The scheme in front of `://` and the text behind that, if the text starts so.  The three
characters alone are no start. -/
def splitScheme (text : List Char) : Except UriFault (Option String × List Char) :=
  let scheme := text.takeWhile isSchemeChar
  match text.drop scheme.length with
  | ':' :: '/' :: '/' :: rest =>
    if scheme.isEmpty && rest.isEmpty then .ok (none, text)
    else if maxScheme < scheme.length then .error .schemeTooLong
    else .ok (some (String.ofList scheme), rest)
  | _ => .ok (none, text)

/-! ### Authorities -/

/-- A character that an authority may have, percent signs apart. -/
def isAuthorityChar (c : Char) : Bool :=
  c.isAlphanum || "!$&'()*+,-.:;=@[]_~".toList.contains c

/-- A character that ends an authority. -/
def endsAuthority (c : Char) : Bool :=
  c == '/' || c == '?' || c == '#'

/-- What is known of the front of an authority. -/
structure AuthorityState where
  colons : Nat := 0
  opened : Bool := false
  closed : Bool := false
  percent : Bool := false
  /-- The last character was an at sign. -/
  afterAt : Bool := false

/-- The state after a character of an authority. -/
def AuthorityState.next (s : AuthorityState) (c : Char) : Except UriFault AuthorityState :=
  let s := { s with afterAt := c == '@' }
  match c with
  | ':' => if 8 ≤ s.colons then .error .authority else .ok { s with colons := s.colons + 1 }
  | '[' => if s.percent || s.opened then .error .authority else .ok { s with opened := true }
  | ']' =>
    if !s.opened || s.closed then .error .authority
    else .ok { s with closed := true, colons := 0, percent := false }
  | '@' => .ok { s with colons := 0, percent := false }
  | '%' => .ok { s with percent := true }
  | _   => if isAuthorityChar c then .ok s else .error .character

/-- The authority in front of a text, and the text behind it. -/
def splitAuthority (text : List Char) : Except UriFault (List Char × List Char) :=
  let authority := text.takeWhile fun c => !endsAuthority c
  match authority.foldlM AuthorityState.next {} with
  | .error fault => .error fault
  | .ok s =>
    if s.opened != s.closed || 1 < s.colons || s.afterAt || s.percent then .error .authority
    else .ok (authority, text.drop authority.length)

/-! ### Paths -/

/-- A character of a path. -/
def isPathChar (c : Char) : Bool :=
  let n := c.toNat
  n == 0x21 || n == 0x22 || (0x24 ≤ n && n ≤ 0x3B) || n == 0x3D || (0x40 ≤ n && n ≤ 0x5F) ||
  (0x61 ≤ n && n != 0x7F)

/-- A character of a query. -/
def isQueryChar (c : Char) : Bool :=
  let n := c.toNat
  n == 0x21 || (0x24 ≤ n && n ≤ 0x3B) || n == 0x3D || (0x3F ≤ n && n != 0x7F)

/-- The path and the query that a text is. -/
def splitPath (text : List Char) : Except UriFault (String × Option String) :=
  let path := text.takeWhile fun c => c != '?' && c != '#'
  let query := match text.drop path.length with
    | '?' :: rest => some (rest.takeWhile (· != '#'))
    | _           => none
  if path.all isPathChar && (query.getD []).all isQueryChar then
    .ok (String.ofList path, query.map String.ofList)
  else .error .character

/-! ### Addresses -/

/-- The address that an authority alone is. -/
def ofAuthority (text : List Char) : Except UriFault Uri := do
  let (authority, rest) ← splitAuthority text
  if !rest.isEmpty then throw (if text.length = 1 then .character else .form)
  return { authority := some (String.ofList authority) }

/-- The address behind a scheme.  Without a path it has the path `/`. -/
def ofAbsolute (scheme : String) (text : List Char) : Except UriFault Uri := do
  if text.isEmpty then throw .empty
  let (authority, rest) ← splitAuthority text
  if authority.isEmpty then throw .form
  let (path, query) ← splitPath rest
  return {
    scheme := some scheme
    authority := some (String.ofList authority)
    path := if path.isEmpty then "/" else path
    query }

/-- The address that a text is. -/
def read (text : String) : Except UriFault Uri :=
  if maxBytes < text.utf8ByteSize then .error .tooLong
  else match text.toList with
    | []          => .error .empty
    | ['*']       => .ok { path := "*" }
    | '/' :: rest => do
      let (path, query) ← splitPath ('/' :: rest)
      return { path, query }
    | chars => do
      match ← splitScheme chars with
      | (some scheme, rest) => ofAbsolute scheme rest
      | (none, rest)        => ofAuthority rest

example : (read "http://localhost:4317").toOption.map path = some "/" := by decide +kernel
example : (read "http://h/filter?x=1").toOption.map path = some "/filter" := by decide +kernel
example : (read "not a uri").toOption = none := by decide +kernel

end Uri

end EntityFilter

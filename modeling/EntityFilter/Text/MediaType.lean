import EntityFilter.Text.Header

/-!
# Media types

A media type is `type/subtype`, with parameters behind it.  What matters here is whether it is
JSON: `application/json`, or a type of applications that is said to be JSON behind a plus.
-/

namespace EntityFilter.Text

/-- Where the parameters of a media type stand. -/
inductive ParameterState
  | start
  | name
  | value (first : Bool)
  | quoted (first : Bool)
  | afterQuote
deriving DecidableEq, Repr

namespace ParameterState

/-- The state after a character. -/
def next? (s : ParameterState) (c : Char) : Option ParameterState :=
  match s with
  | start => if c = ' ' then some start else if isTokenChar c then some name else none
  | name  => if isTokenChar c then some name else if c = '=' then some (value true) else none
  | value first =>
    if first && c = '"' then some (quoted true)
    else if isTokenChar c then some (value false)
    else if !first && c = ';' then some start
    else none
  | quoted first =>
    if !first && c = '"' then some afterQuote
    else if isHeaderChar c && c != '\t' then some (quoted false)
    else none
  | afterQuote =>
    if c = ';' then some start else if c = ' ' then some afterQuote else none

/-- The parameters may end here. -/
def isFinal : ParameterState → Bool
  | start | value _ | afterQuote => true
  | name | quoted _              => false

/-- The text is a list of parameters, read from a state. -/
def accepts (s : ParameterState) : List Char → Bool
  | []        => s.isFinal
  | c :: rest => (s.next? c).any fun s => s.accepts rest

end ParameterState

/-- A subtype is JSON by its name in front of the last plus, or by the name behind it. -/
def isJsonSubtype (subtype : List Char) : Bool :=
  let suffix := (subtype.reverse.takeWhile (· != '+')).reverse
  let front := subtype.take (subtype.length - suffix.length - 1)
  if front.isEmpty then subtype = "json".toList
  else front = "json".toList || suffix = "json".toList

/-- The media type is JSON. -/
def isJsonMediaType (mediaType : String) : Bool :=
  let text := mediaType.toList
  let type := text.takeWhile isTokenChar
  match text.drop type.length with
  | '/' :: rest =>
    let subtype := rest.takeWhile isTokenChar
    let parameters := match rest.drop subtype.length with
      | []            => true
      | ';' :: behind => ParameterState.start.accepts behind
      | _             => false
    type.map Char.toLower = "application".toList && isJsonSubtype (subtype.map Char.toLower) &&
      parameters
  | _ => false

example : isJsonMediaType "Application/JSON; charset=utf-8" = true := by decide +kernel
example : isJsonMediaType "application/vnd.api+json" = true := by decide +kernel
example : isJsonMediaType "text/json" = false := by decide +kernel
example : isJsonMediaType "application/json ; a=b" = false := by decide +kernel

end EntityFilter.Text

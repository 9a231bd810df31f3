/-!
# Media types

Whether a content type says that a body is JSON. A content type is a type and a subtype, each made
of token characters, and parameters whose values are tokens or quoted texts; one that is not
well-formed says nothing.
-/

namespace FaultPlane.Http

/-- The characters of tokens. -/
def isToken (c : Char) : Bool :=
  c.isAlphanum || "!#$%&'*+-.^_`|~".toList.contains c

/-! ### Parameters -/

/-- Where the reader of parameters stands. -/
inductive ParameterState where
  | before
  | name
  | valueStart
  | value
  | quotedStart
  | quoted
  | afterQuote

namespace ParameterState

/-- The state after a character; nothing if the character does not fit. -/
def next? : ParameterState → Char → Option ParameterState
  | .before, c => if c = ' ' then some .before else if isToken c then some .name else none
  | .name, c => if c = '=' then some .valueStart else if isToken c then some .name else none
  | .valueStart, c =>
    if c = '"' then some .quotedStart else if isToken c then some .value else none
  | .value, c => if c = ';' then some .before else if isToken c then some .value else none
  | .quotedStart, c => if 31 < c.toNat && c.toNat ≠ 127 then some .quoted else none
  | .quoted, c =>
    if c = '"' then some .afterQuote
    else if 31 < c.toNat && c.toNat ≠ 127 then some .quoted else none
  | .afterQuote, c =>
    if c = ';' then some .before else if c = ' ' then some .afterQuote else none

/-- Whether the parameters may end here. -/
def isFinal : ParameterState → Bool
  | .before | .valueStart | .value | .afterQuote => true
  | .name | .quotedStart | .quoted => false

end ParameterState

/-- Whether a text is a list of parameters. -/
def areParameters (cs : List Char) : Bool :=
  (cs.foldlM ParameterState.next? .before).any ParameterState.isFinal

/-! ### Subtypes -/

/-- A subtype cut at its last plus sign, if that is not its first character. -/
def splitSuffix (subtype : List Char) : List Char × Option (List Char) :=
  let suffix := (subtype.reverse.takeWhile (· ≠ '+')).reverse
  let rest := subtype.take (subtype.length - suffix.length - 1)
  if suffix.length < subtype.length ∧ rest ≠ [] then (rest, some suffix) else (subtype, none)

/-- Whether a subtype is `json`, or some other one in JSON. -/
def isJsonSubtype (subtype : List Char) : Bool :=
  let (rest, suffix) := splitSuffix (subtype.map Char.toLower)
  rest == "json".toList || suffix == some "json".toList

/-- Whether a content type is that of JSON. -/
def isJsonType (contentType : String) : Bool :=
  let cs := contentType.toList
  let type := cs.takeWhile isToken
  let rest := cs.drop type.length
  match rest with
  | '/' :: rest =>
    let subtype := rest.takeWhile isToken
    let wellFormed := match rest.drop subtype.length with
      | [] => true
      | ';' :: parameters =>
        !subtype.isEmpty && contentType.toList.all (·.toNat < 128) && areParameters parameters
      | _ => false
    wellFormed && type.map Char.toLower == "application".toList && isJsonSubtype subtype
  | _ => false

end FaultPlane.Http

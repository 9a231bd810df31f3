import FaultPlane.Service.Call
import FaultPlane.Service.Ip
import FaultPlane.Text.Find

/-!
# Addresses of services

The base address of a service is a URL. A call goes to the path of its endpoint on the same host:
the path of an endpoint is absolute, so whatever path, query or fragment the base address has does
not count.
-/

namespace FaultPlane.Service

/-! ### Problems -/

/-- Why a base address does not lead to an endpoint. -/
inductive AddressProblem where
  | noScheme
  | noHierarchy
  | emptyHost
  | invalidPort
  | invalidQuad
  | invalidGroups
  | invalidCharacter
  | internationalName
  deriving DecidableEq, Repr

def AddressProblem.message : AddressProblem → String
  | .noScheme => "relative URL without a base"
  | .noHierarchy => "relative URL with a cannot-be-a-base base"
  | .emptyHost => "empty host"
  | .invalidPort => "invalid port number"
  | .invalidQuad => "invalid IPv4 address"
  | .invalidGroups => "invalid IPv6 address"
  | .invalidCharacter => "invalid domain character"
  | .internationalName => "invalid international domain name"

/-! ### Parts -/

/-- The part of an address that its endpoints share. -/
structure Origin where
  scheme : String
  credentials : String := ""
  host : String
  portNumber : Option Nat := none
  deriving DecidableEq, Repr

/-- The number after the host that a scheme of the web has when none is given. -/
def standardPort? : String → Option Nat
  | "http" | "ws" => some 80
  | "https" | "wss" => some 443
  | "ftp" => some 21
  | _ => none

/-- Whether addresses of a scheme always have a host and take backslashes for slashes. -/
def isWebScheme (scheme : String) : Bool := (standardPort? scheme).isSome

/-- The characters that an address starts and ends without. -/
def isPadding (c : Char) : Bool := c.toNat ≤ 0x20

/-- An address without the padding around it and the line breaks and tabs inside. -/
def cleaned (address : String) : List Char :=
  let cs := (address.toList.dropWhile isPadding).reverse.dropWhile isPadding
  cs.reverse.filter fun c => c ≠ '\t' && c ≠ '\n' && c ≠ '\r'

/-- The scheme in lower case and what follows its colon. -/
def scheme? (cs : List Char) : Option (String × List Char) :=
  let name := cs.takeWhile fun c => c.isAlphanum || c = '+' || c = '-' || c = '.'
  match cs.drop name.length with
  | ':' :: rest =>
    if name.head?.any Char.isAlpha then some (String.ofList (name.map Char.toLower), rest) else none
  | _ => none

/-- The characters that end the authority of an address. -/
def endsAuthority (web : Bool) (c : Char) : Bool :=
  c = '/' || c = '?' || c = '#' || (web && c = '\\')

/-- The text before the last at sign, and the text after it. -/
def cutCredentials (cs : List Char) : Option (List Char) × List Char :=
  let host := (cs.reverse.takeWhile (· ≠ '@')).reverse
  if host.length = cs.length then (none, cs)
  else (some (cs.take (cs.length - host.length - 1)), host)

/-- The host of an authority and what follows it, cut at the first colon outside brackets. -/
def cutPort (cs : List Char) : List Char × Option (List Char) :=
  let host := if cs.head? = some '[' then
      cs.takeWhile (· ≠ ']') ++ (cs.dropWhile (· ≠ ']')).takeWhile (· ≠ ':')
    else cs.takeWhile (· ≠ ':')
  match cs.drop host.length with
  | ':' :: rest => (host, some rest)
  | _ => (host, none)

/-- The characters that no host name has. -/
def isForbidden (c : Char) : Bool :=
  c.toNat ≤ 0x20 || c.toNat = 0x7F || "#/:<>?@[\\]^|%".toList.contains c

/-! ### Reading -/

/-- The host of an address of the web. A name comes out in lower case and has to be plain ASCII:
names in other scripts and names with percent signs are refused. Labels that begin with `xn--` are
taken as they are, whether they stand for a name in another script or not. -/
def webHost (cs : List Char) : Except AddressProblem String :=
  match cs with
  | [] => throw .emptyHost
  | '[' :: rest =>
    if rest.getLast? = some ']' then
      match eightGroups? rest.dropLast with
      | some gs => pure ("[" ++ groupsText gs ++ "]")
      | none => throw .invalidGroups
    else throw .invalidGroups
  | cs =>
    if cs.any fun c => 0x7F < c.toNat then throw .internationalName
    else if cs.any isForbidden then throw .invalidCharacter
    else if endsInNumber cs then
      match quad? cs with
      | some quad => pure quad
      | none => throw .invalidQuad
    else pure (String.ofList (cs.map Char.toLower))

/-- The number after a host, unless it is the standard one of the scheme. -/
def portOf (scheme : String) : Option (List Char) → Except AddressProblem (Option Nat)
  | none | some [] => pure none
  | some ds =>
    match Decimal.digits? ds with
    | some n =>
      if 65535 < n then throw .invalidPort
      else pure (if standardPort? scheme = some n then none else some n)
    | none => throw .invalidPort

/-- The origin in an authority. Credentials stay as they are written, with no character of them
encoded. -/
def originOf (scheme : String) (authority : List Char) : Except AddressProblem Origin := do
  let (credentials, rest) := cutCredentials authority
  let (host, digits) := cutPort rest
  let host ← if isWebScheme scheme then webHost host else pure (String.ofList host)
  let portNumber ← portOf scheme digits
  let credentials := (credentials.filter (· ≠ [])).map fun cs => String.ofList cs ++ "@"
  pure ⟨scheme, credentials.getD "", host, portNumber⟩

/-- The address of a path on an origin. -/
def Origin.at (o : Origin) (path : String) : String :=
  let number := match o.portNumber with
    | some n => ":" ++ Decimal.ofNat n
    | none => ""
  o.scheme ++ "://" ++ o.credentials ++ o.host ++ number ++ path

/-- Where the endpoint with an absolute path is, given the base address of its service. -/
def resolve (base path : String) : Except AddressProblem String :=
  match scheme? (cleaned base) with
  | none => throw .noScheme
  | some (scheme, rest) =>
    if isWebScheme scheme then do
      let authority := rest.dropWhile fun c => c = '/' || c = '\\'
      let origin ← originOf scheme (authority.takeWhile fun c => !endsAuthority true c)
      pure (origin.at path)
    else
      match rest with
      | '/' :: '/' :: authority => do
        let origin ← originOf scheme (authority.takeWhile fun c => !endsAuthority false c)
        pure (origin.at path)
      | '/' :: _ => pure (scheme ++ ":" ++ path)
      | _ => throw .noHierarchy

/-! ### Requests -/

/-- Whether requests can be sent to an address: only the web's own schemes are spoken. -/
def isWebAddress (url : String) : Bool :=
  Text.startsWith "http://" url || Text.startsWith "https://" url

/-- Where a call goes. -/
def ServiceCall.url (c : ServiceCall) (endpoint : Endpoint) : Except ServiceFailure String :=
  match resolve endpoint.baseUrl c.path with
  | .ok url =>
    if isWebAddress url then pure url
    else throw (.unreachable
      ("builder error for url (" ++ url ++ "): URL scheme is not allowed"))
  | .error problem =>
    throw (.unreachable ("bad address " ++ endpoint.baseUrl ++ ": " ++ problem.message))

/-- The reason of a failure to send a request. -/
def sendFailure (url reason : String) : ServiceFailure :=
  .unreachable ("error sending request for url (" ++ url ++ "): " ++ reason)

/-- The body of a request: commands have one, questions do not. -/
def ServiceCall.body? : ServiceCall → Option String
  | .command c => some (Contract.Command.codec.encode c)
  | _ => none

end FaultPlane.Service

import ResourceSymbols.Web.Address

/-!
# Locations on the web

A location is a scheme, a colon, and what the scheme makes of the rest.  After two
slashes comes the authority, which names the host, up to the next slash, question
mark or number sign.
-/

namespace ResourceSymbols.Web

/-- The parts of a location that say how and where to ask for it. -/
structure Url where
  /-- The scheme in lower case. -/
  scheme : String
  authority : String
deriving DecidableEq, Repr

/-- Why a text is no location. -/
inductive UrlError
  /-- A bracket has no partner, or something stands beside the brackets around
  the host. -/
  | badBrackets
  /-- The address in brackets is of a version that is written otherwise. -/
  | badFutureAddress
  /-- The address in brackets is one of four octets. -/
  | bracketedAddress4
  /-- What stands in brackets is no address. -/
  | notAnAddress (host : String)
  /-- The authority holds a character that is equivalent to a delimiter. -/
  | delimiterInDisguise (authority : String)
deriving DecidableEq, Repr

/-- The error in words. -/
def UrlError.message : UrlError → String
  | badBrackets => "Invalid IPv6 URL"
  | badFutureAddress => "IPvFuture address is invalid"
  | bracketedAddress4 => "An IPv4 address cannot be in brackets"
  | notAnAddress host => s!"{Text.quoted host} does not appear to be an IPv4 or IPv6 address"
  | delimiterInDisguise authority =>
    s!"netloc '{authority}' contains invalid characters under NFKC normalization"

namespace Url

/-- Whether `c` is an ASCII letter. -/
def isLetter (c : Char) : Bool :=
  (decide ('a' ≤ c) && decide (c ≤ 'z')) || (decide ('A' ≤ c) && decide (c ≤ 'Z'))

/-- Whether `c` may stand in a scheme. -/
def isSchemeChar (c : Char) : Bool :=
  isLetter c || (decide ('0' ≤ c) && decide (c ≤ '9')) || c = '+' || c = '-' || c = '.'

/-- The characters of a location: those without controls and spaces in front, and
without tabs and line ends. -/
def cleaned (cs : List Char) : List Char :=
  (cs.dropWhile fun c => decide (c.toNat ≤ 0x20)).filter fun c => c ≠ '\t' && c ≠ '\r' && c ≠ '\n'

/-- The scheme and what stands after its colon.  Without a scheme it is empty. -/
def splitScheme (cs : List Char) : List Char × List Char :=
  match Text.cut ':' cs with
  | some (scheme, rest) =>
    if (scheme.head?.any isLetter) && scheme.all isSchemeChar then (scheme.map Char.toLower, rest)
    else ([], cs)
  | none => ([], cs)

/-- The authority, which is empty unless two slashes announce it. -/
def authorityOf : List Char → List Char
  | '/' :: '/' :: rest => rest.takeWhile fun c => c ≠ '/' && c ≠ '?' && c ≠ '#'
  | _ => []

/-- The host and its port, which stand after the last at sign of an authority. -/
def hostAndPort (cs : List Char) : List Char := (cs.reverse.takeWhile (· ≠ '@')).reverse

/-- Checks the address in brackets. -/
def checkHost (host : String) : Except UrlError Unit :=
  if host.toList.head? = some 'v' then
    if isFutureAddress host then .ok () else .error .badFutureAddress
  else if isAddress4 host then .error .bracketedAddress4
  else if isAddress6 host then .ok ()
  else .error (.notAnAddress host)

/-- Checks a host with its port, in an authority with brackets.  Nothing may stand
before the brackets around the host, and after them only a colon and the port. -/
def checkPlace (cs : List Char) : Except UrlError Unit :=
  match Text.cut '[' cs with
  | none => checkHost (String.ofList (cs.takeWhile (· ≠ ':')))
  | some (before, bracketed) =>
    let host := bracketed.takeWhile (· ≠ ']')
    let port := (bracketed.dropWhile (· ≠ ']')).drop 1
    if before.isEmpty && (port.isEmpty || port.head? = some ':') then
      checkHost (String.ofList host)
    else .error .badBrackets

/-- Checks the brackets of an authority. -/
def checkBrackets (cs : List Char) : Except UrlError Unit :=
  match cs.contains '[', cs.contains ']' with
  | false, false => .ok ()
  | true, true => checkPlace (hostAndPort cs)
  | _, _ => .error .badBrackets

/-- The characters whose compatibility form holds one of `/`, `?`, `#`, `@` and
`:`. -/
def disguised : List Nat :=
  [0x2047, 0x2048, 0x2049, 0x2100, 0x2101, 0x2105, 0x2106, 0x2A74, 0xFE13, 0xFE16, 0xFE55, 0xFE56,
    0xFE5F, 0xFE6B, 0xFF03, 0xFF0F, 0xFF1A, 0xFF1F, 0xFF20]

/-- Checks an authority for delimiters in disguise. -/
def checkDisguise (cs : List Char) : Except UrlError Unit :=
  if cs.any fun c => disguised.contains c.toNat then
    .error (.delimiterInDisguise (String.ofList cs))
  else .ok ()

/-- The parts of the location that a text gives. -/
def ofText (s : String) : Except UrlError Url := do
  let (scheme, rest) := splitScheme (cleaned s.toList)
  let authority := authorityOf rest
  checkBrackets authority
  checkDisguise authority
  return { scheme := String.ofList scheme, authority := String.ofList authority }

/-- Whether the location can be asked for over the hypertext protocol. -/
def isHypertext (u : Url) : Bool :=
  (u.scheme = "http" || u.scheme = "https") && !u.authority.isEmpty

end Url

end ResourceSymbols.Web

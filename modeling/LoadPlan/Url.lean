import LoadPlan.Number.Numeral
import LoadPlan.Text.LetterCase
import LoadPlan.Url.Literal

/-!
# Addresses

The parts of a URL, cut out of any text.

* `Url` — scheme, authority and path; query and fragment are left out.
* `Url.split?` — the parts of a text.  There are none when the brackets of the authority do not hold
  a literal address, or when it has a character that is equivalent to a delimiter.
* `Url.host?`, `Url.port?` — the parts of the authority.

Some code points stand for a sequence that contains a delimiter once a text is brought into
compatibility form: the account-of sign `℀`, for example, becomes `a/c`.  A host name that holds one
would be cut differently by another reader (`Rune.hidesDelimiter`).
-/

namespace LoadPlan

/-- The code points outside ASCII whose compatibility form contains one of `/`, `?`, `#`, `@` and
`:`. -/
def delimiterLookAlikes : List Nat :=
  [ 0x2047, 0x2048, 0x2049, 0x2100, 0x2101, 0x2105, 0x2106, 0x2A74, 0xFE13, 0xFE16, 0xFE55, 0xFE56,
    0xFE5F, 0xFE6B, 0xFF03, 0xFF0F, 0xFF1A, 0xFF1F, 0xFF20 ]

/-- Whether the compatibility form of a code point contains a delimiter of URLs. -/
def Rune.hidesDelimiter (r : Rune) : Bool := delimiterLookAlikes.contains r.code

/-- **The parts of a URL.** -/
structure Url where
  /-- The scheme, in lower case; empty when there is none. -/
  scheme : Text
  /-- What stands between the two slashes and the path; empty when there is none. -/
  authority : Text
  /-- The path. -/
  path : Text

namespace Url

/-- Whether a scheme may hold a character. -/
def isSchemeRune (r : Rune) : Bool :=
  r.isAsciiLetter || r.isAsciiDigit || r = '+' || r = '-' || r = '.'

/-- The scheme in front of the first colon, and what follows it.  A scheme begins with a letter. -/
def splitScheme (t : Text) : Text × Text :=
  let scheme := t.before ':'
  match t.after? ':' with
  | some rest =>
    if (scheme.head?.any Rune.isAsciiLetter) && scheme.all isSchemeRune then (scheme.lower, rest)
    else ([], t)
  | none => ([], t)

def endsAuthority (r : Rune) : Bool := r = '/' || r = '?' || r = '#'

/-- The authority after two slashes, and what follows it. -/
def splitAuthority (t : Text) : Text × Text :=
  if t.startsWith "//" then
    let rest := t.drop 2
    (rest.takeWhile (!endsAuthority ·), rest.dropWhile (!endsAuthority ·))
  else ([], t)

/-- The part of an authority that follows the name of a user. -/
def withoutUser (authority : Text) : Text := authority.afterLast '@'

/-- Whether the host is a literal address, with nothing before its brackets and nothing but a port
after them.  Where only the name of the user has brackets, the host is held to the same rule. -/
def hasLiteralHost (authority : Text) : Bool :=
  let hostPart := withoutUser authority
  match hostPart.after? '[' with
  | some bracketed =>
    let after := (bracketed.after? ']').getD []
    hostPart.startsWith "[" && (after.isEmpty || after.startsWith ":")
      && (bracketed.before ']').isLiteralAddress
  | none => (hostPart.before ':').isLiteralAddress

/-- Whether the brackets of an authority are in order: it has none, or it has both kinds around a
literal address. -/
def bracketsAgree (authority : Text) : Bool :=
  match List.contains authority ('[' : Rune), List.contains authority (']' : Rune) with
  | false, false => true
  | true, true => hasLiteralHost authority
  | _, _ => false

/-- The schemes whose paths can have parameters. -/
def schemesWithParameters : List Text :=
  [ "", "ftp", "hdl", "prospero", "http", "imap", "https", "shttp", "rtsp", "rtsps", "rtspu", "sip",
    "sips", "mms", "sftp", "tel" ]

/-- A path without the parameters of its last part. -/
def dropParameters (path : Text) : Text :=
  let last := path.afterLast '/'
  path.take (path.length - last.length) ++ last.before ';'

/-- Whether a character may be passed over in front of a URL: the space and the controls before
it. -/
def isLeadIn (r : Rune) : Bool := r.code ≤ 0x20

/-- **The parts of a text.**  Tabulators and line ends are passed over wherever they stand, and
spaces and controls in front. -/
def split? (source : Text) : Option Url :=
  let t : Text := (source.dropWhile isLeadIn).filter fun (r : Rune) =>
    r != '\t' && r != '\r' && r != '\n'
  let (scheme, afterScheme) := splitScheme t
  let (authority, afterAuthority) := splitAuthority afterScheme
  let path := (afterAuthority.before '#').before '?'
  if bracketsAgree authority && !authority.any Rune.hidesDelimiter then
    some
      { scheme
        authority
        path := if schemesWithParameters.contains scheme then dropParameters path else path }
  else none

/-- The authority without the name of a user. -/
def hostPart (url : Url) : Text := withoutUser url.authority

/-- Host and port as they are written.  A host may stand in brackets. -/
def hostAndPort (url : Url) : Text × Text :=
  match url.hostPart.after? '[' with
  | some bracketed =>
    (bracketed.before ']', (((bracketed.after? ']').getD []).after? ':').getD [])
  | none => (url.hostPart.before ':', (url.hostPart.after? ':').getD [])

/-- The host in lower case, apart from the name of a zone. -/
def host? (url : Url) : Option Text :=
  let host := url.hostAndPort.1
  if host.isEmpty then none
  else
    let address := host.before '%'
    some (address.lower ++ host.drop address.length)

/-- **The port**: nothing when it is not a number of at most sixteen bits, and otherwise the number
unless there is none. -/
def port? (url : Url) : Option (Option Nat) :=
  let port := url.hostAndPort.2
  if port.isEmpty then some none
  else if port.all Rune.isAsciiDigit then
    match readNatural port.toChars with
    | .ok number => if number ≤ 65535 then some (some number) else none
    | .error _ => none
  else none

end Url

end LoadPlan

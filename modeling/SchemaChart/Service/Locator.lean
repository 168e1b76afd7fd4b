import SchemaChart.Number.Reading
import SchemaChart.Service.Address
import SchemaChart.Service.Host
import SchemaChart.Text.Percent

/-!
# Locators

A locator may begin with a scheme and a colon; two slashes then announce an authority,
which names a host, perhaps with a user in front and a port number behind. What comes
after it is a path, a query behind a question mark, and a fragment, which does not
count. Line ends and tabs do not count either, nor do blanks and controls at the
beginning.
-/

namespace SchemaChart.Service

structure Locator where
  scheme : Text
  authority : Text
  path : Text
  query : Text
  deriving DecidableEq, Repr

inductive LocatorFault
  | brackets
  | futureAddress
  | noAddress (s : Text)
  | dottedAddress
  | disguised (authority : Text)
  | notPortNumber (s : Text)
  | portNumberRange
  | portNumberSize (fault : NumberFault)
  | host (fault : HostFault)
  deriving DecidableEq, Repr

def LocatorFault.message : LocatorFault → Text
  | .brackets => "Invalid IPv6 URL"
  | .futureAddress => "IPvFuture address is invalid"
  | .noAddress s => s.cited ++ " does not appear to be an IPv4 or IPv6 address"
  | .dottedAddress => "An IPv4 address cannot be in brackets"
  | .disguised authority =>
    "netloc '" ++ authority ++ "' contains invalid characters under NFKC normalization"
  | .notPortNumber s => "Port could not be cast to integer value as " ++ s.cited
  | .portNumberRange => "Port out of range 0-65535"
  | .portNumberSize fault => fault.message
  | .host fault => fault.message

namespace Locator

def isSchemeChar (c : Char) : Bool := c.isAlphanum || c = '+' || c = '-' || c = '.'

/-- Splits a scheme off; without one it is empty. -/
def splitScheme (s : Text) : Text × Text :=
  match s.dropWhile isSchemeChar with
  | ':' :: rest =>
    if s.head?.any Char.isAlpha then ((s.takeWhile isSchemeChar).map Char.toLower, rest)
    else ([], s)
  | _ => ([], s)

/-- Whether a character ends the part of a locator that stands before it. -/
def endsAuthority (c : Char) : Bool := c = '/' || c = '?' || c = '#'

/-- Splits an authority off; without one it is empty. -/
def splitAuthority (s : Text) : Text × Text :=
  match Text.after? "//" s with
  | some rest =>
    (rest.takeWhile fun c => !endsAuthority c, rest.dropWhile fun c => !endsAuthority c)
  | none => ([], s)

/-- Characters whose plain forms hold one that ends or divides an authority. -/
def isDisguised (c : Char) : Bool :=
  inRanges [(0x2047, 0x2049), (0x2100, 0x2101), (0x2105, 0x2106), (0x2A74, 0x2A74),
    (0xFE13, 0xFE13), (0xFE16, 0xFE16), (0xFE55, 0xFE56), (0xFE5F, 0xFE5F), (0xFE6B, 0xFE6B),
    (0xFF03, 0xFF03), (0xFF0F, 0xFF0F), (0xFF1A, 0xFF1A), (0xFF1F, 0xFF20)] c

def checkAddress (s : Text) : Except LocatorFault Unit :=
  if s.head? = some 'v' then
    if Address.isFuture s then .ok () else .error .futureAddress
  else if Address.isDotted s then .error .dottedAddress
  else if Address.isLong s then .ok ()
  else .error (.noAddress s)

/-- Brackets come in pairs. They hold the address that is the host; only a port number
may stand behind them. -/
def checkBrackets (authority : Text) : Except LocatorFault Unit :=
  if authority.contains '[' != authority.contains ']' then .error .brackets
  else if !authority.contains '[' then .ok ()
  else
    let s := (authority.reverse.takeWhile (· ≠ '@')).reverse
    if !s.contains '[' then checkAddress (Text.before ':' s)
    else
      let behind := Text.behind ']' (Text.behind '[' s)
      if s.head? ≠ some '[' || !behind.isEmpty && behind.head? ≠ some ':' then .error .brackets
      else checkAddress (Text.before ']' (Text.behind '[' s))

def checkAuthority (authority : Text) : Except LocatorFault Unit := do
  checkBrackets authority
  if authority.any isDisguised then throw (.disguised authority)

def read (s : Text) : Except LocatorFault Locator := do
  let s := (s.dropWhile (· ≤ ' ')).filter fun c => c ≠ '\t' && c ≠ '\n' && c ≠ '\r'
  let (scheme, s) := splitScheme s
  let (authority, s) := splitAuthority s
  checkAuthority authority
  let s := Text.before '#' s
  return ⟨scheme, authority, Text.before '?' s, Text.behind '?' s⟩

/-- Schemes whose locators announce an authority even if it is empty. -/
def announcingSchemes : List Text :=
  ["ftp", "http", "gopher", "nntp", "telnet", "imap", "wais", "file", "mms", "https", "shttp",
    "snews", "prospero", "rtsp", "rtsps", "rtspu", "rsync", "svn", "svn+ssh", "sftp", "nfs",
    "git", "git+ssh", "ws", "wss", "itms-services"]

def announces (l : Locator) : Bool :=
  !l.authority.isEmpty ||
    announcingSchemes.contains l.scheme && !("//" : Text).isPrefixOf l.path

def text (l : Locator) : Text :=
  let slash : Text := if l.path.isEmpty || l.path.head? = some '/' then [] else "/"
  (if l.scheme.isEmpty then [] else l.scheme ++ [':']) ++
    (if l.announces then "//" ++ l.authority ++ slash else []) ++ l.path ++
    (if l.query.isEmpty then [] else '?' :: l.query)

end Locator

namespace Authority

/-- What stands in front of the last at sign. -/
def user (authority : Text) : Text :=
  ((authority.reverse.dropWhile (· ≠ '@')).drop 1).reverse

def hostAndNumber (authority : Text) : Text :=
  (authority.reverse.takeWhile (· ≠ '@')).reverse

def host (authority : Text) : Text :=
  let s := hostAndNumber authority
  if s.contains '[' then Text.before ']' (Text.behind '[' s) else Text.before ':' s

/-- What stands behind the colon of the host. -/
def number (authority : Text) : Text :=
  let s := hostAndNumber authority
  Text.behind ':' (if s.contains '[' then Text.behind ']' (Text.behind '[' s) else s)

def portNumber? (authority : Text) : Except LocatorFault (Option Nat) :=
  let s := number authority
  if s.isEmpty then .ok none
  else if !s.all Char.isDigit then .error (.notPortNumber s)
  else if digitLimit < s.length then .error (.portNumberSize (.tooManyDigits s.length))
  else if digitsValue s ≤ 65535 then .ok (some (digitsValue s))
  else .error .portNumberRange

/-- A host in small letters; a zone keeps its letters. -/
def smallHost (host : Text) : Text :=
  (Text.before '%' host).lower ++ host.dropWhile (· ≠ '%')

/-- The characters that need no escape in a name or a secret. -/
def keptInUser : Text := "%!$&'()*+,;="

/-- A user with what is needed of the secret behind the colon, and an at sign. -/
def userText (authority : Text) : Text :=
  let name := Text.before ':' (user authority)
  let secret := Text.behind ':' (user authority)
  if !authority.contains '@' then []
  else
    name.escape keptInUser ++ (if secret.isEmpty then [] else ':' :: secret.escape keptInUser) ++
      ['@']

/-- The host and the port number as text; an address gets its brackets, and the port
number zero is left out. -/
def placeText (host : Text) (number : Option Nat) : Text :=
  (if host.contains ':' then '[' :: host ++ [']'] else host) ++
    match number with
    | none | some 0 => []
    | some n => ':' :: Text.ofNat n

/-- The plain form of an authority: its host is in ASCII. -/
def plain (authority : Text) : Except LocatorFault Text := do
  let host ← (Host.write (smallHost (host authority))).mapError fun fault =>
    .host (.unwritable fault)
  let number ← portNumber? authority
  return userText authority ++ placeText host number

/-- The form of an authority that people read: its host is as it was before it was
written in ASCII. -/
def readable (authority : Text) : Except LocatorFault Text := do
  let host ← (Host.read (smallHost (host authority))).mapError .host
  let number ← portNumber? authority
  return placeText host number

def isHostChar (c : Char) : Bool := c.isAlphanum || c = '.' || c = '-'

def isHexDigit (c : Char) : Bool := (hexValue? c).isSome

def isAddressLike (s : Text) : Bool :=
  s.contains ':' && (Text.before ':' s).all isHexDigit && !(Text.behind ':' s).isEmpty &&
    (Text.behind ':' s).all fun c => isHexDigit c || c = ':' || c = '.'

/-- Whether a text is a colon with digits behind it, or empty. -/
def isNumberPart : Text → Bool
  | [] => true
  | c :: digits => c = ':' && !digits.isEmpty && digits.all Char.isDigit

/-- Whether an authority is a host in letters, digits, dots and hyphens, or an address in
brackets, perhaps with a port number. -/
def isPlain (authority : Text) : Bool :=
  match authority with
  | '[' :: s =>
    s.contains ']' && isAddressLike (Text.before ']' s) && isNumberPart (Text.behind ']' s)
  | s => s.head?.any isHostChar && isNumberPart (s.dropWhile isHostChar)

end Authority

end SchemaChart.Service

import SchemaChart.Service.Locator

/-!
# Request targets

A target is a path, or a locator of which the path is one more locator. Of the outer
one the scheme and the authority say where the service is reached; those of the inner
one do not count. What they lack is what the service has by itself.
-/

namespace SchemaChart.Service

/-- Where a request goes. The path has its escapes undone and one slash in front. -/
structure Destination where
  scheme : Text
  host : Text
  path : Text
  query : Text
  deriving DecidableEq, Repr

namespace Destination

def usualScheme : Text := "http"

def usualHost : Text := "localhost"

/-- A text, or another one in the place of the empty text. -/
def orElse (s usual : Text) : Text := if s.isEmpty then usual else s

/-- A path as text: an authority inside it is part of it, in its plain form. -/
def plainPath (path : Text) : Except LocatorFault Text := do
  let inner ← Locator.read path
  return Locator.text ⟨inner.scheme, ← Authority.plain inner.authority, inner.path, []⟩

def lookUpPath (path : Text) : Text :=
  '/' :: (Bytes.repair path.unescape).dropWhile (· = '/')

def ofTarget (target : Text) : Except LocatorFault Destination := do
  let outer ← Locator.read target
  let query := if outer.query.isEmpty then [] else '?' :: outer.query
  let inner ← Locator.read (outer.path ++ query)
  let path ← plainPath inner.path
  let host ← Authority.plain (orElse outer.authority usualHost)
  return ⟨orElse outer.scheme usualScheme, host, lookUpPath path, inner.query⟩

/-- Whether the scheme asks for a conversation and not for a response. -/
def isSocket (d : Destination) : Bool := d.scheme = "ws" || d.scheme = "wss"

/-- The host without the port number that the scheme implies. -/
def shortHost (d : Destination) : Text :=
  let implied : Text :=
    if d.scheme = "http" || d.scheme = "ws" then ":80"
    else if d.scheme = "https" || d.scheme = "wss" then ":443"
    else []
  if implied.isSuffixOf d.host then d.host.take (d.host.length - implied.length) else d.host

/-- The host, if it is plain; any other host is taken for none. -/
def knownHost (d : Destination) : Text :=
  if Authority.isPlain d.shortHost then d.shortHost else []

def checkHost (d : Destination) : Except LocatorFault Unit := do
  Locator.checkAuthority d.knownHost
  Locator.checkAuthority (← Authority.readable d.knownHost)

def namedHost (d : Destination) : Except LabelFault Text :=
  let host := Text.lower d.knownHost
  (Host.write (Text.before ':' host)).map (· ++ host.dropWhile (· ≠ ':'))

/-- The characters that need no escape in a path. -/
def keptInPath : Text := "!$&'()*+,/:;=@"

/-- The locator of another path at the same place, with the same query. -/
def locator (d : Destination) (host path : Text) : Text :=
  Locator.text ⟨d.scheme, host, path.escape keptInPath, d.query⟩

end Destination

end SchemaChart.Service

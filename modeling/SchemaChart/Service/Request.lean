import SchemaChart.Json.Encoding
import SchemaChart.Service.Target
import SchemaChart.Settings.Basic
import SchemaChart.Text.Upper

/-!
# Requests

A request has headers, whose names are matched in any case and with hyphens taken as
underscores. A request for work carries an object of JSON. Its body is looked at only
if its type says that it is JSON, so a body of another type is never too large.
-/

namespace SchemaChart.Service

structure Request where
  method : Text
  target : Text
  headers : List (Text × Text)
  body : Bytes
  deriving DecidableEq, Repr

/-- Why a request does not get to the service. -/
inductive RequestFault
  | target (fault : LocatorFault)
  | brokenHeader
  deriving DecidableEq, Repr

def RequestFault.message : RequestFault → Text
  | .target fault => fault.message
  | .brokenHeader => "Header values must not contain newline characters."

def headerKey (name : Text) : Text := name.upper.map fun c => if c = '-' then '_' else c

namespace Request

/-- The value of a header; those of headers with one name are joined. -/
def header? (q : Request) (name : Text) : Option Text :=
  match q.headers.filter fun header => headerKey header.1 = headerKey name with
  | [] => none
  | headers => some (Text.joinWith ", " (headers.map (·.2)))

/-- The type of the body; only the first header that gives one counts. -/
def contentType (q : Request) : Text :=
  ((q.headers.find? fun header => headerKey header.1 = headerKey "Content-Type").map (·.2)).getD []

def destination (q : Request) : Except RequestFault Destination := do
  let d ← (Destination.ofTarget q.target).mapError .target
  if q.headers.any fun header => header.2.contains '\n' || header.2.contains '\r' then
    throw .brokenHeader
  let d := { d with host := (q.header? "Host").getD d.host }
  d.checkHost.mapError .target
  return d

/-- Whether a header asks for the connection to be turned into a conversation. -/
def asksForSocket (q : Request) : Bool :=
  let wishes := Text.pieces ',' ((q.header? "Connection").getD []).lower
  wishes.any (fun wish => wish.strip = "upgrade") &&
    ((q.header? "Upgrade").getD []).lower = "websocket"

/-- The length of the body. What a header says counts only where there is no body. -/
def bodyLength? (q : Request) : Option Int :=
  if (q.header? "Transfer-Encoding") = some "chunked".toList then none
  else if q.body.isEmpty then
    ((q.header? "Content-Length").bind fun s => (readInteger s).toOption).map (max 0)
  else some q.body.length

end Request

/-- Whether a content type is JSON: parameters and case do not matter, and a suffix
may say so. -/
def isJsonType (contentType : Text) : Bool :=
  let isPadding (c : Char) : Bool := c = ' ' || c = '\t'
  let essence := (Text.trim isPadding (Text.before ';' contentType)).lower
  essence = "application/json" ||
    ("application/" : Text).isPrefixOf essence && ("+json" : Text).isSuffixOf essence

inductive BodyFault
  | tooLarge
  | cutShort
  | notObject
  | tooDeep (fault : JsonFault)
  deriving DecidableEq, Repr

def exceeds (limit : Option Int) (length : Option Int) : Bool :=
  match limit, length with
  | some most, some n => most < n
  | _, _ => false

/-- The members of the object that a body holds. -/
def objectOf (levels : Nat) (body : Bytes) : Except BodyFault Json :=
  match Json.ofBytes levels body with
  | .ok (.object members) => .ok (.object members)
  | .error (.malformed fault) => .error (if fault.cause.isDepth then .tooDeep fault else .notObject)
  | _ => .error .notObject

def Request.object (levels : Nat) (limit : Option Int) (q : Request) : Except BodyFault Json :=
  if !isJsonType q.contentType then .error .notObject
  else if exceeds limit q.bodyLength? then .error .tooLarge
  else match q.bodyLength? with
    | none => .error .notObject
    | some length => if q.body.length < length then .error .cutShort else objectOf levels q.body

/-- A member that is a text and not empty. -/
def textMember? (name : Text) (value : Json) : Option Text :=
  ((value.member? name).bind Json.text?).filter fun s => !s.isEmpty

end SchemaChart.Service

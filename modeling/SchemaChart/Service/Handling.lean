import SchemaChart.Log.Threshold
import SchemaChart.Schema.Document
import SchemaChart.Service.Request
import SchemaChart.Service.Response

/-!
# Handling requests

The service reads scripts and has pictures analyzed. It works with a reader of scripts
and with a way to call the vision service, and its handling of a request is a function
of these, its settings and the request. The reader may fail for reasons of its own. How
deep JSON is read is no part of the settings either.

A request does not get to the service if its target or a header is malformed. While the
service is tested or debugged, a failure that nobody expected is handed on;
otherwise it is logged and the client gets an apology.
-/

namespace SchemaChart

/-- What the service works with. The levels are those that JSON is read down to, in the body
of a request and in a reply of the vision service. -/
structure Service.Backend where
  readScript : Text → Except Text SchemaReading
  post : Vision.Call → Vision.Reply
  bodyLevels : Nat
  replyLevels : Nat

/-- A service with its settings; records below the threshold are not kept. -/
structure Service where
  settings : Settings
  threshold : Nat
  deriving DecidableEq, Repr

namespace Service

structure Handling where
  records : List Record
  calls : List Vision.Call
  verdict : Verdict

namespace Handling

/-- A verdict that is reached at once. -/
def of (verdict : Verdict) : Handling := ⟨[], [], verdict⟩

def refuse (r : Refusal) : Handling := of (.refusal r)

def note (h : Handling) (level : Level) (message : Text) : Handling :=
  { h with records := h.records ++ [⟨level, .service, message⟩] }

end Handling

/-- Reads a script; `units` tells whether it may hold units alone. -/
def parse (readScript : Text → Except Text SchemaReading) (units : Bool) (script : Text) :
    Handling :=
  match readScript script with
  | .error reason =>
    (Handling.refuse .unreadable).note .error ("Unexpected error while parsing SQL: " ++ reason)
  | .ok reading =>
    match reading.nonempty with
    | .error _ => { Handling.refuse .noTables with records := reading.records }
    | .ok s =>
      let document := Verdict.document (.object [("schema", s.toJson)]) units
      let done : Handling := ⟨reading.records, [], document⟩
      done.note .info (Notice.totals s.tables.length s.relations.length).message

def analysisFailed (h : Handling) (f : Vision.Failure) : Handling :=
  match f with
  | .notConfigured =>
    { h with verdict := .refusal .notConfigured }.note .warning
      ("Image analysis unavailable: " ++ f.message)
  | f =>
    if f.isExpected then
      { h with verdict := .refusal .notAnalyzed }.note .error
        ("Image analysis failed: " ++ f.message)
    else { h with verdict := .failure (.vision f) }

def analyze (client : Vision.Client) (levels : Nat) (post : Vision.Call → Vision.Reply)
    (image : Text) : Handling :=
  let a := client.analyze levels post image
  match a.script with
  | .ok script => ⟨a.records, a.calls, .document (.object [("sql", .string script)]) true⟩
  | .error f => analysisFailed ⟨a.records, a.calls, .failure (.vision f)⟩ f

/-- Works on the text that a request carries as a member of its object. -/
def withText (levels : Nat) (limit : Option Int) (q : Request) (name : Text)
    (missing : Refusal) (work : Text → Handling) : Handling :=
  match q.object levels limit with
  | .error .tooLarge => .refuse .tooLarge
  | .error .cutShort => .of .notUnderstood
  | .error .notObject => .refuse .notObject
  | .error (.tooDeep fault) => .of (.failure (.body fault))
  | .ok value =>
    match textMember? name value with
    | some s => work s
    | none => .refuse missing

/-- The work of a route. There are no assets. -/
def dispatch (s : Service) (b : Backend) (q : Request) : Route → Handling
  | .health => .of (.document (.object [("status", .string "ok")]) false)
  | .parse =>
    withText b.bodyLevels s.settings.bodyLimit q "sql" .noScript
      (parse b.readScript (Json.writesUnits q.body))
  | .analyzeImage =>
    withText b.bodyLevels s.settings.bodyLimit q "image" .noImage
      (analyze s.settings.vision b.replyLevels b.post)
  | .asset => .refuse .notFound

/-- Whether a failure that nobody expected is handed on. -/
def handsOn (s : Service) : Bool := s.settings.testing || s.settings.debug

/-- Puts an apology in the place of a failure that nobody expected. -/
def apologize (route : Route) (method : Method) (h : Handling) : Handling :=
  match h.verdict with
  | .failure _ =>
    { h with verdict := .apology }.note .error
      ("Exception on " ++ route.pattern ++ " [" ++ method.name ++ "]")
  | _ => h

/-- Whether a request asks for a conversation, which no route offers. -/
def isSocket (q : Request) (d : Destination) : Bool := d.isSocket || q.asksForSocket

/-- The work on a request that goes to the named host: the path decides on the route,
and the route on its methods. -/
def workAt (s : Service) (b : Backend) (q : Request) (d : Destination) (host : Text) : Handling :=
  match Lookup.of q.method d.path with
  | .notFound => .refuse .notFound
  | .notAllowed => .refuse .notAllowed
  | .moved path => .of (if isSocket q d then .notUnderstood else .moved (d.locator host path))
  | .found route method =>
    if isSocket q d then .of .notUnderstood
    else if method = .options then .of (.methods route.methods)
    else
      let h := s.dispatch b q route
      if s.handsOn then h else apologize route method h

/-- The work on a request; a host that cannot be named is not understood. -/
def work (s : Service) (b : Backend) (q : Request) (d : Destination) : Handling :=
  match d.namedHost with
  | .error _ => .of .notUnderstood
  | .ok host => s.workAt b q d host

/-- What comes of a request: a response, or the reason why there is none. -/
structure Exchange where
  records : List Record
  calls : List Vision.Call
  reply : Except NoResponse Response

/-- A response as it is given to a request: an origin that is told is the one that may
use it, and a request for the head alone gets no body. -/
def Response.toRequest (q : Request) (r : Response) : Response :=
  { r with
    origins := match q.header? "Origin" with
      | none | some [] => r.origins
      | some origin => origin
    body := if q.method = "HEAD" then [] else r.body }

def handle (s : Service) (b : Backend) (q : Request) : Exchange :=
  match q.destination with
  | .error fault => ⟨[], [], .error (.request fault)⟩
  | .ok d =>
    let h := s.work b q d
    ⟨Record.shown s.threshold h.records, h.calls,
      match h.verdict.reply s.settings.debug with
      | .error f => .error (.failure f)
      | .ok response => .ok (response.toRequest q)⟩

end Service

end SchemaChart

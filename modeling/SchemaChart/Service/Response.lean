import SchemaChart.Json.Writing
import SchemaChart.Service.Request
import SchemaChart.Service.Route
import SchemaChart.Vision.Client

/-!
# Responses

A request is refused for one of a fixed list of reasons, each with a status and a
message of its own. What was found while working on it is not told; it goes into the
log. A request that is not understood is answered with a page, and so are one that is
sent elsewhere and one whose work failed unexpectedly.
-/

namespace SchemaChart.Service

inductive Refusal
  | notFound
  | notAllowed
  | tooLarge
  | notObject
  | noScript
  | noTables
  | unreadable
  | noImage
  | notConfigured
  | notAnalyzed
  deriving DecidableEq, Repr

namespace Refusal

def status : Refusal → Nat
  | .notFound => 404
  | .notAllowed => 405
  | .tooLarge => 413
  | .notObject | .noScript | .noTables | .noImage => 400
  | .unreadable => 500
  | .notConfigured => 503
  | .notAnalyzed => 502

def message : Refusal → Text
  | .notFound => "Not found"
  | .notAllowed => "Method not allowed"
  | .tooLarge => "Request body too large"
  | .notObject => "Request body must be a JSON object"
  | .noScript => "SQL is required"
  | .noTables => "No tables found in the SQL"
  | .unreadable => "Error while parsing SQL"
  | .noImage => "Image is required"
  | .notConfigured => "Image analysis is not configured"
  | .notAnalyzed => "Error while analyzing the image"

end Refusal

/-- A failure that nobody expected: a body that cannot be read for its depth, or a
failure of the vision client. -/
inductive Unexpected
  | body (fault : JsonFault)
  | vision (failure : Vision.Failure)
  deriving DecidableEq, Repr

def Unexpected.message : Unexpected → Text
  | .body fault => fault.message
  | .vision failure => failure.message

/-- What the work on a request ends with. For a failure that nobody expected there is
an apology, or the failure is handed on and there is no response. -/
inductive Verdict
  /-- A value; `units` tells whether its texts may hold units alone. -/
  | document (value : Json) (units : Bool)
  | methods (allowed : List Method)
  | moved (locator : Text)
  | notUnderstood
  | refusal (r : Refusal)
  | apology
  | failure (f : Unexpected)

inductive NoResponse
  | request (fault : RequestFault)
  | failure (f : Unexpected)
  deriving DecidableEq, Repr

def NoResponse.message : NoResponse → Text
  | .request fault => fault.message
  | .failure f => f.message

structure Response where
  status : Nat
  contentType : Text
  /-- The origins that may use the response. -/
  origins : Text
  allow : Option (List Text)
  body : Text
  deriving DecidableEq, Repr

namespace Response

def everyOrigin : Text := "*"

def jsonType : Text := "application/json"

def pageType : Text := "text/html; charset=utf-8"

/-- A response that carries a value. Members are in the order of their names; the text
takes one line unless it is to be read by people. -/
def ofJson (readable units : Bool) (status : Nat) (value : Json) : Response where
  status := status
  contentType := jsonType
  origins := everyOrigin
  allow := none
  body :=
    let layout : Json.Layout := if readable then .indented else .compact
    value.sorted.text (if units then layout.withUnits else layout) ++ "\n"

def ofRefusal (readable : Bool) (r : Refusal) : Response :=
  ofJson readable false r.status (.object [("error", .string r.message)])

def ofMethods (allowed : List Method) : Response where
  status := 200
  contentType := pageType
  origins := everyOrigin
  allow := some (allowed.map Method.name)
  body := []

/-- A page with a title, a heading and a paragraph. -/
def page (status : Nat) (title heading paragraph : Text) : Response where
  status := status
  contentType := pageType
  origins := everyOrigin
  allow := none
  body := "<!doctype html>\n<html lang=en>\n<title>" ++ title ++ "</title>\n<h1>" ++ heading ++
    "</h1>\n<p>" ++ paragraph ++ "\n"

def apology : Response :=
  page 500 "500 Internal Server Error" "Internal Server Error"
    ("The server encountered an internal error and was unable to complete your request. " ++
      "Either the server is overloaded or there is an error in the application.</p>")

def notUnderstood : Response :=
  page 400 "400 Bad Request" "Bad Request"
    "The browser (or proxy) sent a request that this server could not understand.</p>"

/-- A character of a text inside a page. -/
def pageChar (c : Char) : Text :=
  if c = '&' then "&amp;"
  else if c = '<' then "&lt;"
  else if c = '>' then "&gt;"
  else if c = '\x22' then "&#34;"
  else if c = '\x27' then "&#39;"
  else [c]

/-- Sends a request elsewhere. -/
def moved (locator : Text) : Response :=
  let shown := locator.flatMap pageChar
  page 308 "Redirecting..." "Redirecting..."
    ("You should be redirected automatically to the target URL: <a href=\"" ++ shown ++ "\">" ++
      shown ++ "</a>. If not, click the link.")

end Response

def Verdict.reply (readable : Bool) : Verdict → Except Unexpected Response
  | .document value units => .ok (.ofJson readable units 200 value)
  | .methods allowed => .ok (.ofMethods allowed)
  | .moved locator => .ok (.moved locator)
  | .notUnderstood => .ok .notUnderstood
  | .refusal r => .ok (.ofRefusal readable r)
  | .apology => .ok .apology
  | .failure f => .error f

end SchemaChart.Service

import SchemaChart.Json.Reading
import SchemaChart.Log
import SchemaChart.Vision.Fence

/-!
# Scripts from pictures

A vision service is asked to write the script that a picture of a diagram shows. One
call is made, and what it brings is up to the caller; the answer may be a response, a
failure to reach the service, or a failure of some other kind. Only the last one, a
response that is too deep to be read, and a content that is neither text nor absent
are not turned into a failure of the service.
-/

namespace SchemaChart.Vision

structure Client where
  key : Text
  url : Text
  model : Text
  timeout : Number
  maxTokens : Number
  temperature : Number
  deriving DecidableEq, Repr

def Client.isConfigured (c : Client) : Bool := !c.key.isEmpty

/-- A client with the usual model and limits. -/
def Client.usual (key url : Text) : Client where
  key := key
  url := url
  model := "gpt-4o"
  timeout := .integer 90
  maxTokens := .integer 4096
  temperature := .real (.ofDecimal false 2 (-1))

def systemPrompt : Text :=
  "You are an expert in databases and data modeling.\n\n" ++
  "The user will send an image of a mind map, conceptual diagram, schema or drawing showing " ++
  "entities and their relationships.\n\n" ++
  "Analyze the image and generate the matching SQL CREATE TABLE statements.\n\n" ++
  "RULES:\n" ++
  "1. Identify every entity (table) visible in the image\n" ++
  "2. For each entity, infer sensible columns from the context\n" ++
  "3. Always add an 'id' UUID column as the primary key\n" ++
  "4. Add 'created_at' TIMESTAMPTZ to the main tables\n" ++
  "5. Create foreign keys for the relationships you identify\n" ++
  "6. Use PostgreSQL types (UUID, TEXT, INTEGER, DECIMAL, BOOLEAN, TIMESTAMPTZ, ...)\n" ++
  "7. Add NOT NULL constraints where it makes sense\n\n" ++
  "CONVENTIONS:\n" ++
  "- Table names in plural snake_case (users, products, orders)\n" ++
  "- Column names in snake_case\n" ++
  "- Foreign keys named \x7bsingular_table\x7d_id (e.g. user_id, product_id)\n" ++
  "- Create a junction table for many-to-many relationships\n\n" ++
  "RETURN ONLY the SQL code, without explanations or markdown."

def userPrompt : Text :=
  "Analyze this image and generate the SQL CREATE TABLE code for the matching " ++
  "database. Identify the entities, their attributes and the relationships between them."

/-- The question that is sent; the picture is given by an address or as data. -/
structure Question where
  model : Text
  image : Text
  maxTokens : Number
  temperature : Number
  deriving DecidableEq, Repr

def Client.question (c : Client) (image : Text) : Question :=
  ⟨c.model, image, c.maxTokens, c.temperature⟩

/-- The messages of a question: the rules, then the request with the picture. -/
def Question.messages (q : Question) : Json :=
  .array [
    .object [("role", .string "system"), ("content", .string systemPrompt)],
    .object [("role", .string "user"), ("content", .array [
      .object [("type", .string "text"), ("text", .string userPrompt)],
      .object [("type", .string "image_url"), ("image_url",
        .object [("url", .string q.image), ("detail", .string "high")])]])]]

def Question.toJson (q : Question) : Json :=
  .object [("model", .string q.model), ("messages", q.messages),
    ("max_tokens", .number q.maxTokens), ("temperature", .number q.temperature)]

structure Call where
  url : Text
  headers : List (Text × Text)
  timeout : Number
  question : Question
  deriving DecidableEq, Repr

def Client.call (c : Client) (image : Text) : Call where
  url := c.url
  headers := [("Content-Type", "application/json"), ("Authorization", "Bearer " ++ c.key)]
  timeout := c.timeout
  question := c.question image

/-- What a call brings. -/
inductive Reply
  | response (status : Int) (body : Text)
  | unreachable (reason : Text)
  | broken (reason : Text)
  deriving DecidableEq, Repr

inductive ReplyFault
  | malformed (fault : JsonFault)
  | noMember (name : Text)
  | notArray
  | emptyArray
  | emptyText
  | namedInArray
  | namedInText
  | noParts (kind : Text)
  deriving DecidableEq, Repr

def ReplyFault.message : ReplyFault → Text
  | .malformed fault => fault.message
  | .noMember name => name.cited
  | .notArray => "0"
  | .emptyArray => "list index out of range"
  | .emptyText => "string index out of range"
  | .namedInArray => "list indices must be integers or slices, not str"
  | .namedInText => "string indices must be integers, not 'str'"
  | .noParts kind => "'" ++ kind ++ "' object is not subscriptable"

/-- The fault of a response that was given up for its depth. -/
def ReplyFault.depth? : ReplyFault → Option JsonFault
  | .malformed fault => if fault.cause.isDepth then some fault else none
  | _ => none

def memberOf (name : Text) : Json → Except ReplyFault Json
  | .object members =>
    match members.lookup name with
    | some value => .ok value
    | none => .error (.noMember name)
  | .array _ => .error .namedInArray
  | .string _ => .error .namedInText
  | other => .error (.noParts other.kindName)

/-- The first part of a value; the first character of a text is a text. -/
def firstOf : Json → Except ReplyFault Json
  | .array (item :: _) => .ok item
  | .array [] => .error .emptyArray
  | .string (c :: _) => .ok (.string [c])
  | .string [] => .error .emptyText
  | .object _ => .error .notArray
  | other => .error (.noParts other.kindName)

/-- The content of the first choice in the body of a response. -/
def contentOf (levels : Nat) (body : Text) : Except ReplyFault Json := do
  let reply ← (Json.read levels body).mapError .malformed
  let choices ← memberOf "choices" reply
  let choice ← firstOf choices
  let message ← memberOf "message" choice
  memberOf "content" message

/-- Why no script was got: failures of the service, a failure of another kind, a
response that is too deep, and a content that is no text. -/
inductive Failure
  | notConfigured
  | unreachable (reason : Text)
  | badStatus (status : Int)
  | unexpected (fault : ReplyFault)
  | broken (reason : Text)
  | tooDeep (fault : JsonFault)
  | notText (e : NotText)
  deriving DecidableEq, Repr

namespace Failure

def message : Failure → Text
  | .notConfigured => "Vision service API key is not configured"
  | .unreachable reason => "Vision service unreachable: " ++ reason
  | .badStatus status => "Vision service returned HTTP " ++ Text.ofInt status
  | .unexpected _ => "Vision service returned an unexpected response"
  | .broken reason => reason
  | .tooDeep fault => fault.message
  | .notText e => e.message

def status? : Failure → Option Int
  | .badStatus status => some status
  | _ => none

/-- Whether the failure is one of the service, and so expected by its users. -/
def isExpected : Failure → Bool
  | .broken _ | .tooDeep _ | .notText _ => false
  | _ => true

end Failure

structure Analysis where
  records : List Record
  calls : List Call
  script : Except Failure Text

def note (level : Level) (message : Text) : Record := ⟨level, .vision, message⟩

def Reply.analyze (levels : Nat) : Reply → List Record × Except Failure Text
  | .broken reason => ([], .error (.broken reason))
  | .unreachable reason =>
    ([note .error ("Vision service request failed: " ++ reason)], .error (.unreachable reason))
  | .response status body =>
    if status ≠ 200 then
      ([note .error ("Vision service call failed: " ++ Text.ofInt status ++ " - " ++ body)],
        .error (.badStatus status))
    else match contentOf levels body with
      | .error fault =>
        match fault.depth? with
        | some deep => ([], .error (.tooDeep deep))
        | none =>
          ([note .error ("Unexpected vision service response: " ++ fault.message)],
            .error (.unexpected fault))
      | .ok content =>
        match cleanAnswer content with
        | .error e => ([], .error (.notText e))
        | .ok script =>
          ([note .info ("Vision service returned " ++ Text.ofNat script.size ++
            " characters of SQL")], .ok script)

/-- Asks for the script of an image; the reply is read down to so many levels. -/
def Client.analyze (c : Client) (levels : Nat) (post : Call → Reply) (image : Text) : Analysis :=
  if c.isConfigured then
    let call := c.call image
    let (records, script) := (post call).analyze levels
    ⟨records, [call], script⟩
  else ⟨[], [], .error .notConfigured⟩

end SchemaChart.Vision

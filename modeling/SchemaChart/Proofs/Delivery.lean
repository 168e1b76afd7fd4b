import SchemaChart.Proofs.MemberOrder
import SchemaChart.Proofs.Results
import SchemaChart.Service.Handling

/-!
# Requests that are delivered

A request is delivered (`Delivered`) if it leads to the work of a route, says that its body
is JSON, and has not lost a part of it. What the work sees of such a request is the text
that the body holds (`HoldsText`), and what the client sees of the work is its verdict
(`Request.Delivered.reply`).
-/

namespace SchemaChart

namespace Service

-- ---------------------------------------------------------------------------
-- The body
-- ---------------------------------------------------------------------------

/-- The body holds an object that has a text as a member. -/
def HoldsText (levels : Nat) (name : Text) (body : Bytes) (s : Text) : Prop :=
  ∃ members, Json.ofBytes levels body = .ok (.object members) ∧
    members.lookup name = some (.string s)

/-- The body is deeper than the reader goes. -/
def GivenUp (levels : Nat) (body : Bytes) (fault : JsonFault) : Prop :=
  Json.ofBytes levels body = .error (.malformed fault) ∧ fault.cause.isDepth = true

theorem HoldsText.unique (h : HoldsText levels name body s) (h' : HoldsText levels name body t) :
    s = t := by
  obtain ⟨members, read, found⟩ := h
  obtain ⟨members', read', found'⟩ := h'
  cases read.symm.trans read'
  cases found.symm.trans found'
  rfl

theorem HoldsText.not_givenUp (h : HoldsText levels name body s) : ¬GivenUp levels body fault := by
  rintro ⟨failed, -⟩
  obtain ⟨members, read, -⟩ := h
  cases read.symm.trans failed

theorem objectOf_cases (h : ∀ fault, ¬GivenUp levels body fault) :
    (∃ members, Json.ofBytes levels body = .ok (.object members) ∧
      objectOf levels body = .ok (.object members)) ∨
    objectOf levels body = .error .notObject := by
  rw [objectOf]
  split
  · next members read => exact .inl ⟨members, read, rfl⟩
  · next fault failed =>
    have shallow : ¬fault.cause.isDepth = true := fun deep => h fault ⟨failed, deep⟩
    exact .inr (by rw [if_neg shallow])
  · exact .inr rfl

-- ---------------------------------------------------------------------------
-- The way to a route
-- ---------------------------------------------------------------------------

namespace Request

/-- The body as the service gets it: nothing is read if its length is not known. -/
def given (q : Request) : Bytes := if q.bodyLength?.isSome then q.body else []

/-- The request leads to the work of a route, and a whole body of JSON comes with it. -/
structure Delivered (q : Request) (route : Route) : Prop where
  reaches : ∃ d host, q.destination = .ok d ∧ d.namedHost = .ok host ∧
    Lookup.of q.method d.path = .found route .post ∧ isSocket q d = false
  json : isJsonType q.contentType = true
  whole : ∀ n, q.bodyLength? = some n → n ≤ q.body.length

theorem Delivered.object {q : Request} (h : q.Delivered route)
    (fits : exceeds limit q.bodyLength? = false) :
    q.object levels limit = objectOf levels q.given := by
  rw [Request.object, given, if_neg (by simp [h.json]), if_neg (by simp [fits])]
  cases length : q.bodyLength? with
  | none => rfl
  | some n => exact if_neg (Int.not_lt.mpr (h.whole n length))

end Request

section Member

variable {q : Request} (delivered : q.Delivered route)
  (fits : exceeds limit q.bodyLength? = false) (missing : Refusal) (work : Text → Handling)

include delivered fits

theorem withText_of_holds (holds : HoldsText levels name q.given s) :
    withText levels limit q name missing work =
      if s.isEmpty then .refuse missing else work s := by
  obtain ⟨members, read, found⟩ := holds
  have object : objectOf levels q.given = .ok (.object members) := by
    rw [objectOf, read]
  have member : textMember? name (.object members) = if s.isEmpty then none else some s := by
    simp [textMember?, Json.member?, found, Json.text?, Option.filter]
  simp only [withText, delivered.object fits, object, member]
  cases s <;> rfl

theorem withText_of_givenUp (deep : GivenUp levels q.given fault) (name : Text) :
    withText levels limit q name missing work = .of (.failure (.body fault)) := by
  simp only [withText, delivered.object fits, objectOf, deep.1, deep.2, if_true]

theorem withText_of_not_holds (shallow : ∀ fault, ¬GivenUp levels q.given fault)
    (none : ∀ s, ¬HoldsText levels name q.given s) :
    ∃ r, withText levels limit q name missing work = .refuse r ∧
      (r = .notObject ∨ r = missing) := by
  rcases objectOf_cases shallow with ⟨members, read, object⟩ | other
  · refine ⟨missing, ?_, .inr rfl⟩
    have member : (members.lookup name).bind Json.text? = Option.none := by
      refine Option.bind_eq_none_iff.mpr fun v found => ?_
      cases v with
      | string s => exact absurd ⟨members, read, found⟩ (none s)
      | _ => rfl
    simp only [withText, delivered.object fits, object, textMember?, Json.member?, member,
      Option.filter_none]
  · exact ⟨.notObject, by simp only [withText, delivered.object fits, other], .inl rfl⟩

end Member

-- ---------------------------------------------------------------------------
-- What comes back
-- ---------------------------------------------------------------------------

theorem Lookup.ofName?_of_found (h : Lookup.of method path = .found route m) :
    Method.ofName? method = some m := by
  rw [Lookup.of] at h
  split at h
  · split at h
    · next named =>
      cases h
      exact (Option.filter_eq_some_iff.mp named).1
    · cases h
  · split at h
    · cases h
    · split at h <;> cases h

theorem Request.Delivered.not_head {q : Request} (h : q.Delivered route) :
    q.method ≠ "HEAD".toList := by
  obtain ⟨d, host, -, -, found, -⟩ := h.reaches
  intro head
  have named := Lookup.ofName?_of_found found
  rw [head] at named
  exact absurd named (by decide)

/-- A request for more than the head gets the whole response. -/
theorem Request.Delivered.body_toRequest {q : Request} (h : q.Delivered route) (r : Response) :
    (r.toRequest q).body = r.body := if_neg h.not_head

/-- What a route's work comes to: a failure that nobody expected is handed on or gets an
apology, and anything else is told. -/
theorem Request.Delivered.reply {q : Request} (h : q.Delivered route) (service : Service)
    (b : Backend) :
    (service.handle b q).reply =
      match (service.dispatch b q route).verdict.reply service.settings.debug with
      | .ok response => .ok (response.toRequest q)
      | .error f =>
        if service.handsOn then .error (.failure f) else .ok (Response.apology.toRequest q) := by
  obtain ⟨d, host, destination, named, found, socket⟩ := h.reaches
  simp only [handle, destination, work, named, workAt, found, socket, Bool.false_eq_true,
    reduceCtorEq, if_false]
  -- only the verdict matters from here on, and only a failure is treated in two ways
  cases service.handsOn with
  | true =>
    simp only [if_true]
    cases (service.dispatch b q route).verdict <;> rfl
  | false =>
    simp only [Bool.false_eq_true, if_false, apologize]
    cases verdict : (service.dispatch b q route).verdict <;>
      simp only [verdict, Verdict.reply, Handling.note]

namespace Response

/-- The response carries a value of so many levels as JSON. -/
structure Tells (r : Response) (status depth : Nat) (value : Json) : Prop where
  status : r.status = status
  type : r.contentType = jsonType
  body : Json.ReadFrom depth r.body value

/-- The response tells why there is nothing else to tell. -/
def Refuses (r : Response) (status : Nat) : Prop :=
  ∃ message, r.Tells status 1 (.object [("error", .string message)])

theorem tells_ofJson (readable : Bool) (status : Nat) (plain : Json.Plain depth v) :
    (ofJson readable false status v).Tells status depth v.sorted := by
  have feed : ∀ c ∈ ['\n'], Json.isGap c = true := by decide
  refine ⟨rfl, rfl, ?_⟩
  cases readable with
  | true => exact Json.readFrom_text_append Json.Layout.indented_readable plain.sorted feed
  | false => exact Json.readFrom_text_append Json.Layout.compact_readable plain.sorted feed

theorem refuses_ofRefusal (readable : Bool) (r : Refusal) :
    (ofRefusal readable r).Refuses r.status := by
  have plain : Json.Plain 1 (.object [("error", .string r.message)]) :=
    .object (by simp) (by simp [Json.Plain.string])
  exact ⟨r.message, tells_ofJson readable r.status plain⟩

theorem Tells.toRequest {q : Request} {r : Response} {n : Nat} (h : r.Tells n depth v)
    (delivered : q.Delivered route) : (r.toRequest q).Tells n depth v :=
  ⟨h.status, h.type, delivered.body_toRequest r ▸ h.body⟩

end Response

namespace Request.Delivered

variable {q : Request} (h : q.Delivered route) {service : Service} {b : Backend}

include h

/-- Work that ends with a response has it told. -/
theorem reply_of_tells {verdict : Verdict}
    (ends : (service.dispatch b q route).verdict = verdict)
    (reply : verdict.reply service.settings.debug = .ok response)
    (tells : response.Tells status depth v) :
    ∃ response, (service.handle b q).reply = .ok response ∧
      response.Tells status depth v := by
  refine ⟨response.toRequest q, ?_, tells.toRequest h⟩
  rw [h.reply, ends, reply]

theorem reply_of_refusal (ends : (service.dispatch b q route).verdict = .refusal r) :
    ∃ response, (service.handle b q).reply = .ok response ∧ response.Refuses r.status := by
  obtain ⟨message, tells⟩ := Response.refuses_ofRefusal service.settings.debug r
  obtain ⟨response, reply, told⟩ := h.reply_of_tells ends rfl tells
  exact ⟨response, reply, message, told⟩

theorem reply_of_failure (ends : (service.dispatch b q route).verdict = .failure f) :
    (service.handle b q).reply =
      if service.handsOn then .error (.failure f) else .ok (Response.apology.toRequest q) := by
  rw [h.reply, ends]
  rfl

end Request.Delivered

-- ---------------------------------------------------------------------------
-- Requests as clients make them
-- ---------------------------------------------------------------------------

/-- The request that posts a body of JSON to a route. -/
def Request.posted (route : Route) (body : Bytes) : Request :=
  ⟨"POST", route.pattern, [("Content-Type", Response.jsonType)], body⟩

def postedDestination (route : Route) : Destination := ⟨"http", "localhost", route.pattern, []⟩

namespace Request

/-- Where a request goes does not depend on its body. -/
theorem destination_congr {q q' : Request} (target : q.target = q'.target)
    (headers : q.headers = q'.headers) : q.destination = q'.destination := by
  simp only [destination, header?, target, headers]

theorem destination_posted (h : .post ∈ route.methods) (body : Bytes) :
    (posted route body).destination = .ok (postedDestination route) := by
  -- without its body the request is closed, so where it goes can be computed
  have closed : (posted route []).destination = .ok (postedDestination route) := by
    cases route with
    | analyzeImage => exact ok_of_toOption (by decide)
    | parse => exact ok_of_toOption (by decide)
    | health => exact absurd h (by decide)
    | asset => exact absurd h (by decide)
  exact (destination_congr rfl rfl).trans closed

theorem header?_posted (name : Text) (h : headerKey "Content-Type" ≠ headerKey name)
    (route : Route) (body : Bytes) : (posted route body).header? name = none := by
  simp only [header?, posted, List.filter_cons, h, decide_false, List.filter_nil,
    Bool.false_eq_true, if_false]

theorem isSocket_posted (route : Route) (body : Bytes) :
    isSocket (posted route body) (postedDestination route) = false := by
  have plain : (postedDestination route).isSocket = false := rfl
  have none := header?_posted "Upgrade" (by decide) route body
  rw [isSocket, plain, asksForSocket, none, Bool.false_or, Option.getD_none,
    Bool.and_eq_false_iff]
  exact .inr (by decide)

theorem bodyLength?_posted (route : Route) (body : Bytes) : (posted route body).bodyLength? =
    if body.isEmpty then none else some (body.length : Int) := by
  have coding := header?_posted "Transfer-Encoding" (by decide) route body
  have length := header?_posted "Content-Length" (by decide) route body
  rw [bodyLength?, coding, length, if_neg (by simp)]
  rfl

theorem given_posted (route : Route) (body : Bytes) : (posted route body).given = body := by
  rw [given, bodyLength?_posted]
  cases body <;> rfl

theorem delivered_posted (h : .post ∈ route.methods) (body : Bytes) :
    (posted route body).Delivered route where
  reaches := by
    have host : (postedDestination route).namedHost = .ok (postedDestination route).host :=
      ok_of_toOption (by cases route <;> decide)
    have found : Lookup.of "POST" route.pattern = .found route .post := by
      cases route with
      | analyzeImage => decide
      | parse => decide
      | health => exact absurd h (by decide)
      | asset => exact absurd h (by decide)
    exact ⟨_, _, destination_posted h body, host, found, isSocket_posted route body⟩
  json := by
    have type : (posted route body).contentType = Response.jsonType := by
      simp only [contentType, posted]
      decide
    rw [type]
    decide
  whole := by
    intro n length
    rw [bodyLength?_posted] at length
    split at length
    · cases length
    · cases length
      exact Int.le_refl _

end Request

/-- A body within the limit makes a request within the limit. -/
theorem exceeds_posted (fits : exceeds limit (some body.length) = false) (route : Route) :
    exceeds limit (Request.posted route body).bodyLength? = false := by
  rw [Request.bodyLength?_posted]
  split
  · cases limit <;> rfl
  · exact fits

end Service

end SchemaChart

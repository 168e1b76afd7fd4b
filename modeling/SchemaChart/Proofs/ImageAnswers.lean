import SchemaChart.Proofs.Interfaces
import SchemaChart.Proofs.VisionReplies

/-!
# Which pictures are answered

The status of an answer tells what the vision service did (`image_answered`): there is a
script, the service failed, or there is no key for it. The two kinds of replies that break
the client are in none of these cases. Nobody expects the failure that they cause, and it
takes the place of an answer (`image_parts_unanswered`).
-/

namespace SchemaChart.Service

/-- The response tells a script. Units alone may be joined on the way. -/
def Response.TellsScript (r : Response) (script : Text) : Prop :=
  ∃ t, r.Tells 200 1 (.object [("sql", .string t)]) ∧ (unitSign ∉ script → t = script)

theorem Response.tellsScript_ofJson (readable : Bool) (script : Text) :
    (ofJson readable true 200 (.object [("sql", .string script)])).TellsScript script := by
  have plain : unitSign ∉ ("sql" : Text) := by decide
  cases readable with
  | true =>
    obtain ⟨t, same, read⟩ :=
      Json.readFrom_memberWithUnits Json.Layout.indented_readable plain script
    exact ⟨t, ⟨rfl, rfl, read⟩, same⟩
  | false =>
    obtain ⟨t, same, read⟩ :=
      Json.readFrom_memberWithUnits Json.Layout.compact_readable plain script
    exact ⟨t, ⟨rfl, rfl, read⟩, same⟩

section Analyze

variable {client : Vision.Client} {levels : Nat} {post : Vision.Call → Vision.Reply}
  {image : Text}

theorem verdict_analyze_ok (h : (client.analyze levels post image).script = .ok script) :
    (analyze client levels post image).verdict =
      .document (.object [("sql", .string script)]) true := by
  simp only [analyze, h]

theorem verdict_analyze_notConfigured
    (h : (client.analyze levels post image).script = .error .notConfigured) :
    (analyze client levels post image).verdict = .refusal .notConfigured := by
  simp only [analyze, h]
  rfl

theorem verdict_analyze_expected (h : (client.analyze levels post image).script = .error f)
    (expected : f.isExpected = true) (other : f ≠ .notConfigured) :
    (analyze client levels post image).verdict = .refusal .notAnalyzed := by
  simp only [analyze, h]
  rw [analysisFailed]
  · rw [if_pos expected]
    rfl
  · exact other

theorem verdict_analyze_unexpected (h : (client.analyze levels post image).script = .error f)
    (unexpected : f.isExpected = false) :
    (analyze client levels post image).verdict = .failure (.vision f) := by
  simp only [analyze, h]
  cases f <;> first | rfl | cases unexpected

end Analyze

section

variable {q : Request} (delivered : q.Delivered .analyzeImage) {service : Service}
  (fits : exceeds service.settings.bodyLimit q.bodyLength? = false)
  {b : Backend} (holds : HoldsText b.bodyLevels "image" q.given image) (nonempty : image ≠ [])

include delivered fits holds nonempty

theorem dispatch_analyzeImage : service.dispatch b q .analyzeImage =
    analyze service.settings.vision b.replyLevels b.post image := by
  rw [dispatch, withText_of_holds delivered fits _ _ holds]
  exact if_neg (by simpa using nonempty)

theorem reply_of_script
    (h : (service.settings.vision.analyze b.replyLevels b.post image).script = .ok script) :
    ∃ response, (service.handle b q).reply = .ok response ∧ response.TellsScript script := by
  have verdict := verdict_analyze_ok h
  rw [← dispatch_analyzeImage delivered fits holds nonempty] at verdict
  obtain ⟨t, tells, same⟩ := Response.tellsScript_ofJson service.settings.debug script
  obtain ⟨response, reply, told⟩ := delivered.reply_of_tells verdict rfl tells
  exact ⟨response, reply, t, told, same⟩

theorem reply_of_refused
    (h : (analyze service.settings.vision b.replyLevels b.post image).verdict = .refusal r) :
    ∃ response, (service.handle b q).reply = .ok response ∧ response.Refuses r.status := by
  rw [← dispatch_analyzeImage delivered fits holds nonempty] at h
  exact delivered.reply_of_refusal h

theorem reply_of_unexpected
    (h : (service.settings.vision.analyze b.replyLevels b.post image).script = .error f)
    (unexpected : f.isExpected = false) :
    (service.handle b q).reply =
      if service.handsOn then .error (.failure (.vision f))
      else .ok (Response.apology.toRequest q) := by
  have verdict := verdict_analyze_unexpected h unexpected
  rw [← dispatch_analyzeImage delivered fits holds nonempty] at verdict
  exact delivered.reply_of_failure verdict

/-- Without a key nothing is asked. With one, the answer is the script that the reply of the
vision service comes to, or a refusal if the service failed. A reply that breaks the client is
a failure that nobody expected. -/
theorem image_answered
    (outcome : ∀ reason, b.post (service.settings.vision.call image) ≠ .broken reason) :
    let client := service.settings.vision
    let answer := b.post (client.call image)
    (client.key = [] →
      (client.analyze b.replyLevels b.post image).script = .error .notConfigured ∧
      ∃ response, (service.handle b q).reply = .ok response ∧ response.Refuses 503) ∧
    (client.key ≠ [] → answer.Answers b.replyLevels →
      ∃ script, (client.analyze b.replyLevels b.post image).script = .ok script ∧
      ∃ response, (service.handle b q).reply = .ok response ∧ response.TellsScript script) ∧
    (client.key ≠ [] → ¬answer.Answers b.replyLevels → ¬answer.Breaks b.replyLevels →
      ∃ f, (client.analyze b.replyLevels b.post image).script = .error f ∧ f.isExpected = true ∧
        f ≠ .notConfigured ∧
      ∃ response, (service.handle b q).reply = .ok response ∧ response.Refuses 502) ∧
    (client.key ≠ [] → answer.Breaks b.replyLevels →
      ∃ f, (client.analyze b.replyLevels b.post image).script = .error f ∧ f.isExpected = false ∧
        (service.handle b q).reply =
          if service.handsOn then .error (.failure (.vision f))
          else .ok (Response.apology.toRequest q)) := by
  intro client answer
  obtain ⟨unasked, asked⟩ := client.script_outcome b.replyLevels b.post image outcome
  refine ⟨fun none => ?_, fun key answers => ?_, fun key answers breaks => ?_,
    fun key breaks => ?_⟩
  · obtain ⟨-, script⟩ := unasked none
    exact ⟨script, reply_of_refused delivered fits holds nonempty
      (verdict_analyze_notConfigured script)⟩
  · obtain ⟨-, answered, -⟩ := asked key
    obtain ⟨text, script⟩ := answered answers
    exact ⟨text, script, reply_of_script delivered fits holds nonempty script⟩
  · obtain ⟨-, -, failed, -⟩ := asked key
    obtain ⟨f, script, expected, other⟩ := failed answers breaks
    exact ⟨f, script, expected, other, reply_of_refused delivered fits holds nonempty
      (verdict_analyze_expected script expected other)⟩
  · obtain ⟨-, -, -, broken⟩ := asked key
    obtain ⟨f, script, unexpected⟩ := broken breaks
    exact ⟨f, script, unexpected,
      reply_of_unexpected delivered fits holds nonempty script unexpected⟩

end

def pictureValue : Json := .object [("image", .string "data:,x")]

def pictureBody : Bytes := (pictureValue.text .spaced).encode

def pictureRequest : Request := .posted .analyzeImage pictureBody

theorem delivered_pictureRequest : pictureRequest.Delivered .analyzeImage :=
  Request.delivered_posted (by decide) pictureBody

theorem holds_pictureRequest :
    HoldsText sampleLevels "image" pictureRequest.given "data:,x" := by
  have plain : Json.Plain 1 pictureValue := .object (by simp) (by simp [Json.Plain.string])
  refine ⟨[("image", .string "data:,x")], ?_, rfl⟩
  rw [pictureRequest, Request.given_posted, pictureBody]
  exact Json.ofBytes_text Json.Layout.spaced_readable plain (by decide) (by decide)

/-- A service under test that has a key. -/
def keyedService : Service :=
  ⟨{ sampleService.settings with vision := .usual "k" "http://vision.test/v1" }, 0⟩

theorem fits_pictureRequest :
    exceeds keyedService.settings.bodyLimit pictureRequest.bodyLength? = false :=
  exceeds_posted (by decide) .analyzeImage

/-- The body of a response whose first choice has the given content. -/
def contentBody (content : Json) : Text :=
  (Json.object [("choices", .array [.object [("message",
    .object [("content", content)])]])]).text .spaced

/-- The content is four levels deep in the response. -/
theorem hasContent_contentBody (plain : Json.Plain depth content) (deep : depth + 4 ≤ levels) :
    Vision.HasContent levels (contentBody content) content := by
  have message : Json.Plain (depth + 1) (.object [("content", content)]) :=
    .object (by simp) (by simpa using plain)
  have choice : Json.Plain (depth + 2) (.object [("message", .object [("content", content)])]) :=
    .object (by simp) (by simpa using message)
  have choices : Json.Plain (depth + 3)
      (.array [.object [("message", .object [("content", content)])]]) :=
    .array (by simpa using choice)
  have whole : Json.Plain (depth + 4) (.object [("choices", .array [.object [("message",
      .object [("content", content)])]])]) :=
    .object (by simp) (by simpa using choices)
  have read := Json.readFrom_text Json.Layout.spaced_readable whole levels deep
  exact ⟨_, _, _, _, read, rfl, rfl, rfl⟩

def contentPost (content : Json) (_ : Vision.Call) : Vision.Reply :=
  .response 200 (contentBody content)

def fencedContent : Text := "\x60\x60\x60sql\nCREATE TABLE t (a INT)\n\x60\x60\x60"

/-- Fences around a script are no part of what is told. -/
theorem image_answered_fenced :
    let b := Backend.reading sampleLevels (contentPost (.string fencedContent))
    pictureRequest.Delivered .analyzeImage ∧
      exceeds keyedService.settings.bodyLimit pictureRequest.bodyLength? = false ∧
      HoldsText b.bodyLevels "image" pictureRequest.given "data:,x" ∧ ("data:,x" : Text) ≠ [] ∧
      (∀ reason, b.post (keyedService.settings.vision.call "data:,x") ≠ .broken reason) ∧
      ∃ response, (keyedService.handle b pictureRequest).reply = .ok response ∧
        response.TellsScript "CREATE TABLE t (a INT)" := by
  intro b
  have nonempty : ("data:,x" : Text) ≠ [] := by decide
  have outcome : ∀ reason, b.post (keyedService.settings.vision.call "data:,x") ≠
      .broken reason := by simp [b, Backend.reading, contentPost]
  have key : keyedService.settings.vision.key ≠ [] := by decide
  have plain : Json.Plain 0 (.string fencedContent) := .string
  have has := hasContent_contentBody plain (by decide : 0 + 4 ≤ sampleLevels)
  have clean : cleanAnswer (.string fencedContent) = .ok "CREATE TABLE t (a INT)" := by
    decide +kernel
  obtain ⟨-, told, -⟩ := image_answered (b := b) delivered_pictureRequest fits_pictureRequest
    holds_pictureRequest nonempty outcome
  obtain ⟨script, analyzed, response, reply, tells⟩ :=
    told key ⟨_, _, rfl, has, .inl ⟨fencedContent, rfl⟩⟩
  have asked : (keyedService.settings.vision.analyze sampleLevels b.post "data:,x").script =
      .ok "CREATE TABLE t (a INT)" := by
    rw [Vision.Client.script_analyze, if_neg key]
    exact (Vision.Reply.analyze_of_content has).trans (by rw [clean]; rfl)
  cases asked.symm.trans analyzed
  exact ⟨delivered_pictureRequest, fits_pictureRequest, holds_pictureRequest, nonempty, outcome,
    response, reply, tells⟩

/-- A content in parts: one part, which is a text. -/
def partsContent : Json :=
  .array [.object [("type", .string "text"), ("text", .string "CREATE TABLE t (a INT)")]]

/-- A content in parts is no text, but no failure of the service either, and there is no
answer. -/
theorem image_parts_unanswered :
    let b := Backend.reading sampleLevels (contentPost partsContent)
    let client := keyedService.settings.vision
    pictureRequest.Delivered .analyzeImage ∧
      exceeds keyedService.settings.bodyLimit pictureRequest.bodyLength? = false ∧
      HoldsText b.bodyLevels "image" pictureRequest.given "data:,x" ∧ client.key ≠ [] ∧
      Vision.HasContent b.replyLevels (contentBody partsContent) partsContent ∧
      (client.analyze b.replyLevels b.post "data:,x").script = .error (.notText ⟨"list"⟩) ∧
      (keyedService.handle b pictureRequest).reply =
        .error (.failure (.vision (.notText ⟨"list"⟩))) := by
  intro b client
  have plain : Json.Plain 2 partsContent :=
    .array (by simpa using .object (by decide) (by simp [Json.Plain.string]))
  have has := hasContent_contentBody plain (by decide : 2 + 4 ≤ sampleLevels)
  have script : (client.analyze sampleLevels b.post "data:,x").script =
      .error (.notText ⟨"list"⟩) := by
    rw [Vision.Client.script_analyze, if_neg (by decide)]
    exact Vision.Reply.analyze_of_content has
  exact ⟨delivered_pictureRequest, fits_pictureRequest, holds_pictureRequest, by decide, has,
    script, reply_of_unexpected (b := b) delivered_pictureRequest fits_pictureRequest
      holds_pictureRequest (by decide) script rfl⟩

end SchemaChart.Service

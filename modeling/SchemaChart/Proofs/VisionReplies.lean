import SchemaChart.Proofs.Results
import SchemaChart.Vision.Client

/-!
# What the vision client makes of a reply

A script comes of a reply that has a content in its place (`HasContent`) which is a text or
counts as absent (`Reply.Answers`). Other replies are failures of the service, and its users
expect those, but for two kinds that break the client (`Reply.Breaks`): a response that is too
deep to be read, and a content of another type, which is only looked at when the response has
been accepted. So a client with a key does one of three things, and which one the reply decides
(`Client.script_outcome`).
-/

namespace SchemaChart.Vision

/-- The first choice of a response has a message, and the message a content. -/
def HasContent (levels : Nat) (body : Text) (content : Json) : Prop :=
  ∃ reply choice others message, Json.read levels body = .ok reply ∧
    reply.member? "choices" = some (.array (choice :: others)) ∧
    choice.member? "message" = some message ∧ message.member? "content" = some content

/-- A script can be made of a text, and of whatever counts as absent. -/
def IsScript (content : Json) : Prop := (∃ s, content = .string s) ∨ content.isPresent = false

-- ---------------------------------------------------------------------------
-- The content
-- ---------------------------------------------------------------------------

theorem memberOf_ok_iff : memberOf name v = .ok w ↔ v.member? name = some w := by
  cases v with
  | object members =>
    simp only [memberOf, Json.member?]
    cases members.lookup name <;> simp
  | _ => simp [memberOf, Json.member?]

/-- The first part of a text is a text and has no members, so only an array counts. -/
theorem firstOf_member_iff : firstOf v = .ok item ∧ item.member? name = some w ↔
    (∃ items, v = .array (item :: items)) ∧ item.member? name = some w := by
  refine and_congr_left fun member => ?_
  cases v with
  | array items => cases items <;> simp [firstOf]
  | string s =>
    cases s with
    | nil => simp [firstOf]
    | cons c s =>
      simp only [firstOf, Except.ok.injEq, reduceCtorEq, exists_false, iff_false]
      rintro rfl
      simp [Json.member?] at member
  | _ => simp [firstOf]

theorem contentOf_eq_ok_iff :
    contentOf levels body = .ok content ↔ HasContent levels body content := by
  simp only [contentOf, bind_ok_iff, mapError_ok_iff, memberOf_ok_iff]
  constructor
  · rintro ⟨reply, read, choices, given, choice, first, message, told, content⟩
    obtain ⟨⟨others, rfl⟩, -⟩ := firstOf_member_iff.mp ⟨first, told⟩
    exact ⟨reply, choice, others, message, read, given, told, content⟩
  · rintro ⟨reply, choice, others, message, read, given, told, content⟩
    exact ⟨reply, read, _, given, choice, rfl, message, told, content⟩

theorem depth?_of_memberOf (h : memberOf name v = .error fault) : fault.depth? = none := by
  cases v with
  | object members =>
    simp only [memberOf] at h
    split at h <;> cases h
    rfl
  | _ => cases h; rfl

theorem depth?_of_firstOf (h : firstOf v = .error fault) : fault.depth? = none := by
  cases v with
  | array items => cases items <;> cases h; rfl
  | string s => cases s <;> cases h; rfl
  | _ => cases h; rfl

/-- Only the reader gives up a response for its depth. -/
theorem depth?_of_contentOf (h : contentOf levels body = .error fault) :
    fault.depth? = some deep ↔ Json.read levels body = .error deep ∧ deep.cause.isDepth = true := by
  simp only [contentOf, bind_error_iff, mapError_error_iff] at h
  obtain ⟨other, read, rfl⟩ | ⟨reply, read, later⟩ := h
  · rw [read, ReplyFault.depth?, Option.ite_none_right_eq_some, Option.some.injEq,
      Except.error.injEq, and_comm]
    exact and_congr_right fun same => by rw [same]
  · -- the response has been read, and no later fault is one of depth
    have none : fault.depth? = none := by
      obtain h | ⟨choices, -, h | ⟨choice, -, h | ⟨message, -, h⟩⟩⟩ := later
      · exact depth?_of_memberOf h
      · exact depth?_of_firstOf h
      · exact depth?_of_memberOf h
      · exact depth?_of_memberOf h
    rw [mapError_ok_iff] at read
    simp [none, read]

theorem cleanAnswer_ok_iff : (∃ script, cleanAnswer content = .ok script) ↔ IsScript content := by
  cases present : content.isPresent with
  | false =>
    rw [cleanAnswer.eq_def, present]
    exact iff_of_true ⟨[], rfl⟩ (.inr present)
  | true =>
    cases content with
    | string s =>
      rw [cleanAnswer, present]
      exact iff_of_true ⟨_, rfl⟩ (.inl ⟨s, rfl⟩)
    | _ => simp [cleanAnswer, IsScript, present]

-- ---------------------------------------------------------------------------
-- Replies
-- ---------------------------------------------------------------------------

namespace Reply

/-- The reply is a response that a script comes of. -/
def Answers (r : Reply) (levels : Nat) : Prop :=
  ∃ body content, r = .response 200 body ∧ HasContent levels body content ∧ IsScript content

/-- The reply is a response that is too deep, or has a content that no script comes of. -/
def Breaks (r : Reply) (levels : Nat) : Prop :=
  ∃ body, r = .response 200 body ∧
    ((∃ fault, Json.read levels body = .error fault ∧ fault.cause.isDepth = true) ∨
      ∃ content, HasContent levels body content ∧ ¬IsScript content)

theorem analyze_of_content (h : HasContent levels body content) :
    ((Reply.response 200 body).analyze levels).2 = (cleanAnswer content).mapError .notText := by
  have read := contentOf_eq_ok_iff.mpr h
  simp only [analyze, ne_eq, not_true_eq_false, if_false, read]
  cases cleanAnswer content <;> rfl

theorem analyze_of_fault (h : contentOf levels body = .error fault) :
    ((Reply.response 200 body).analyze levels).2 =
      .error (fault.depth?.elim (.unexpected fault) .tooDeep) := by
  simp only [analyze, ne_eq, not_true_eq_false, if_false, h]
  cases fault.depth? <;> rfl

theorem analyze_of_answers {r : Reply} (h : r.Answers levels) :
    ∃ script, (r.analyze levels).2 = .ok script := by
  obtain ⟨body, content, rfl, has, isScript⟩ := h
  obtain ⟨script, clean⟩ := cleanAnswer_ok_iff.mpr isScript
  exact ⟨script, by rw [analyze_of_content has, clean]; rfl⟩

theorem analyze_of_breaks {r : Reply} (h : r.Breaks levels) :
    ∃ f, (r.analyze levels).2 = .error f ∧ f.isExpected = false := by
  obtain ⟨body, rfl, ⟨fault, read, deep⟩ | ⟨content, has, other⟩⟩ := h
  · have failed : contentOf levels body = .error (.malformed fault) := by
      rw [contentOf, read]
      rfl
    have given := (depth?_of_contentOf failed).mpr ⟨read, deep⟩
    exact ⟨.tooDeep fault, by rw [analyze_of_fault failed, given]; rfl, rfl⟩
  · cases clean : cleanAnswer content with
    | ok script => exact absurd (cleanAnswer_ok_iff.mp ⟨script, clean⟩) other
    | error e => exact ⟨.notText e, by rw [analyze_of_content has, clean]; rfl, rfl⟩

/-- Any other reply is a failure of the service. -/
theorem analyze_of_neither {r : Reply} (outcome : ∀ reason, r ≠ .broken reason)
    (answers : ¬r.Answers levels) (breaks : ¬r.Breaks levels) :
    ∃ f, (r.analyze levels).2 = .error f ∧ f.isExpected = true ∧ f ≠ .notConfigured := by
  cases r with
  | broken reason => exact absurd rfl (outcome reason)
  | unreachable reason => exact ⟨_, rfl, rfl, by simp⟩
  | response status body =>
    by_cases good : status = 200
    · subst good
      cases read : contentOf levels body with
      | ok content =>
        have has := contentOf_eq_ok_iff.mp read
        by_cases isScript : IsScript content
        · exact absurd ⟨body, content, rfl, has, isScript⟩ answers
        · exact absurd ⟨body, rfl, .inr ⟨content, has, isScript⟩⟩ breaks
      | error fault =>
        have shallow : fault.depth? = none := by
          refine Option.eq_none_iff_forall_ne_some.mpr fun deep given => ?_
          exact breaks ⟨body, rfl, .inl ⟨deep, (depth?_of_contentOf read).mp given⟩⟩
        exact ⟨.unexpected fault, by rw [analyze_of_fault read, shallow]; rfl, rfl, by simp⟩
    · refine ⟨.badStatus status, ?_, rfl, by simp⟩
      rw [analyze, if_pos good]

end Reply

-- ---------------------------------------------------------------------------
-- The client
-- ---------------------------------------------------------------------------

namespace Client

variable (c : Client) (levels : Nat) (post : Call → Reply) (image : Text)

theorem script_analyze : (c.analyze levels post image).script =
    if c.key = [] then .error .notConfigured else ((post (c.call image)).analyze levels).2 := by
  rw [analyze, isConfigured]
  cases c.key <;> rfl

theorem calls_analyze : (c.analyze levels post image).calls =
    if c.key = [] then [] else [c.call image] := by
  rw [analyze, isConfigured]
  cases c.key <;> rfl

/-- Without a key nobody is asked. With one, the service is asked once, and there is a script if
its reply answers. If it does not, there is a failure of the service, but one of another kind if
the reply breaks the client. -/
theorem script_outcome (outcome : ∀ reason, post (c.call image) ≠ .broken reason) :
    let answer := post (c.call image)
    let analysis := c.analyze levels post image
    (c.key = [] → analysis.calls = [] ∧ analysis.script = .error .notConfigured) ∧
    (c.key ≠ [] → analysis.calls = [c.call image] ∧
      (answer.Answers levels → ∃ script, analysis.script = .ok script) ∧
      (¬answer.Answers levels → ¬answer.Breaks levels →
        ∃ f, analysis.script = .error f ∧ f.isExpected = true ∧ f ≠ .notConfigured) ∧
      (answer.Breaks levels → ∃ f, analysis.script = .error f ∧ f.isExpected = false)) := by
  intro answer analysis
  refine ⟨fun none => ?_, fun key => ?_⟩
  · exact ⟨(c.calls_analyze levels post image).trans (if_pos none),
      (c.script_analyze levels post image).trans (if_pos none)⟩
  · have asked : analysis.script = (answer.analyze levels).2 :=
      (c.script_analyze levels post image).trans (if_neg key)
    rw [asked]
    exact ⟨(c.calls_analyze levels post image).trans (if_neg key), Reply.analyze_of_answers,
      Reply.analyze_of_neither outcome, Reply.analyze_of_breaks⟩

end Client

end SchemaChart.Vision

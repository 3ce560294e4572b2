import HttpGateway.Proofs.Gateway.Redaction

/-!
# What a failed answer says

The backend fails a command with any status that is not a success and with any octets as the body.
`Json.Tells` and `Attempt.Reports` say what such an answer means: the message that its JSON object
tells, or else its text, or else what its status stands for. A gateway that withholds nothing is
`Gateway.Faithful` to an answer whose body is within the limit: it answers with exactly this, under
a status that depends on that of the backend alone, and it answers a success with a success. An
answer with a longer body is never read, and its status does not count (`Gateway.respond_answered`).
-/

namespace HttpGateway

/-! ## The message of an object -/

namespace Json

variable {value : Json} {message : String}

/-- A value tells a message: it is an object, and the message is its first member that is a string
among `details`, `error` and `message`, in this order. -/
def Tells (value : Json) (message : String) : Prop :=
  ∃ members, value = .object members ∧ ∃ before name after,
    ["details", "error", "message"] = before ++ name :: after ∧
    members.lookup name = some (.string message) ∧
    ∀ other ∈ before, ∀ text, members.lookup other ≠ some (.string text)

/-- A value has a text exactly when it is that string. -/
theorem text?_eq_some_iff : value.text? = some message ↔ value = .string message := by
  cases value <;> simp [text?]

/-- A member of an object has a text exactly when it is that string. -/
theorem textMember_eq_some_iff (members : List (String × Json)) (name : String) :
    ((object members).member? name).bind text? = some message ↔
      members.lookup name = some (.string message) := by
  simp [member?, Option.bind_eq_some_iff, text?_eq_some_iff]

/-- The message of a value is what it tells. -/
theorem messageMember?_eq_some_iff :
    Attempt.messageMember? value = some message ↔ value.Tells message := by
  unfold Attempt.messageMember? Tells
  cases value with
  | object members =>
    have silent (name : String) : ((object members).member? name).bind text? = none ↔
        ∀ text, members.lookup name ≠ some (.string text) := by
      rw [Option.eq_none_iff_forall_ne_some]
      exact forall_congr' fun text => not_congr (textMember_eq_some_iff members name)
    simp only [List.findSome?_eq_some_iff, textMember_eq_some_iff, silent]
    constructor
    · rintro found
      exact ⟨members, rfl, found⟩
    · rintro ⟨others, same, found⟩
      rw [Json.object.inj same]
      exact found
  | _ =>
    refine iff_of_false ?_ ?_
    · simp [member?]
    · rintro ⟨members, same, -⟩
      cases same

end Json

/-! ## The message of an answer -/

namespace Attempt

variable {status : Status} {body : List UInt8} {words : String}

/-- A body tells no message: it is no JSON text, or one whose value tells none. -/
def Silent (body : List UInt8) : Prop :=
  ∀ value, Json.read? body = some value → ∀ message, ¬ value.Tells message

/-- What an answer without success says. -/
inductive Reports (status : Status) (body : List UInt8) : String → Prop
  /-- What the object in its body tells. -/
  | told {value : Json} {message : String} (parsed : Json.read? body = some value)
      (tells : value.Tells message) : Reports status body message
  /-- The text of its body without the blanks at its ends. -/
  | written {text : String} (silent : Silent body)
      (trimmed : Text.trim (Text.Utf8.decodeLossy body) = text) (filled : text ≠ "") :
      Reports status body text
  /-- The reason phrase of its status. -/
  | named {reason : String} (silent : Silent body)
      (blank : Text.trim (Text.Utf8.decodeLossy body) = "")
      (standard : status.reason? = some reason) : Reports status body reason
  /-- That the backend failed. -/
  | unnamed (silent : Silent body) (blank : Text.trim (Text.Utf8.decodeLossy body) = "")
      (unknown : status.reason? = none) : Reports status body "backend error"

/-- A body tells no message exactly when none is found in it. -/
theorem silent_iff : Silent body ↔ (Json.read? body).bind messageMember? = none := by
  rw [Option.bind_eq_none_iff]
  refine forall₂_congr fun value _ => ?_
  rw [Option.eq_none_iff_forall_ne_some]
  exact forall_congr' fun message => not_congr Json.messageMember?_eq_some_iff.symm

/-- The message of an answer whose body tells none. -/
theorem message_of_silent (silent : Silent body) :
    message status body = if Text.trim (Text.Utf8.decodeLossy body) = "" then
      status.reason?.getD "backend error" else Text.trim (Text.Utf8.decodeLossy body) := by
  unfold message trimmedText?
  rw [silent_iff.1 silent]
  dsimp only
  split <;> rfl

/-- An answer says its message and nothing else. -/
theorem reports_iff : Reports status body words ↔ words = message status body := by
  constructor
  · rintro (⟨parsed, tells⟩ | ⟨silent, rfl, filled⟩ | ⟨silent, blank, standard⟩ |
      ⟨silent, blank, unknown⟩)
    · rw [message, parsed, Option.bind_some, Json.messageMember?_eq_some_iff.2 tells]
    · rw [message_of_silent silent, if_neg filled]
    · rw [message_of_silent silent, if_pos blank, standard, Option.getD_some]
    · rw [message_of_silent silent, if_pos blank, unknown, Option.getD_none]
  · rintro rfl
    cases found : (Json.read? body).bind messageMember? with
    | some words =>
      obtain ⟨value, parsed, tells⟩ := Option.bind_eq_some_iff.1 found
      have same : message status body = words := by
        rw [message, found]
      rw [same]
      exact .told parsed (Json.messageMember?_eq_some_iff.1 tells)
    | none =>
      have silent := silent_iff.2 found
      rw [message_of_silent silent]
      split
      · next blank =>
        cases known : status.reason? with
        | some reason => exact .named silent blank known
        | none => exact .unnamed silent blank known
      · next filled => exact .written silent rfl filled

/-- The result of an answer without success is its message. -/
theorem result_of_refused (refused : ¬ (200 ≤ status.code ∧ status.code < 300)) :
    (Attempt.answered status body).result = .error ⟨failureKind status, message status body⟩ := by
  rw [result, classify, if_neg (mt Status.isSuccess_iff.1 refused)]

/-- The result of a success is the value of its body. -/
theorem result_of_success (succeeded : 200 ≤ status.code ∧ status.code < 300) :
    (Attempt.answered status body).result = .ok (value body) := by
  rw [result, classify, if_pos (Status.isSuccess_iff.2 succeeded)]

/-- The status that stands for a failed answer: a few are kept, and 422 is told as 400 and every
other as 500. -/
theorem code_failureKind (status : Status) : (failureKind status).status.code =
    if status.code ∈ [400, 401, 403, 404, 409] then status.code
    else if status.code = 422 then 400 else 500 := by
  rw [failureKind_eq_ite]
  simp only [List.mem_cons, List.not_mem_nil, or_false]
  repeat' split
  all_goals
    simp only [FailureKind.status, Status.badRequest, Status.unauthorized, Status.forbidden,
      Status.notFound, Status.conflict, Status.internalServerError]
  all_goals omega

end Attempt

/-! ## Responses to answers -/

/-- No failure is answered with a success. -/
theorem FailureKind.isSuccess_status (kind : FailureKind) : kind.status.isSuccess = false := by
  cases kind <;> rfl

/-- A success is answered with a success. -/
theorem Route.isSuccess_success {κ : Type} (route : Route κ) (value : Json) :
    (route.success value).response.status.isSuccess = true := by
  have shape : (route.success value).status = route.shape.status := by
    unfold success
    dsimp only
    rw [foldl_withHeader]
    cases route.contentType <;> cases route.shape <;> rfl
  have kept : (route.success value).response.status = (route.success value).status := by
    unfold Reply.response
    cases (route.success value).body <;> rfl
  rw [kept, shape]
  cases route.shape <;> rfl

namespace Gateway

variable {gateway : Gateway Command} {courier : Courier} {visit : Visit} {status : Status}
  {body : List UInt8}

/-- The request of a visit was routed and allowed and a command was built for it, and in the last
attempt at sending the command the backend answers with a status and a whole body. -/
def Answered (gateway : Gateway Command) (courier : Courier) (visit : Visit) (status : Status)
    (body : List UInt8) : Prop :=
  ∃ found context command, gateway.Routed visit.request found context ∧
    Access.authorize gateway.registry context found.route.requirement = .ok () ∧
    found.route.build context = .ok command ∧
    ∃ backend : Nat → Exchange, visit.script = Attempt.ofExchange ∘ backend ∧
      ∃ last, IsLeast (courier.Stops visit.script 0) last ∧
        backend last = .replied status body none

/-- When the backend answers, sending the command ends with what comes of the answer. -/
theorem Answered.ends (answered : gateway.Answered courier visit status body) :
    gateway.Ends courier visit (.ofAnswer status body none) := by
  obtain ⟨found, context, command, routed, allowed, made, backend, script, last, stops, replied⟩ :=
    answered
  refine ⟨found, context, command, routed, allowed, made, last, stops, ?_⟩
  rw [script, Function.comp_apply, replied]
  rfl

/-- The response to a visit is true to an answer of the backend with a status and a body. -/
structure Faithful (gateway : Gateway Command) (courier : Courier) (visit : Visit)
    (status : Status) (body : List UInt8) : Prop where
  /-- If the status of the answer is no success, that of the response depends on it alone. -/
  code : ¬ (200 ≤ status.code ∧ status.code < 300) →
    (gateway.respond courier visit).status.code =
      if status.code ∈ [400, 401, 403, 404, 409] then status.code
      else if status.code = 422 then 400 else 500
  /-- If the status of the answer is no success, neither is that of the response. -/
  failure : ¬ (200 ≤ status.code ∧ status.code < 300) →
    (gateway.respond courier visit).status.isSuccess = false
  /-- An answer without success says something. -/
  reports : ¬ (200 ≤ status.code ∧ status.code < 300) →
    ∃ details, Attempt.Reports status body details
  /-- What an answer without success says makes the response, as its details. -/
  details : ¬ (200 ≤ status.code ∧ status.code < 300) → ∀ details,
    Attempt.Reports status body details →
      gateway.respond courier visit = .ofDetails (Attempt.failureKind status) details
  /-- If the status of the answer is a success, so is that of the response, which is what the route
  makes of the value of the body. -/
  success : 200 ≤ status.code ∧ status.code < 300 →
    (gateway.respond courier visit).status.isSuccess = true ∧
    ∃ found context, gateway.Routed visit.request found context ∧
      gateway.respond courier visit = (found.route.success (Attempt.value body)).response

/-- A gateway that withholds no messages answers a failure with its message as the details. -/
theorem Fails.respond_of_plain {failure : Failure} (plain : gateway.settings.redact = false)
    (fails : gateway.Fails courier visit failure) :
    gateway.respond courier visit = .ofDetails failure.kind failure.message := by
  rw [fails.respond, Reply.response_ofFailure, plain]
  simp

/-- A gateway that withholds no messages is faithful to an answer that is read. -/
theorem Ends.faithful (plain : gateway.settings.redact = false)
    (ends : gateway.Ends courier visit (.answered status body)) :
    gateway.Faithful courier visit status body := by
  have told (refused : ¬ (200 ≤ status.code ∧ status.code < 300)) :
      gateway.respond courier visit =
        .ofDetails (Attempt.failureKind status) (Attempt.message status body) := by
    have failed : (Attempt.answered status body).result = _ := Attempt.result_of_refused refused
    exact (Fails.sending ends failed).respond_of_plain plain
  constructor
  case code =>
    intro refused
    rw [told refused]
    exact Attempt.code_failureKind status
  case failure =>
    intro refused
    rw [told refused]
    exact (Attempt.failureKind status).isSuccess_status
  case reports => exact fun _ => ⟨_, Attempt.reports_iff.2 rfl⟩
  case details =>
    intro refused details reported
    rw [Attempt.reports_iff.1 reported, told refused]
  case success =>
    intro succeeded
    obtain ⟨found, context, command, routed, allowed, made, last⟩ := ends
    have response := routed.respond allowed made last
    rw [Attempt.result_of_success succeeded] at response
    refine ⟨?_, found, context, routed, response⟩
    rw [response]
    exact found.route.isSuccess_success _

/-- A gateway that withholds no messages is faithful to an answer whose body is within the limit. -/
theorem Answered.faithful (plain : gateway.settings.redact = false)
    (answered : gateway.Answered courier visit status body) (short : body.length ≤ 4194304) :
    gateway.Faithful courier visit status body := by
  have ends := answered.ends
  rw [Attempt.ofAnswer_of_short short] at ends
  exact ends.faithful plain

/-- A gateway that withholds no messages answers with 500 when the body of the backend's answer is
too long, and says so. -/
theorem Answered.respond_of_long (plain : gateway.settings.redact = false)
    (answered : gateway.Answered courier visit status body) (long : 4194304 < body.length) :
    gateway.respond courier visit =
      .ofDetails .other "backend request failed: length limit exceeded" := by
  have ends := answered.ends
  rw [Attempt.ofAnswer_of_long long] at ends
  have fails : gateway.Fails courier visit
      ⟨.other, "backend request failed: length limit exceeded"⟩ := .sending ends rfl
  exact fails.respond_of_plain plain

/-- Some gateway withholds no messages and has a visit for every answer of the backend after which
the command is not sent again. -/
theorem exists_answered : ∃ (gateway : Gateway Command) (courier : Courier)
    (visit : Status → List UInt8 → Visit), gateway.settings.redact = false ∧
      ∀ status body, ¬ (Attempt.ofAnswer status body none).Spared →
        gateway.Answered courier (visit status body) status body := by
  obtain ⟨gateway, courier, visit, plain, script, ends⟩ := exists_ends false
  refine ⟨gateway, courier, fun status body => visit (.ofAnswer status body none), plain,
    fun status body acted => ?_⟩
  obtain ⟨found, context, command, routed, allowed, made, last, stops, -⟩ := ends _ acted
  exact ⟨found, context, command, routed, allowed, made, fun _ => .replied status body none,
    script _, last, stops, rfl⟩

/-- Take a gateway that withholds no messages, and a visit whose command is sent and in the end
answered by the backend. If the body of the answer is within the limit, the response is faithful to
it. If it is longer, the response has the status 500 and says that the body is too long, whatever
the status of the answer is. -/
theorem respond_answered (plain : gateway.settings.redact = false)
    (answered : gateway.Answered courier visit status body) :
    (body.length ≤ 4194304 → gateway.Faithful courier visit status body) ∧
    (4194304 < body.length →
      (gateway.respond courier visit).status.code = 500 ∧
      gateway.respond courier visit =
        .ofDetails .other "backend request failed: length limit exceeded") := by
  refine ⟨answered.faithful plain, fun long => ?_⟩
  have told := answered.respond_of_long plain long
  exact ⟨by rw [told]; rfl, told⟩

/-- A backend that answers 422 with an object whose `details` are no text is answered with 400 and
its `error`, one that answers with a redirect and blanks with 500 and the reason phrase, and one
that answers 404 with a body which is too long with 500. -/
theorem respond_answered_unprocessable :
    ∃ (gateway : Gateway Command) (courier : Courier) (refused moved missing : Visit),
      gateway.settings.redact = false ∧
      gateway.Answered courier refused .unprocessable
        (Text.Utf8.encode "\x7b\"message\":\"no\",\"error\":\"taken\",\"details\":7\x7d") ∧
      gateway.Answered courier moved ⟨302, by decide⟩ (Text.Utf8.encode " \n") ∧
      gateway.Answered courier missing .notFound (List.replicate 4194305 0x20) ∧
      gateway.respond courier refused = .ofDetails .validation "taken" ∧
      (gateway.respond courier refused).status.code = 400 ∧
      gateway.respond courier moved = .ofDetails .other "Found" ∧
      (gateway.respond courier moved).status.code = 500 ∧
      (gateway.respond courier missing).status.code = 500 := by
  obtain ⟨gateway, courier, visit, plain, answers⟩ := exists_answered
  let members : List (String × Json) :=
    [("details", .number (.integer 7)), ("error", .string "taken"), ("message", .string "no")]
  let told : List UInt8 := Text.Utf8.encode
    "\x7b\"message\":\"no\",\"error\":\"taken\",\"details\":7\x7d"
  have tells : (Json.object members).Tells "taken" :=
    ⟨members, rfl, ["details"], "error", ["message"], rfl, rfl, by simp [members]⟩
  have parsed : Json.read? told = some (.object members) := rfl
  have silent : Attempt.Silent (Text.Utf8.encode " \n") := by
    intro value read
    have unread : Json.read? (Text.Utf8.encode " \n") = none := by decide +kernel
    rw [unread] at read
    cases read
  have long : 4194304 < (List.replicate 4194305 (0x20 : UInt8)).length := by
    rw [List.length_replicate]
    omega
  have refused : gateway.Answered courier (visit _ _) .unprocessable told :=
    answers _ _ (mt Attempt.isRetryable_iff.2 (by decide +kernel))
  have moved : gateway.Answered courier (visit _ _) ⟨302, by decide⟩ (Text.Utf8.encode " \n") :=
    answers _ _ (mt Attempt.isRetryable_iff.2 (by decide +kernel))
  have missing : gateway.Answered courier (visit _ _) .notFound (List.replicate 4194305 0x20) :=
    answers _ _ (by rw [Attempt.ofAnswer_of_long long]; simp [Attempt.Spared])
  have taken := (respond_answered plain refused).1 (by decide +kernel)
  have found := (respond_answered plain moved).1 (by decide +kernel)
  have failed := (respond_answered plain missing).2 long
  exact ⟨gateway, courier, _, _, _, plain, refused, moved, missing,
    taken.details (by decide) _ (.told parsed tells), taken.code (by decide),
    found.details (by decide) _ (.named silent (by decide +kernel) (by decide +kernel)),
    found.code (by decide), failed.1⟩

/-- A gateway is faithful neither to a failure nor to a success of the backend if the body is one
octet too long: it answers both with 500. -/
theorem not_faithful_of_oversized :
    ∃ (gateway : Gateway Command) (courier : Courier) (missing done : Visit),
      gateway.settings.redact = false ∧
      gateway.Answered courier missing .notFound (List.replicate 4194305 0x20) ∧
      (gateway.respond courier missing).status.code = 500 ∧
      ¬ gateway.Faithful courier missing .notFound (List.replicate 4194305 0x20) ∧
      gateway.Answered courier done .ok (List.replicate 4194305 0x20) ∧
      (gateway.respond courier done).status.code = 500 ∧
      ¬ gateway.Faithful courier done .ok (List.replicate 4194305 0x20) := by
  obtain ⟨gateway, courier, visit, plain, answers⟩ := exists_answered
  let body : List UInt8 := List.replicate 4194305 0x20
  have long : 4194304 < body.length := by
    rw [List.length_replicate]
    omega
  have answered (status : Status) : gateway.Answered courier (visit status body) status body :=
    answers _ _ (by rw [Attempt.ofAnswer_of_long long]; simp [Attempt.Spared])
  have failed (status : Status) :
      (gateway.respond courier (visit status body)).status = .internalServerError := by
    rw [(answered status).respond_of_long plain long]
    rfl
  refine ⟨gateway, courier, visit .notFound body, visit .ok body, plain, answered _,
    congrArg Status.code (failed _), fun faithful => ?_, answered _, congrArg Status.code (failed _),
    fun faithful => ?_⟩
  · have kept := faithful.code (by decide)
    rw [failed] at kept
    revert kept
    decide
  · obtain ⟨succeeded, -⟩ := faithful.success (by decide)
    rw [failed] at succeeded
    cases succeeded

end Gateway

end HttpGateway

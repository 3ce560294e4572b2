import HttpGateway.Proofs.Gateway.Declared
import HttpGateway.Proofs.Gateway.Visit

/-!
# What a failure tells

A failure is of a kind or of none in particular, and a gateway may withhold the messages of the
latter. `Attempt.Unclassified` says which attempts at the backend end in such a failure. While
messages are withheld the response to all of them is one and the same, whatever the backend said and
however it failed; every other failure is answered with exactly its message
(`Gateway.redacted_noninterference`).
-/

namespace HttpGateway

/-- A status tells of success exactly when its code begins with a two. -/
theorem Status.isSuccess_iff {status : Status} :
    status.isSuccess = true ↔ 200 ≤ status.code ∧ status.code < 300 := by
  simp [isSuccess]

/-! ## Failures of no particular kind -/

namespace Attempt

/-- An attempt ends in a failure of no particular kind: the backend was not reached, the exchange
broke off, there was no answer in time, or the answer has a status that is neither a success nor
stands for a kind of failure. -/
inductive Unclassified : Attempt → Prop
  /-- The backend was not reached. -/
  | unreachable (cause : String) : Unclassified (.unreachable cause)
  /-- The exchange broke off. -/
  | broken (cause : String) : Unclassified (.broken cause)
  /-- There was no answer in time. -/
  | timedOut : Unclassified .timedOut
  /-- The status is neither a success nor one of those that stand for a kind. -/
  | answered {status : Status} (body : List UInt8)
      (refused : ¬ (200 ≤ status.code ∧ status.code < 300))
      (other : status.code ∉ [400, 401, 403, 404, 409, 422]) : Unclassified (.answered status body)

variable {attempt : Attempt} {status : Status}

/-- The kind of failure that a status stands for, by its code. -/
theorem failureKind_eq_ite (status : Status) : failureKind status =
    if status.code = 400 ∨ status.code = 422 then .validation
    else if status.code = 401 then .unauthorized
    else if status.code = 403 then .forbidden
    else if status.code = 404 then .notFound
    else if status.code = 409 then .conflict
    else .other := by
  have code : ∀ known : Status, status = known ↔ status.code = known.code := fun _ => Status.ext_iff
  simp only [failureKind, code]
  rfl

/-- A status stands for no kind of failure exactly when it is none of six. -/
theorem failureKind_eq_other_iff :
    failureKind status = .other ↔ status.code ∉ [400, 401, 403, 404, 409, 422] := by
  rw [failureKind_eq_ite]
  simp only [List.mem_cons, List.not_mem_nil, or_false]
  repeat' split
  all_goals
    simp only [reduceCtorEq, false_iff, true_iff]
    omega

/-- An attempt is unclassified exactly when its result is a failure of no particular kind. -/
theorem unclassified_iff :
    attempt.Unclassified ↔ ∃ message, attempt.result = .error ⟨.other, message⟩ := by
  cases attempt with
  | unreachable cause => exact ⟨fun _ => ⟨_, rfl⟩, fun _ => .unreachable cause⟩
  | broken cause => exact ⟨fun _ => ⟨_, rfl⟩, fun _ => .broken cause⟩
  | timedOut => exact ⟨fun _ => ⟨_, rfl⟩, fun _ => .timedOut⟩
  | answered status body =>
    constructor
    · rintro (_ | _ | _ | ⟨_, refused, other⟩)
      have kind := failureKind_eq_other_iff.2 other
      refine ⟨message status body, ?_⟩
      rw [result, classify, if_neg (mt Status.isSuccess_iff.1 refused), kind]
    · rintro ⟨words, failed⟩
      rw [result, classify] at failed
      split at failed
      · cases failed
      · next refused =>
        simp only [Except.error.injEq, Failure.mk.injEq] at failed
        exact .answered body (mt Status.isSuccess_iff.2 refused)
          (failureKind_eq_other_iff.1 failed.1)

end Attempt

/-! ## Responses to failures -/

/-- The response to a failure of a kind that gives some details: an object with the heading of the
kind and the details. -/
def Response.ofDetails (kind : FailureKind) (details : String) : Response :=
  ⟨kind.status, ⟨[(.contentType, Reply.jsonType)]⟩, (Json.ofMembers
    [("error", .string kind.heading), ("details", .string details)]).text⟩

/-- The details of a failure are its message, unless it is of no particular kind and messages are
withheld. -/
theorem Reply.response_ofFailure (failure : Failure) (redact : Bool) :
    (Reply.ofFailure failure redact).response = .ofDetails failure.kind
      (if failure.kind = .other ∧ redact = true then "internal error" else failure.message) := by
  have details : (if failure.kind == .other && redact then redacted else failure.message) =
      if failure.kind = .other ∧ redact = true then "internal error" else failure.message := by
    simp only [Bool.and_eq_true, beq_iff_eq]
    rfl
  rw [ofFailure, details]
  rfl

namespace Gateway

variable {gateway : Gateway Command} {courier : Courier} {visit : Visit}

/-- The request of a visit was routed and allowed and a command was built for it, and sending the
command ends with an attempt. -/
def Ends (gateway : Gateway Command) (courier : Courier) (visit : Visit) (attempt : Attempt) :
    Prop :=
  ∃ found context command, gateway.Routed visit.request found context ∧
    Access.authorize gateway.registry context found.route.requirement = .ok () ∧
    found.route.build context = .ok command ∧ courier.EndsWith visit.script attempt

/-- When sending a command ends with an attempt, the response is made of its result. -/
theorem Routed.respond {found : Match Command} {context : Context} {command : Command}
    {attempt : Attempt} (routed : gateway.Routed visit.request found context)
    (allowed : Access.authorize gateway.registry context found.route.requirement = .ok ())
    (made : found.route.build context = .ok command)
    (last : courier.EndsWith visit.script attempt) :
    gateway.respond courier visit = (gateway.resultReply found.route attempt.result).response := by
  have verdict := routed.verdict_send allowed made
  obtain ⟨more, stops, met⟩ : ∃ more, IsLeast (courier.Stops visit.script 0) (more + 1) ∧
    gateway.meet courier visit = _ := meet_of_verdict_send verdict
  unfold Gateway.respond
  rw [met, ← last.unique ⟨_, stops, rfl⟩]
  rfl

/-- The request of a visit was routed and allowed, and then failed: no command could be built for
it, or the attempt with which sending the command ends has the failure as its result. -/
inductive Fails (gateway : Gateway Command) (courier : Courier) (visit : Visit) : Failure → Prop
  /-- No command could be built. -/
  | building {found : Match Command} {context : Context} {failure : Failure}
      (routed : gateway.Routed visit.request found context)
      (allowed : Access.authorize gateway.registry context found.route.requirement = .ok ())
      (failed : found.route.build context = .error failure) : Fails gateway courier visit failure
  /-- The command was sent without success. -/
  | sending {attempt : Attempt} {failure : Failure} (ends : gateway.Ends courier visit attempt)
      (failed : attempt.result = .error failure) : Fails gateway courier visit failure

/-- A visit whose request fails has the response to the failure. -/
theorem Fails.respond {failure : Failure} (fails : gateway.Fails courier visit failure) :
    gateway.respond courier visit =
      (Reply.ofFailure failure gateway.settings.redact).response := by
  cases fails with
  | building routed allowed failed =>
    unfold Gateway.respond
    rw [meet_of_verdict_failed (routed.verdict_failed allowed failed)]
    rfl
  | sending ends failed =>
    obtain ⟨found, context, command, routed, allowed, made, last⟩ := ends
    rw [routed.respond allowed made last, failed]
    rfl

/-- Some gateway that withholds messages or does not has a visit for every attempt after which there
is no other. -/
theorem exists_ends (redact : Bool) : ∃ (gateway : Gateway Command) (courier : Courier)
    (visit : Attempt → Visit), gateway.settings.redact = redact ∧
      (∀ attempt, (visit attempt).script = fun _ => attempt) ∧
      ∀ attempt, ¬ attempt.Spared → gateway.Ends courier (visit attempt) attempt := by
  let configured : RouteConfig :=
    ⟨"POST", "/items", "items.create", .ok, true, [], [], ∅, none, ∅⟩
  have forAll : configured.allowAnonymous = true := rfl
  obtain ⟨given, request, found, context, command, -, routed, -, allowed, made⟩ :=
    exists_dispatched rfl rfl forAll
  let gateway : Gateway Command :=
    { given with settings := { given.settings with redact := redact } }
  have again : gateway.Routed request found context :=
    ⟨routed.live, routed.matched, routed.method, routed.path, routed.parameters, routed.query,
      routed.headers, routed.body, routed.claims⟩
  let courier : Courier := ⟨⟨some (Uri.ascii "http"), Uri.ascii "backend", [], none⟩,
    ⟨true, 3, 100, 1000⟩⟩
  let visit : Attempt → Visit := fun attempt =>
    ⟨request, ⟨2026, 1, 1, 0, 0, 0, 0⟩, fun _ => 0, fun _ => attempt⟩
  exact ⟨gateway, courier, visit, rfl, fun _ => rfl, fun attempt acted =>
    ⟨found, context, command, again, allowed, made, courier.endsWith_first acted⟩⟩

/-- Take a gateway and a courier. While messages are withheld, two visits whose commands are sent
and end with unclassified attempts have one response, of status 500 and with a body that tells
nothing of the attempts, however different these are. A request that was routed and allowed and then
failed has a response with the status and the heading of the kind of the failure; the details are
exactly its message if messages are not withheld or the failure is of a kind, and otherwise say
nothing. An attempt whose result is a failure is unclassified exactly when the failure is of no
particular kind, and no unclassified attempt has another result. -/
theorem redacted_noninterference (gateway : Gateway Command) (courier : Courier) :
    (gateway.settings.redact = true → ∀ first second attempt other,
      gateway.Ends courier first attempt → attempt.Unclassified →
      gateway.Ends courier second other → other.Unclassified →
        gateway.respond courier first = gateway.respond courier second ∧
        (gateway.respond courier first).status.code = 500 ∧
        (gateway.respond courier first).body =
          "\x7b\"details\":\"internal error\",\"error\":\"Internal server error\"\x7d") ∧
    (∀ visit failure, gateway.Fails courier visit failure →
      (gateway.settings.redact = false ∨ failure.kind ≠ .other →
        gateway.respond courier visit = .ofDetails failure.kind failure.message) ∧
      (gateway.settings.redact = true → failure.kind = .other →
        gateway.respond courier visit = .ofDetails .other "internal error")) ∧
    (∀ visit attempt, gateway.Ends courier visit attempt →
      ∀ failure, attempt.result = .error failure → gateway.Fails courier visit failure) ∧
    (∀ attempt : Attempt, (∀ failure, attempt.result = .error failure →
        (failure.kind = .other ↔ attempt.Unclassified)) ∧
      (attempt.Unclassified → ∃ failure, attempt.result = .error failure)) := by
  have withheld : gateway.settings.redact = true → ∀ visit failure,
      gateway.Fails courier visit failure → failure.kind = .other →
      gateway.respond courier visit = .ofDetails .other "internal error" := by
    intro redact visit failure fails kind
    rw [fails.respond, Reply.response_ofFailure, if_pos ⟨kind, redact⟩, kind]
  refine ⟨fun redact first second attempt other ends unclassified endsOther unclassifiedOther => ?_,
    fun visit failure fails => ⟨fun told => ?_, fun redact => withheld redact visit failure fails⟩,
    fun visit attempt ends failure failed => .sending ends failed, fun attempt => ⟨?_, ?_⟩⟩
  · obtain ⟨words, failed⟩ := Attempt.unclassified_iff.1 unclassified
    obtain ⟨otherWords, failedOther⟩ := Attempt.unclassified_iff.1 unclassifiedOther
    rw [withheld redact first _ (.sending ends failed) rfl,
      withheld redact second _ (.sending endsOther failedOther) rfl]
    exact ⟨rfl, rfl, by decide +kernel⟩
  · have shown : ¬ (failure.kind = .other ∧ gateway.settings.redact = true) := by
      rintro ⟨kind, redact⟩
      rcases told with off | classified
      · rw [redact] at off
        cases off
      · exact classified kind
    rw [fails.respond, Reply.response_ofFailure, if_neg shown]
  · intro failure failed
    rw [Attempt.unclassified_iff, failed]
    constructor
    · intro kind
      exact ⟨failure.message, by rw [← kind]⟩
    · rintro ⟨words, same⟩
      rw [Except.error.inj same]
  · intro unclassified
    obtain ⟨words, failed⟩ := Attempt.unclassified_iff.1 unclassified
    exact ⟨_, failed⟩

/-- A backend that does not answer in time and one that tells a secret with a 500 have one
response. -/
theorem redacted_noninterference_secret :
    ∃ (gateway : Gateway Command) (courier : Courier) (first second : Visit),
      gateway.settings.redact = true ∧ gateway.Ends courier first .timedOut ∧
      gateway.Ends courier second
        (.answered .internalServerError (Text.Utf8.encode "db password is hunter2")) ∧
      gateway.respond courier first = gateway.respond courier second ∧
      (gateway.respond courier second).body =
        "\x7b\"details\":\"internal error\",\"error\":\"Internal server error\"\x7d" := by
  obtain ⟨gateway, courier, visit, redact, -, ends⟩ := exists_ends true
  let refusal : Attempt :=
    .answered .internalServerError (Text.Utf8.encode "db password is hunter2")
  have late : gateway.Ends courier (visit .timedOut) .timedOut :=
    ends _ (by simp [Attempt.Spared])
  have told : gateway.Ends courier (visit refusal) refusal :=
    ends _ (mt Attempt.isRetryable_iff.2 (by decide +kernel))
  have refused : refusal.Unclassified := .answered _ (by decide) (by decide)
  obtain ⟨withheld, -⟩ := redacted_noninterference gateway courier
  obtain ⟨same, -, -⟩ := withheld redact _ _ _ _ late .timedOut told refused
  obtain ⟨-, -, body⟩ := withheld redact _ _ _ _ told refused late .timedOut
  exact ⟨gateway, courier, visit .timedOut, visit refusal, redact, late, told, same, body⟩

end Gateway

end HttpGateway

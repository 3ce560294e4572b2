import HttpGateway.Proofs.Gateway.Payload
import Mathlib.Order.Bounds.Basic

/-!
# Visits

A visit is a request at a time, together with what the courier of the gateway meets while the
request is handled. `Gateway.meet` carries a visit out and keeps the courier's journal. A request
for which a command is sent is answered by the attempt with which sending ends
(`Gateway.meet_of_verdict_send`); for every other request the courier does nothing.
-/

namespace HttpGateway

/-- A request at a time, and what the courier meets while it is handled: the words that are drawn
and what becomes of the attempts, which are numbered from one. -/
structure Visit where
  /-- The request. -/
  request : Request
  /-- The time. -/
  now : Timestamp
  /-- The word that is drawn after an attempt. -/
  draws : Nat → UInt64
  /-- What becomes of an attempt. -/
  script : Nat → Attempt

/-- Sending on a script ends with an attempt: it is the first that uses up the attempts or allows no
other. -/
def Courier.EndsWith (courier : Courier) (script : Nat → Attempt) (attempt : Attempt) : Prop :=
  ∃ last, IsLeast (courier.Stops script 0) last ∧ script last = attempt

/-- Sending on a script ends with one attempt. -/
theorem Courier.EndsWith.unique {courier : Courier} {script : Nat → Attempt}
    {attempt other : Attempt} (ends : courier.EndsWith script attempt)
    (also : courier.EndsWith script other) : attempt = other := by
  obtain ⟨last, stops, rfl⟩ := ends
  obtain ⟨again, least, rfl⟩ := also
  rw [stops.unique least]

/-- Sending on a script ends with the first attempt if that allows no other. -/
theorem Courier.endsWith_first (courier : Courier) {script : Nat → Attempt}
    (acted : ¬ (script 1).Spared) : courier.EndsWith script (script 1) :=
  ⟨1, courier.isLeast_stops_of_not_again script
    (UInt32.lt_iff_toNat_lt.1 courier.retries.attemptLimit_pos) fun more => acted more.2, rfl⟩

namespace Gateway

variable {gateway : Gateway Command} {courier : Courier} {visit : Visit} {route : Route Command}

/-- What becomes of a visit: the outcome, and what the courier did. -/
def meet (gateway : Gateway Command) (courier : Courier) (visit : Visit) : Outcome × Journal :=
  (gateway.handle (courier.sender visit.draws visit.script) visit.now visit.request).run .blank

/-- The response to a visit. -/
def respond (gateway : Gateway Command) (courier : Courier) (visit : Visit) : Response :=
  (gateway.meet courier visit).1.reply.response

/-- A visit from whose request no command can be built is answered with the failure, and the courier
does nothing. -/
theorem meet_of_verdict_failed {failure : Failure}
    (verdict : gateway.verdict visit.request = .failed route failure) :
    gateway.meet courier visit =
      (outcome visit.request route.template.raw []
        (.ofFailure failure gateway.settings.redact), .blank) := by
  unfold meet handle
  rw [verdict]
  rfl

/-- A visit for whose request a command is sent is answered by the result of the attempt with which
sending ends; every attempt before it is followed by a retry that is counted, and the courier keeps
the course up to it. -/
theorem meet_of_verdict_send {command : Command}
    (verdict : gateway.verdict visit.request = .send route command) : ∃ more,
    IsLeast (courier.Stops visit.script 0) (more + 1) ∧
    gateway.meet courier visit =
      (outcome visit.request route.template.raw (List.replicate more (.retry command.name))
        (gateway.resultReply route (visit.script (more + 1)).result),
        ⟨courier.course visit.draws command 1 (more + 1)⟩) := by
  obtain ⟨more, stops, run⟩ := courier.run_sender visit.draws visit.script command
  refine ⟨more, stops, ?_⟩
  unfold meet handle
  rw [verdict]
  dsimp only
  rw [StateT.run_bind, run]
  rfl

end Gateway

end HttpGateway

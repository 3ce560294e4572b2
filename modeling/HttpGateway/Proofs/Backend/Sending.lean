import HttpGateway.Backend.Courier
import Mathlib.Order.Bounds.Defs

/-!
# How often a command is sent

Sending stops at the first attempt that the backend may have acted on, and at the latest when the
attempts are used up. `Attempt.Spared` says which outcomes allow another attempt,
`Courier.course` what a courier does up to its last attempt, and `send_scripted` that it does
exactly this on every script of outcomes, however long, and that the last attempt alone gives the
result.
-/

namespace HttpGateway

namespace Attempt

/-- The backend cannot have acted on the command: it was not reached, or it answered with 502 or
503. -/
def Spared (attempt : Attempt) : Prop :=
  (∃ cause, attempt = .unreachable cause) ∨
    ∃ status body, attempt = .answered status body ∧ (status.code = 502 ∨ status.code = 503)

/-- Another attempt may follow exactly when the backend cannot have acted on the command. -/
theorem isRetryable_iff {attempt : Attempt} : attempt.isRetryable = true ↔ attempt.Spared := by
  cases attempt with
  | unreachable cause => simp [isRetryable, mayRepeat, Spared]
  | broken cause => simp [isRetryable, mayRepeat, Spared]
  | timedOut => simp [isRetryable, mayRepeat, Spared]
  | answered status body =>
    have gateway : status = .badGateway ↔ status.code = 502 := Status.ext_iff
    have service : status = .serviceUnavailable ↔ status.code = 503 := Status.ext_iff
    simp [isRetryable, mayRepeat, Spared, gateway, service]

end Attempt

namespace Line

variable {α : Type} (draws : Nat → UInt64) (script : Nat → Attempt) (journal : Journal)

/-- A post is kept in the journal and meets what is written down for its number. -/
theorem run_post_bind (place : Uri) (payload : String) (next : Attempt → StateM Journal α) :
    ((scripted draws script).post place payload >>= next).run journal =
      (next (script (journal.posts.length + 1))).run (journal.add (.posted place payload)) := by
  have length : (journal.add (.posted place payload)).posts.length = journal.posts.length + 1 := by
    simp
  rw [← length]
  rfl

/-- The word that is drawn is the one for the attempts made so far. -/
theorem run_draw_bind (next : UInt64 → StateM Journal α) :
    ((scripted draws script).draw >>= next).run journal =
      (next (draws journal.posts.length)).run journal := rfl

/-- An event that is counted is kept in the journal. -/
theorem run_count_bind (event : Event) (next : Unit → StateM Journal α) :
    ((scripted draws script).count event >>= next).run journal =
      (next ()).run (journal.add (.counted event)) := rfl

/-- A delay is kept in the journal. -/
theorem run_wait_bind (delay : UInt64) (next : Unit → StateM Journal α) :
    ((scripted draws script).wait delay >>= next).run journal =
      (next ()).run (journal.add (.waited delay)) := rfl

end Line

namespace Courier

variable (courier : Courier) (draws : Nat → UInt64) (script : Nat → Attempt) (command : Command)

/-- The delay after the attempt with a number. -/
def delayAfter (number : Nat) : UInt64 :=
  courier.retries.backoff.delay (.ofNat number) (draws number)

/-- What a courier does between the attempt with a number and the next, which it makes. -/
def again (number : Nat) : List Deed :=
  [.counted (.retry command.name), .waited (courier.delayAfter draws number),
    .posted courier.endpoint command.payload]

/-- What a courier does from the attempt with the number `first` to that with the number `last`. -/
def course (first last : Nat) : List Deed :=
  .posted courier.endpoint command.payload ::
    (List.range' first (last - first)).flatMap (courier.again draws command)

/-- One more attempt: it is posted, and either it gives the result or a retry is counted, the delay
is waited for and sending goes on. -/
theorem sendAfter_run (made : courier.retries.Made) (journal : Journal)
    (numbered : journal.posts.length = made.val.toNat) :
    (courier.sendAfter (.scripted draws script) command.name command.payload made).run journal =
      if again : made.next < courier.retries.attemptLimit ∧
          (script made.next.toNat).isRetryable = true then
        (courier.sendAfter (.scripted draws script) command.name command.payload
          ⟨made.next, again.1⟩).run (((journal.add (.posted courier.endpoint command.payload)).add
            (.counted (.retry command.name))).add
              (.waited (courier.delayAfter draws made.next.toNat)))
      else ((script made.next.toNat).result,
        journal.add (.posted courier.endpoint command.payload)) := by
  have number : journal.posts.length + 1 = made.next.toNat := by
    rw [made.toNat_next, numbered]
  have counter : UInt32.ofNat made.next.toNat = made.next := UInt32.ofNat_toNat
  rw [sendAfter, Line.run_post_bind, number]
  by_cases again : made.next < courier.retries.attemptLimit ∧
      (script made.next.toNat).isRetryable = true
  · have drawn : (journal.add (.posted courier.endpoint command.payload)).posts.length =
        made.next.toNat := by
      simp [number]
    rw [dif_pos again, dif_pos again, Line.run_draw_bind, Line.run_count_bind,
      Line.run_wait_bind, drawn, delayAfter, counter]
  · rw [dif_neg again, dif_neg again]
    rfl

/-- A course goes on after the first attempt with a retry. -/
theorem course_succ {first last : Nat} (more : first < last) :
    courier.course draws command first last =
      .posted courier.endpoint command.payload :: .counted (.retry command.name) ::
        .waited (courier.delayAfter draws first) ::
          courier.course draws command (first + 1) last := by
  have rest : last - first = last - (first + 1) + 1 := by omega
  rw [course, rest, List.range'_succ, List.flatMap_cons]
  rfl

/-- A course of one attempt. -/
theorem course_self (number : Nat) :
    courier.course draws command number number =
      [.posted courier.endpoint command.payload] := by
  simp [course]

/-- The attempts at which sending may stop after some are made: that which uses up the attempts,
and those whose outcome allows no other. -/
def Stops (made : Nat) : Set Nat :=
  { number | made < number ∧
    (number = courier.retries.attemptLimit.toNat ∨ ¬ (script number).Spared) }

/-- When the next attempt allows another, sending stops where it stops after that attempt. -/
theorem isLeast_stops_of_again {made last : Nat}
    (below : made + 1 < courier.retries.attemptLimit.toNat) (spared : (script (made + 1)).Spared)
    (stops : IsLeast (courier.Stops script (made + 1)) last) :
    IsLeast (courier.Stops script made) last := by
  obtain ⟨⟨after, stop⟩, least⟩ := stops
  refine ⟨⟨by omega, stop⟩, ?_⟩
  rintro other ⟨later, stop⟩
  by_cases same : other = made + 1
  · subst same
    rcases stop with limit | acted
    · omega
    · exact absurd spared acted
  · exact least ⟨by omega, stop⟩

/-- When the next attempt allows no other, sending stops there. -/
theorem isLeast_stops_of_not_again {made : Nat} (room : made < courier.retries.attemptLimit.toNat)
    (stop : ¬ (made + 1 < courier.retries.attemptLimit.toNat ∧ (script (made + 1)).Spared)) :
    IsLeast (courier.Stops script made) (made + 1) := by
  refine ⟨⟨by omega, ?_⟩, fun other later => later.1⟩
  by_cases limit : made + 1 = courier.retries.attemptLimit.toNat
  · exact .inl limit
  · exact .inr fun spared => stop ⟨by omega, spared⟩

/-- After some attempts, sending goes on to the first attempt at which it may stop, does exactly
what leads there, and has the result of that attempt. -/
theorem sendAfter_scripted (made : courier.retries.Made) (journal : Journal)
    (numbered : journal.posts.length = made.val.toNat) :
    ∃ last, IsLeast (courier.Stops script made.val.toNat) last ∧
      (courier.sendAfter (.scripted draws script) command.name command.payload made).run journal =
        ((script last).result,
          ⟨journal.deeds ++ courier.course draws command made.next.toNat last⟩) := by
  -- The number of attempts still to come decreases with each attempt.
  generalize left : courier.retries.attemptLimit.toNat - made.val.toNat = n
  have room := UInt32.lt_iff_toNat_lt.1 made.2
  have next := made.toNat_next
  induction n generalizing made journal with
  | zero => omega
  | succ n ih =>
    rw [sendAfter_run courier draws script command made journal numbered]
    by_cases again : made.next < courier.retries.attemptLimit ∧
        (script made.next.toNat).isRetryable = true
    · have below := UInt32.lt_iff_toNat_lt.1 again.1
      have spared := Attempt.isRetryable_iff.1 again.2
      let further : courier.retries.Made := ⟨made.next, again.1⟩
      obtain ⟨last, stops, run⟩ := ih further
        (((journal.add (.posted courier.endpoint command.payload)).add
          (.counted (.retry command.name))).add
            (.waited (courier.delayAfter draws made.next.toNat)))
        (by simp [further, next, numbered]) (by simp only [further]; omega) below
        further.toNat_next
      have after : made.next.toNat < last := stops.1.1
      rw [dif_pos again]
      refine ⟨last, ?_, ?_⟩
      · rw [next] at below spared
        exact courier.isLeast_stops_of_again script below spared (next ▸ stops)
      · have course := courier.course_succ draws command after
        rw [run, course, further.toNat_next]
        simp [Journal.add, further]
    · rw [dif_neg again]
      refine ⟨made.next.toNat, ?_, ?_⟩
      · rw [next]
        refine courier.isLeast_stops_of_not_again script room fun more => again ?_
        rw [← next] at more
        exact ⟨UInt32.lt_iff_toNat_lt.2 more.1, Attempt.isRetryable_iff.2 more.2⟩
      · rw [course_self]
        rfl

/-! ## What a course shows -/

/-- Every attempt of a course posts the same payload to the same place. -/
theorem posts_course (more : Nat) :
    Journal.posts ⟨courier.course draws command 1 (more + 1)⟩ =
      List.replicate (more + 1) (courier.endpoint, command.payload) := by
  simp [Journal.posts, course, List.filterMap_flatMap, again, List.replicate_succ,
    ← List.map_eq_flatMap, List.map_const']

/-- Every attempt of a course but the first counts a retry of the command. -/
theorem events_course (more : Nat) :
    Journal.events ⟨courier.course draws command 1 (more + 1)⟩ =
      List.replicate more (.retry command.name) := by
  simp [Journal.events, course, List.filterMap_flatMap, again, ← List.map_eq_flatMap,
    List.map_const']

/-- Between two attempts of a course the delay after the earlier one is waited for. -/
theorem delays_course (more : Nat) :
    Journal.delays ⟨courier.course draws command 1 (more + 1)⟩ =
      (List.range' 1 more).map (courier.delayAfter draws) := by
  simp [Journal.delays, course, List.filterMap_flatMap, again, ← List.map_eq_flatMap]

/-- For every courier, every script of outcomes and every command, sending ends with the attempt
`last`, the first that uses up the attempts or whose outcome is neither a failure to connect nor a
502 or 503. No attempt is made after one that the backend may have acted on; every attempt posts
the payload of the command to the endpoint; every attempt but the first counts one retry of the
command, before the delay that the schedule gives for the number of attempts made, which always fits
its word; and the result is that of the last outcome alone, which is also what is delivered. -/
theorem send_scripted (courier : Courier) (draws : Nat → UInt64) (script : Nat → Attempt)
    (command : Command) :
    ∃ last, IsLeast { number | 1 ≤ number ∧
        (number = (if courier.retries.enabled then max 1 courier.retries.maxAttempts.toNat else 1) ∨
          ¬ (script number).Spared) } last ∧
      (∀ number, 1 ≤ number → number < last → (script number).Spared) ∧
      last < UInt32.size ∧
      (∃ journal, (courier.send (.scripted draws script) command).run .blank =
          ((script last).result, journal) ∧
        journal.deeds = .posted courier.endpoint command.payload ::
          (List.range' 1 (last - 1)).flatMap (fun number =>
            [.counted (.retry command.name),
              .waited (courier.retries.backoff.delay (.ofNat number) (draws number)),
              .posted courier.endpoint command.payload]) ∧
        journal.posts = List.replicate last (courier.endpoint, command.payload) ∧
        journal.events = List.replicate (last - 1) (.retry command.name) ∧
        journal.delays = (List.range' 1 (last - 1)).map fun number =>
          courier.retries.backoff.delay (.ofNat number) (draws number)) ∧
      courier.deliver draws script command =
        ⟨(script last).result, List.replicate (last - 1) (.retry command.name)⟩ := by
  obtain ⟨last, stops, run⟩ := courier.sendAfter_scripted draws script command
    (.none courier.retries) .blank rfl
  replace run : (courier.send (.scripted draws script) command).run .blank =
      ((script last).result, ⟨courier.course draws command 1 last⟩) := run
  have inLimit : last ≤ courier.retries.attemptLimit.toNat :=
    stops.2 ⟨UInt32.lt_iff_toNat_lt.1 courier.retries.attemptLimit_pos, .inl rfl⟩
  have word : courier.retries.attemptLimit.toNat < UInt32.size :=
    courier.retries.attemptLimit.toNat_lt
  obtain ⟨more, rfl⟩ : ∃ more, last = more + 1 := Nat.exists_eq_add_one.2 stops.1.1
  have events := courier.events_course draws command more
  refine ⟨more + 1, ?_, fun number first earlier => ?_, by omega,
    ⟨_, run, rfl, courier.posts_course draws command more, events,
      courier.delays_course draws command more⟩, ?_⟩
  · rw [← Retries.attemptLimit_toNat]
    exact stops
  · refine Classical.byContradiction fun acted => ?_
    have stop := stops.2 ⟨first, .inr acted⟩
    omega
  · simp only [deliver, run, events, Nat.add_sub_cancel]

end Courier

end HttpGateway

import HttpGateway.Proofs.Gateway.Noninterference
import HttpGateway.Proofs.Gateway.Visit
import HttpGateway.Proofs.Metrics

/-!
# Accounting for visits

The metrics of a gateway are those of the events of its visits, one visit after the other
(`Gateway.accounts`). Every visit ends with the event of its request, whichever way it goes; before
that it counts its denial if it is denied, and a retry for every attempt but the first if a command
is sent (`Gateway.events_meet`). So the metrics can be told from the requests and the attempts
alone (`Gateway.accounts_balance`).
-/

namespace HttpGateway

/-- A response has the status of its reply. -/
theorem Reply.status_response (reply : Reply) : reply.response.status = reply.status := by
  unfold response
  cases reply.body <;> rfl

/-- The label under which the metrics count a verdict. -/
def Verdict.label {κ : Type} : Verdict κ → String
  | .health => "health"
  | .unrouted => "none"
  | .denied route _ _ => route.template.raw
  | .failed route _ => route.template.raw
  | .send route _ => route.template.raw

/-- How a denial is answered, if the verdict is one. -/
def Verdict.denied? {κ : Type} : Verdict κ → Option DenialOutcome
  | .denied _ outcome _ => some outcome
  | _ => none

namespace Gateway

variable {gateway : Gateway Command} {courier : Courier} {visit : Visit} {request : Request}
  {name : String}

/-! ## What is counted about a request -/

/-- The label of a request among the metrics: that of health checks, that of requests which no route
fits, or the template of the route as it was written. -/
def label (gateway : Gateway Command) (request : Request) : String :=
  if isHealthPath (gateway.path request) then "health"
  else
    match gateway.table.match? (normalizeMethod request.method) (gateway.path request) with
    | none => "none"
    | some found => found.route.template.raw

/-- The label of a request is that of its verdict. -/
theorem label_eq (gateway : Gateway Command) (request : Request) :
    gateway.label request = (gateway.verdict request).label := by
  have judged := gateway.judged_verdict request
  generalize gateway.verdict request = verdict at judged
  cases judged with
  | health health => exact if_pos health
  | unrouted live unmatched =>
    rw [label, live, unmatched]
    rfl
  | denied routed _ | failed routed _ _ | send routed _ _ =>
    rw [label, routed.live, routed.matched]
    rfl

/-- There are no labels but those that the table fixes. -/
theorem label_mem (gateway : Gateway Command) (request : Request) :
    gateway.label request ∈ "health" :: "none" :: gateway.table.routes.map (·.template.raw) := by
  unfold label
  split
  · exact List.mem_cons_self
  · split
    · exact List.mem_cons_of_mem _ List.mem_cons_self
    · next found matched =>
      have there : found.route.template.raw ∈ gateway.table.routes.map (·.template.raw) :=
        List.mem_map_of_mem (Table.mem_routes_of_match? matched)
      exact List.mem_cons_of_mem _ (List.mem_cons_of_mem _ there)

/-- Authorization denies a request. -/
def Denied (gateway : Gateway Command) (request : Request) : Prop :=
  ∃ denial, gateway.Denies request denial

/-- How the denial of a request is answered is told by whether its caller has claims. -/
theorem denied?_verdict_eq_some_iff {outcome : DenialOutcome} :
    (gateway.verdict request).denied? = some outcome ↔ gateway.Denied request ∧
      outcome = if request.identity.claims = ∅ then .unauthenticated else .forbidden := by
  constructor
  · intro denied
    have judged := gateway.judged_verdict request
    generalize gateway.verdict request = verdict at judged denied
    cases judged with
    | denied routed refused =>
      refine ⟨⟨_, _, _, routed, refused⟩, ?_⟩
      have answer := Option.some.inj denied
      simp only [Dict.isEmpty_iff, routed.claims] at answer
      exact answer.symm
    | _ => cases denied
  · rintro ⟨⟨denial, found, context, routed, refused⟩, rfl⟩
    rw [routed.verdict_denied refused, routed.claims]
    simp only [Dict.isEmpty_iff, Verdict.denied?]

/-- Authorization denies a request exactly when the verdict is a denial. -/
theorem denied_iff :
    gateway.Denied request ↔ (gateway.verdict request).denied?.isSome = true := by
  rw [Option.isSome_iff_exists]
  simp only [denied?_verdict_eq_some_iff]
  exact ⟨fun denied => ⟨_, denied, rfl⟩, fun ⟨_, denied, _⟩ => denied⟩

instance : Decidable (gateway.Denied request) := decidable_of_iff _ denied_iff.symm

/-- The verdict is a denial exactly if authorization denies the request. -/
theorem denied?_verdict (gateway : Gateway Command) (request : Request) :
    (gateway.verdict request).denied? =
      if gateway.Denied request then
        some (if request.identity.claims = ∅ then .unauthenticated else .forbidden)
      else none := by
  by_cases denied : gateway.Denied request
  · rw [if_pos denied]
    exact denied?_verdict_eq_some_iff.2 ⟨denied, rfl⟩
  · rw [if_neg denied]
    exact Option.not_isSome_iff_eq_none.1 (mt denied_iff.2 denied)

/-- A command of a name is sent for a request. -/
def Dispatches (gateway : Gateway Command) (name : String) (request : Request) : Prop :=
  ∃ command, gateway.Sends request [command] ∧ command.name = name

/-- A command of a name is sent exactly when it is that of the verdict. -/
theorem dispatches_iff : gateway.Dispatches name request ↔
    (gateway.verdict request).commands.map Command.name = [name] := by
  unfold Dispatches
  simp only [sends_iff]
  constructor
  · rintro ⟨command, sent, rfl⟩
    rw [sent]
    rfl
  · intro named
    obtain ⟨command, sent, same⟩ := List.map_eq_singleton_iff.1 named
    exact ⟨command, sent, same⟩

instance : Decidable (gateway.Dispatches name request) := decidable_of_iff _ dispatches_iff.symm

/-! ## What a visit counts -/

/-- The number of attempts that are made during a visit. -/
def attempts (gateway : Gateway Command) (courier : Courier) (visit : Visit) : Nat :=
  (gateway.meet courier visit).2.posts.length

/-- At least one attempt is made for a command that is sent. -/
theorem Dispatches.attempts_pos (dispatches : gateway.Dispatches name visit.request) :
    0 < gateway.attempts courier visit := by
  obtain ⟨command, sends, -⟩ := dispatches
  have posts : gateway.Posts courier visit.request command.payload := sends.posts
  obtain ⟨more, posted⟩ := posts visit.draws visit.script visit.now
  have length : gateway.attempts courier visit = more + 1 :=
    (congrArg List.length posted).trans List.length_replicate
  omega

/-- The events of a visit: its denial, if it is denied; a retry for every attempt but the first, if
a command is sent; and its request, with the status of the very response. -/
theorem events_meet (gateway : Gateway Command) (courier : Courier) (visit : Visit) :
    (gateway.meet courier visit).1.events =
      (gateway.verdict visit.request).denied?.toList.map Event.denied ++
      (gateway.verdict visit.request).commands.flatMap (fun command =>
        List.replicate (gateway.attempts courier visit - 1) (.retry command.name)) ++
      [.request (normalizeMethod visit.request.method) (gateway.label visit.request)
        (gateway.respond courier visit).status] := by
  -- Whichever way a request goes, its own event is the last and has the status of the reply.
  have told : ∀ before, (∃ reply, (gateway.meet courier visit).1 =
      outcome visit.request (gateway.verdict visit.request).label before reply) →
      (gateway.meet courier visit).1.events = before ++
        [.request (normalizeMethod visit.request.method) (gateway.label visit.request)
          (gateway.respond courier visit).status] := by
    rintro before ⟨reply, met⟩
    rw [respond, met, Reply.status_response, label_eq]
    rfl
  cases verdict : gateway.verdict visit.request with
  | send route command =>
    obtain ⟨more, -, met⟩ : ∃ more, _ ∧ gateway.meet courier visit = _ :=
      meet_of_verdict_send verdict
    have attempts : gateway.attempts courier visit = more + 1 := by
      rw [Gateway.attempts, met, courier.posts_course, List.length_replicate]
    have replied : ∃ reply, (gateway.meet courier visit).1 = outcome visit.request
        (gateway.verdict visit.request).label (List.replicate more (.retry command.name)) reply :=
      ⟨_, by rw [met, verdict]; rfl⟩
    rw [told _ replied, attempts]
    simp [Verdict.denied?, Verdict.commands]
  | denied route answer denial =>
    rw [told [.denied answer] ⟨_, by rw [meet, handle, verdict]; rfl⟩]
    rfl
  | _ =>
    rw [told [] ⟨_, by rw [meet, handle, verdict]; rfl⟩]
    rfl

/-- The series that a visit adds to. -/
def tally (gateway : Gateway Command) (courier : Courier) (visit : Visit) : List Series :=
  (gateway.meet courier visit).1.events.flatMap Event.series

/-- How many series of a kind a visit adds to: those of its denial, those of a retry for every
attempt but the first, and those of its request. -/
theorem countP_tally (kind : Series → Bool) : (gateway.tally courier visit).countP kind =
    ((gateway.verdict visit.request).denied?.toList.map fun outcome =>
      (Event.denied outcome).series.countP kind).sum +
    ((gateway.verdict visit.request).commands.map fun command =>
      (gateway.attempts courier visit - 1) * (Event.retry command.name).series.countP kind).sum +
    (Event.request (normalizeMethod visit.request.method) (gateway.label visit.request)
      (gateway.respond courier visit).status).series.countP kind := by
  rw [tally, events_meet]
  simp only [List.flatMap_append, List.countP_append, List.flatMap_map, List.flatMap_assoc,
    List.flatMap_singleton, List.countP_flatMap, List.map_replicate, List.sum_replicate_nat,
    Function.comp_def]

/-- The series of a kind that is neither that of denials nor that of retries are those of the
request. -/
theorem countP_tally_request {kind : Series → Bool}
    (denied : ∀ outcome, (Event.denied outcome).series.countP kind = 0)
    (retry : ∀ command, (Event.retry command).series.countP kind = 0) :
    (gateway.tally courier visit).countP kind =
      (Event.request (normalizeMethod visit.request.method) (gateway.label visit.request)
        (gateway.respond courier visit).status).series.countP kind := by
  rw [countP_tally]
  simp only [denied, retry, Nat.mul_zero, List.map_const', List.sum_replicate_nat, Nat.zero_add]

/-- A visit adds one to the series of requests with its method, its label and the status of its
response. -/
theorem count_tally_requests (labels : List (String × String)) :
    (gateway.tally courier visit).count ⟨"gateway_requests_total", labels⟩ =
      if [("method", normalizeMethod visit.request.method),
        ("route", gateway.label visit.request),
        ("status", toString (gateway.respond courier visit).status.code)] = labels
      then 1 else 0 := by
  rw [List.count, countP_tally_request (fun _ => rfl) fun _ => rfl]
  simp [Event.series, List.countP_cons]

/-- A visit adds one sample to the series of durations with its method and its label. -/
theorem count_tally_durations (labels : List (String × String)) :
    (gateway.tally courier visit).count ⟨"gateway_request_duration_seconds", labels⟩ =
      if [("method", normalizeMethod visit.request.method),
        ("route", gateway.label visit.request)] = labels then 1 else 0 := by
  rw [List.count, countP_tally_request (fun _ => rfl) fun _ => rfl]
  simp [Event.series, List.countP_cons]

/-- A visit adds one to a series of denials if it is denied, that of its outcome. -/
theorem count_tally_denials (outcome : DenialOutcome) :
    (gateway.tally courier visit).count
        ⟨"gateway_authorization_denied_total", [("outcome", outcome.label)]⟩ =
      if gateway.Denied visit.request ∧
        (if visit.request.identity.claims = ∅ then .unauthenticated else .forbidden) = outcome
      then 1 else 0 := by
  have label : ∀ {first second : DenialOutcome}, first.label = second.label ↔ first = second := by
    intro first second
    cases first <;> cases second <;> decide
  rw [List.count, countP_tally, denied?_verdict]
  by_cases denied : gateway.Denied visit.request
  · simp [denied, Event.series, List.countP_cons, label]
  · simp [denied, Event.series, List.countP_cons]

/-- A visit adds to the series of retries of a command the attempts but the first, if the command is
sent. -/
theorem count_tally_retries (name : String) :
    (gateway.tally courier visit).count
        ⟨"gateway_dispatch_retries_total", [("command", name)]⟩ =
      if gateway.Dispatches name visit.request then gateway.attempts courier visit - 1 else 0 := by
  have denied : ∀ outcome, (Event.denied outcome).series.countP
      (· == ⟨"gateway_dispatch_retries_total", [("command", name)]⟩) = 0 := fun _ => rfl
  rw [List.count, countP_tally]
  simp only [denied, dispatches_iff]
  cases gateway.verdict visit.request with
  | send route command =>
    simp [Verdict.denied?, Verdict.commands, Event.series, List.countP_cons]
  | _ =>
    simp [Verdict.commands, Event.series, List.countP_cons]

/-- A visit adds to no series of a route but those of its label. -/
theorem label_of_mem_tally {series : Series} {route : String}
    (mem : series ∈ gateway.tally courier visit) (named : ("route", route) ∈ series.labels) :
    route = gateway.label visit.request := by
  obtain ⟨event, counted, added⟩ := List.mem_flatMap.1 mem
  rw [events_meet, List.mem_append, List.mem_append] at counted
  rcases counted with (denied | repeated) | last
  · obtain ⟨outcome, -, rfl⟩ := List.mem_map.1 denied
    obtain rfl := List.mem_singleton.1 added
    simp at named
  · obtain ⟨command, -, retry⟩ := List.mem_flatMap.1 repeated
    obtain rfl := List.eq_of_mem_replicate retry
    obtain rfl := List.mem_singleton.1 added
    simp at named
  · obtain rfl := List.mem_singleton.1 last
    rcases List.mem_cons.1 added with rfl | added
    · simpa using named
    · obtain rfl := List.mem_singleton.1 added
      simpa using named

/-- A visit that authorization denies is answered with 401 if nothing is known of the caller, and
else with 403. -/
theorem Denied.status_respond (denied : gateway.Denied visit.request) :
    (gateway.respond courier visit).status.code =
      if visit.request.identity.claims = ∅ then 401 else 403 := by
  obtain ⟨denial, found, context, routed, refused⟩ := denied
  have verdict := routed.verdict_denied refused
  rw [routed.claims] at verdict
  rw [respond, meet, handle, verdict, Reply.status_response]
  by_cases stranger : visit.request.identity.claims = ∅
  · rw [if_pos (Dict.isEmpty_iff.2 stranger), if_pos stranger]
    rfl
  · rw [if_neg (mt Dict.isEmpty_iff.1 stranger), if_neg stranger]
    rfl

/-! ## What several visits count -/

/-- The metrics after one more visit. -/
def account (gateway : Gateway Command) (courier : Courier) (metrics : Metrics) (visit : Visit) :
    Metrics :=
  (gateway.meet courier visit).1.events.foldl Metrics.record metrics

/-- The metrics of several visits, one after the other. -/
def accounts (gateway : Gateway Command) (courier : Courier) (visits : List Visit) : Metrics :=
  visits.foldl (gateway.account courier) .empty

/-- The metrics of several visits are those of all their events. -/
theorem accounts_eq (gateway : Gateway Command) (courier : Courier) (visits : List Visit) :
    gateway.accounts courier visits =
      .ofEvents (visits.flatMap fun visit => (gateway.meet courier visit).1.events) :=
  (List.foldl_flatMap ..).symm

/-- The count of a series is how often the visits add to it. -/
theorem count_accounts (series : Series) (visits : List Visit) :
    (gateway.accounts courier visits).count series =
      (visits.map fun visit => (gateway.tally courier visit).count series).sum := by
  rw [accounts_eq, Metrics.count_ofEvents, List.flatMap_assoc, List.count_flatMap]
  rfl

/-- The total of a name is how often the visits add to series of the name. -/
theorem total_accounts (name : String) (visits : List Visit) :
    (gateway.accounts courier visits).total name =
      (visits.map fun visit => (gateway.tally courier visit).countP (·.name = name)).sum := by
  rw [accounts_eq, Metrics.total_ofEvents, List.flatMap_assoc, List.countP_flatMap]
  rfl

/-- Where every visit adds to one series of a name, the total of the name is the number of visits.
-/
theorem total_accounts_of_one
    (one : ∀ visit, (gateway.tally courier visit).countP (·.name = name) = 1)
    (visits : List Visit) : (gateway.accounts courier visits).total name = visits.length := by
  simp only [total_accounts, one, List.map_const', List.sum_replicate_nat, Nat.mul_one]

/-- Where every visit of a kind adds one to a series and no other does, the count of the series is
the number of visits of the kind. -/
theorem count_accounts_of_kind {series : Series} {kind : Visit → Prop} [DecidablePred kind]
    (one : ∀ visit, (gateway.tally courier visit).count series = if kind visit then 1 else 0)
    (visits : List Visit) :
    (gateway.accounts courier visits).count series = visits.countP kind := by
  simp only [count_accounts, one]
  induction visits with
  | nil => rfl
  | cons visit rest ih =>
    rw [List.map_cons, List.sum_cons, ih, List.countP_cons, Nat.add_comm]
    simp only [decide_eq_true_eq]

/-- Take a gateway, a courier and any visits one after the other. There are as many requests counted
as visits, and as many durations sampled. A series of requests counts the visits whose method in
normal form, label and status of the response it names, and a series of durations those whose method
and label it names; the labels are among those that the table fixes, whatever is requested. A denial
counts exactly for the visits that authorization denies, as that of an unknown or of a known caller;
these are answered with 401 or 403 accordingly. The retries of a command add up the attempts, less
one, of the visits for which it is sent, and at least one attempt is made for each of these. -/
theorem accounts_balance (gateway : Gateway Command) (courier : Courier) (visits : List Visit) :
    (gateway.accounts courier visits).total "gateway_requests_total" = visits.length ∧
    (gateway.accounts courier visits).total "gateway_request_duration_seconds" = visits.length ∧
    (∀ labels, (gateway.accounts courier visits).count ⟨"gateway_requests_total", labels⟩ =
      visits.countP fun visit => [("method", normalizeMethod visit.request.method),
        ("route", gateway.label visit.request),
        ("status", toString (gateway.respond courier visit).status.code)] = labels) ∧
    (∀ labels, (gateway.accounts courier visits).count
        ⟨"gateway_request_duration_seconds", labels⟩ =
      visits.countP fun visit => [("method", normalizeMethod visit.request.method),
        ("route", gateway.label visit.request)] = labels) ∧
    (∀ entry ∈ (gateway.accounts courier visits).counts, ∀ label,
      ("route", label) ∈ entry.1.labels →
        label ∈ "health" :: "none" :: gateway.table.routes.map (·.template.raw)) ∧
    (gateway.accounts courier visits).count
        ⟨"gateway_authorization_denied_total", [("outcome", "unauthenticated")]⟩ =
      visits.countP (fun visit =>
        gateway.Denied visit.request ∧ visit.request.identity.claims = ∅) ∧
    (gateway.accounts courier visits).count
        ⟨"gateway_authorization_denied_total", [("outcome", "forbidden")]⟩ =
      visits.countP (fun visit =>
        gateway.Denied visit.request ∧ visit.request.identity.claims ≠ ∅) ∧
    (∀ visit, gateway.Denied visit.request → (gateway.respond courier visit).status.code =
      if visit.request.identity.claims = ∅ then 401 else 403) ∧
    (∀ name, (gateway.accounts courier visits).count
        ⟨"gateway_dispatch_retries_total", [("command", name)]⟩ =
      (visits.map fun visit => if gateway.Dispatches name visit.request then
        gateway.attempts courier visit - 1 else 0).sum) ∧
    ∀ visit name, gateway.Dispatches name visit.request → 0 < gateway.attempts courier visit := by
  refine ⟨?_, ?_, fun labels => ?_, fun labels => ?_, ?_, ?_, ?_, ?_, fun name => ?_,
    fun visit name dispatches => dispatches.attempts_pos⟩
  · refine total_accounts_of_one (fun visit => ?_) visits
    rw [countP_tally_request (fun _ => rfl) fun _ => rfl]
    rfl
  · refine total_accounts_of_one (fun visit => ?_) visits
    rw [countP_tally_request (fun _ => rfl) fun _ => rfl]
    rfl
  · exact count_accounts_of_kind (fun _ => count_tally_requests labels) visits
  · exact count_accounts_of_kind (fun _ => count_tally_durations labels) visits
  · intro entry mem label named
    rw [accounts_eq] at mem
    have added := Metrics.mem_series_of_mem_ofEvents mem
    rw [List.flatMap_assoc] at added
    obtain ⟨visit, -, tallied⟩ := List.mem_flatMap.1 added
    rw [label_of_mem_tally tallied named]
    exact gateway.label_mem visit.request
  · refine count_accounts_of_kind (fun visit =>
      (count_tally_denials .unauthenticated).trans ?_) visits
    by_cases stranger : visit.request.identity.claims = ∅ <;> simp [stranger]
  · refine count_accounts_of_kind (fun visit => (count_tally_denials .forbidden).trans ?_) visits
    by_cases stranger : visit.request.identity.claims = ∅ <;> simp [stranger]
  · exact fun visit denied => denied.status_respond
  · rw [count_accounts]
    simp only [count_tally_retries]

end Gateway

end HttpGateway

import HttpGateway.Message.Status

/-!
# Metrics

What happens is told as a list of events. Each event adds to one or two series: every request is
counted by method, route and status, and its duration is sampled by method and route; denials
are counted by outcome and repeated attempts by command. A route is named by its template, not by
the path of a request, so that the number of series stays bounded. Durations are not part of the
events: of a histogram only the number of its samples is told.
-/

namespace HttpGateway

/-- How a denial is answered. -/
inductive DenialOutcome
  /-- The caller is not known. -/
  | unauthenticated
  /-- The caller is known and may not do this. -/
  | forbidden
deriving DecidableEq, Repr

/-- The label of an outcome. -/
def DenialOutcome.label : DenialOutcome → String
  | unauthenticated => "unauthenticated"
  | forbidden => "forbidden"

/-- Something that is counted. -/
inductive Event
  /-- A request was answered. -/
  | request (method route : String) (status : Status)
  /-- A request was denied. -/
  | denied (outcome : DenialOutcome)
  /-- A command is sent once more. -/
  | retry (command : String)
deriving DecidableEq

/-- A series of measurements: a name, and labels in order of their names. -/
structure Series where
  /-- The name. -/
  name : String
  /-- The labels, each a name and a value. -/
  labels : List (String × String)
deriving DecidableEq, Repr

/-- The name and the labels of a series as one list of texts, by which series are ordered. -/
def Series.key (series : Series) : List String :=
  series.name :: series.labels.flatMap fun label => [label.1, label.2]

/-- The series that an event adds to. -/
def Event.series : Event → List Series
  | request method route status =>
    [⟨"gateway_requests_total",
        [("method", method), ("route", route), ("status", toString status.code)]⟩,
      ⟨"gateway_request_duration_seconds", [("method", method), ("route", route)]⟩]
  | denied outcome => [⟨"gateway_authorization_denied_total", [("outcome", outcome.label)]⟩]
  | retry command => [⟨"gateway_dispatch_retries_total", [("command", command)]⟩]

/-- The counts of series, in the order of their keys. -/
structure Metrics where
  /-- The series with their counts. -/
  counts : List (Series × Nat)

namespace Metrics

/-- Nothing is counted yet. -/
def empty : Metrics := ⟨[]⟩

/-- Add one to a series in a list of counts. -/
def countUp (series : Series) : List (Series × Nat) → List (Series × Nat)
  | [] => [(series, 1)]
  | (other, n) :: rest =>
    if series = other then (other, n + 1) :: rest
    else if series.key < other.key then (series, 1) :: (other, n) :: rest
    else (other, n) :: countUp series rest

/-- Count an event. -/
def record (metrics : Metrics) (event : Event) : Metrics :=
  ⟨event.series.foldl (fun counts series => countUp series counts) metrics.counts⟩

/-- The counts of a list of events. -/
def ofEvents (events : List Event) : Metrics := events.foldl record empty

/-- The count of a series. -/
def count (metrics : Metrics) (series : Series) : Nat := (metrics.counts.lookup series).getD 0

end Metrics

end HttpGateway

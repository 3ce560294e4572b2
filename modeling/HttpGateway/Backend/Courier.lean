import HttpGateway.Backend.Attempt
import HttpGateway.Backend.Backoff
import HttpGateway.Backend.Command
import HttpGateway.Message.Uri
import HttpGateway.Metrics

/-!
# Sending commands to the backend

A courier posts the payload of a command until an attempt may not be repeated or the attempts are
used up. Before each further attempt it counts a retry and waits. What it does in the world goes
through a `Line`, in any monad. `Courier.deliver` sends over a line on which everything is written
down beforehand: what the attempts meet is a function from their numbers, and what the courier
does is kept in a journal.
-/

namespace HttpGateway

/-- How often and how soon a command is sent again. -/
structure Retries where
  /-- Whether a command is sent again at all. -/
  enabled : Bool
  /-- The greatest number of attempts, the first included. -/
  maxAttempts : UInt32
  /-- The delay after the first attempt, in milliseconds. -/
  baseDelay : UInt64
  /-- The greatest delay, in milliseconds. -/
  maxDelay : UInt64
deriving DecidableEq, Repr

namespace Retries

/-- The number of attempts that may be made, at least one. -/
def attemptLimit (retries : Retries) : UInt32 :=
  if retries.enabled then max 1 retries.maxAttempts else 1

/-- The number of attempts that may be made, as a natural number. -/
theorem attemptLimit_toNat (retries : Retries) :
    retries.attemptLimit.toNat =
      if retries.enabled then max 1 retries.maxAttempts.toNat else 1 := by
  have one : (1 : UInt32).toNat = 1 := rfl
  unfold attemptLimit
  split
  · change (if 1 ≤ retries.maxAttempts then retries.maxAttempts else 1).toNat = _
    split
    · next granted =>
      have positive : 1 ≤ retries.maxAttempts.toNat := UInt32.le_iff_toNat_le.1 granted
      omega
    · next refused =>
      have zero : ¬ 1 ≤ retries.maxAttempts.toNat := fun positive =>
        refused (UInt32.le_iff_toNat_le.2 positive)
      omega
  · exact one

/-- An attempt may always be made. -/
theorem attemptLimit_pos (retries : Retries) : 0 < retries.attemptLimit := by
  have limit := retries.attemptLimit_toNat
  have zero : (0 : UInt32).toNat = 0 := rfl
  rw [UInt32.lt_iff_toNat_lt]
  split at limit <;> omega

/-- A number of attempts after which another may be made. -/
def Made (retries : Retries) : Type := { made : UInt32 // made < retries.attemptLimit }

/-- No attempts. -/
def Made.none (retries : Retries) : retries.Made := ⟨0, retries.attemptLimit_pos⟩

/-- The number with the attempt that is made now. -/
def Made.next {retries : Retries} (made : retries.Made) : UInt32 := made.val + 1

/-- The number of attempts does not wrap when another may be made. -/
theorem Made.toNat_next {retries : Retries} (made : retries.Made) :
    made.next.toNat = made.val.toNat + 1 := by
  have one : (1 : UInt32).toNat = 1 := rfl
  have below : made.val.toNat < retries.attemptLimit.toNat := UInt32.lt_iff_toNat_lt.1 made.2
  have bound := retries.attemptLimit.toNat_lt
  rw [next, UInt32.toNat_add]
  omega

/-- The schedule of delays. -/
def backoff (retries : Retries) : Backoff := ⟨retries.baseDelay, retries.maxDelay⟩

end Retries

/-- What a courier does in the world. -/
structure Line (m : Type → Type) where
  /-- Post a payload to a place, and tell what came of it. -/
  post : Uri → String → m Attempt
  /-- Draw a random word. -/
  draw : m UInt64
  /-- Count an event. -/
  count : Event → m Unit
  /-- Wait for some milliseconds. -/
  wait : UInt64 → m Unit

/-- Something that a courier did. -/
inductive Deed
  /-- It posted a payload to a place. -/
  | posted (place : Uri) (payload : String)
  /-- It counted an event. -/
  | counted (event : Event)
  /-- It waited for some milliseconds. -/
  | waited (delay : UInt64)
deriving DecidableEq

/-- What a courier did, in order. -/
structure Journal where
  /-- The deeds, the first of them first. -/
  deeds : List Deed

namespace Journal

/-- Nothing is done yet. -/
def blank : Journal := ⟨[]⟩

/-- The journal with one more deed. -/
def add (journal : Journal) (deed : Deed) : Journal := ⟨journal.deeds ++ [deed]⟩

/-- What was posted where. -/
def posts (journal : Journal) : List (Uri × String) :=
  journal.deeds.filterMap fun
    | .posted place payload => some (place, payload)
    | _ => none

/-- What was counted. -/
def events (journal : Journal) : List Event :=
  journal.deeds.filterMap fun
    | .counted event => some event
    | _ => none

/-- How long was waited each time. -/
def delays (journal : Journal) : List UInt64 :=
  journal.deeds.filterMap fun
    | .waited delay => some delay
    | _ => none

@[simp] theorem posts_add_posted (journal : Journal) (place : Uri) (payload : String) :
    (journal.add (.posted place payload)).posts = journal.posts ++ [(place, payload)] := by
  simp [add, posts]

@[simp] theorem posts_add_counted (journal : Journal) (event : Event) :
    (journal.add (.counted event)).posts = journal.posts := by
  simp [add, posts]

@[simp] theorem posts_add_waited (journal : Journal) (delay : UInt64) :
    (journal.add (.waited delay)).posts = journal.posts := by
  simp [add, posts]

end Journal

/-- The line on which it is written down what each attempt meets and which word is drawn after it;
attempts are numbered from one. -/
def Line.scripted (draws : Nat → UInt64) (script : Nat → Attempt) : Line (StateM Journal) where
  post place payload := do
    modify (·.add (.posted place payload))
    return script (← get).posts.length
  draw := return draws (← get).posts.length
  count event := modify (·.add (.counted event))
  wait delay := modify (·.add (.waited delay))

/-- What became of a command. -/
structure Delivery where
  /-- The value of the answer, or the failure. -/
  result : Except Failure Json
  /-- What is counted. -/
  events : List Event

/-- A sender of commands to one place. -/
structure Courier where
  /-- Where commands are sent. -/
  endpoint : Uri
  /-- How often and how soon a command is sent again. -/
  retries : Retries

namespace Courier

/-- The courier to a place given as text. -/
def ofUrl (url : String) (retries : Retries) : Except UriFault Courier :=
  (Uri.ofText url).map (⟨·, retries⟩)

section Sending

variable {m : Type → Type} [Monad m]

/-- Send a payload until an attempt may not be repeated or the attempts are used up, after some
attempts have been made. -/
def sendAfter (courier : Courier) (line : Line m) (name payload : String)
    (made : courier.retries.Made) : m (Except Failure Json) := do
  let attempt ← line.post courier.endpoint payload
  if again : made.next < courier.retries.attemptLimit ∧ attempt.isRetryable = true then
    let word ← line.draw
    line.count (.retry name)
    line.wait (courier.retries.backoff.delay made.next word)
    courier.sendAfter line name payload ⟨made.next, again.1⟩
  else pure attempt.result
termination_by courier.retries.attemptLimit.toNat - made.val.toNat
decreasing_by
  have counted := made.toNat_next
  have below := UInt32.lt_iff_toNat_lt.1 again.1
  omega

/-- Send a command. -/
def send (courier : Courier) (line : Line m) (command : Command) : m (Except Failure Json) :=
  courier.sendAfter line command.name command.payload (.none courier.retries)

end Sending

/-- Send a command over a line on which everything is written down, and tell what became of it. -/
def deliver (courier : Courier) (draws : Nat → UInt64) (script : Nat → Attempt)
    (command : Command) : Delivery :=
  let (result, journal) := (courier.send (.scripted draws script) command).run .blank
  ⟨result, journal.events⟩

end Courier

end HttpGateway

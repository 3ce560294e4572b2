import HttpGateway.Proofs.Gateway.Mediation
import Mathlib.Data.List.TakeWhile

/-!
# Gateways behind a stage

A gateway may stand behind a stage, a text in front of every path. `Path.Unstaged` says what is left
of a path without the stage, and a gateway with a stage does with a request exactly what the same
gateway without one does with what is left of the path (`Gateway.handle_stage`): the same is
answered, sent and counted. Removing the stage takes at most one copy of it and ends where a segment
ends.
-/

namespace HttpGateway

/-! ## Paths without the stage -/

namespace Path

/-- What is left of a path without a stem: the rest if the path is the stem with a slash after it,
the root if it is the stem itself and the stem is not empty, and the whole path in every other
case. -/
inductive Unstaged (stem path : String) : String → Prop
  /-- A segment of the path ends with the stem, and there is more of the path. -/
  | rest {tail : String} (follows : path = stem ++ ("/" ++ tail)) : Unstaged stem path ("/" ++ tail)
  /-- There is nothing after the stem. -/
  | root (some : stem ≠ "") (whole : path = stem) : Unstaged stem path "/"
  /-- The path is neither. -/
  | apart (noRest : ∀ tail, path ≠ stem ++ ("/" ++ tail)) (noRoot : path = stem → stem = "") :
      Unstaged stem path path

/-- A stage without its trailing slashes. -/
def stem (stage : String) : String :=
  String.ofList (Text.dropTailWhile (· == '/') stage.toList)

variable {stage path bare : String}

/-- A stage is its stem and some slashes. -/
theorem exists_eq_stem_append (stage : String) :
    ∃ slashes, stage = stem stage ++ String.ofList (List.replicate slashes '/') := by
  let taken := stage.toList.reverse.takeWhile (· == '/')
  have slashes : taken = List.replicate taken.length '/' := by
    refine List.eq_replicate_of_mem fun c mem => ?_
    exact eq_of_beq (List.mem_takeWhile_imp (p := (· == '/')) mem)
  have parts : taken ++ stage.toList.reverse.dropWhile (· == '/') = stage.toList.reverse :=
    List.takeWhile_append_dropWhile
  have whole : stage.toList =
      Text.dropTailWhile (· == '/') stage.toList ++ List.replicate taken.length '/' := by
    rw [Text.dropTailWhile, ← List.reverse_replicate, ← slashes, ← List.reverse_append, parts,
      List.reverse_reverse]
  refine ⟨taken.length, String.toList_inj.1 ?_⟩
  rw [String.toList_append, stem, String.toList_ofList, String.toList_ofList]
  exact whole

/-- No stem ends with a slash. -/
theorem stem_ne_append_slash (stage text : String) : stem stage ≠ text ++ "/" := by
  intro same
  have chars := congrArg String.toList same
  rw [stem, String.toList_ofList, String.toList_append, Text.dropTailWhile] at chars
  have head : (stage.toList.reverse.dropWhile (· == '/')).head? = some '/' := by
    rw [← List.getLast?_reverse, chars]
    exact List.getLast?_concat
  have stays := List.head?_dropWhile_not (· == '/') stage.toList.reverse
  rw [head] at stays
  contradiction

/-- A text after a slash, by its characters. -/
theorem toList_slash_append (tail : String) : ("/" ++ tail).toList = '/' :: tail.toList := by
  simp

/-- Removing a stage leaves what is left of the path without the stem. -/
theorem unstaged_stripStage (stage path : String) :
    Unstaged (stem stage) path (stripStage stage path) := by
  let chars := Text.dropTailWhile (· == '/') stage.toList
  have stemChars : (stem stage).toList = chars := String.toList_ofList
  have begins : ∀ text : String,
      path = stem stage ++ text ↔ path.toList = chars ++ text.toList := by
    intro text
    rw [← String.toList_inj, String.toList_append, stemChars]
  have whole : path = stem stage ↔ path.toList = chars := by
    rw [← String.toList_inj, stemChars]
  have empty : stem stage = "" ↔ chars = [] := by
    rw [← String.toList_eq_nil_iff, stemChars]
  unfold stripStage
  dsimp only
  split
  · next none =>
    rw [empty.2 (List.isEmpty_iff.1 none)]
    by_cases rooted : ∃ tail, path = "/" ++ tail
    · obtain ⟨tail, rfl⟩ := rooted
      exact .rest String.empty_append.symm
    · refine .apart (fun tail follows => rooted ⟨tail, ?_⟩) fun _ => rfl
      rwa [String.empty_append] at follows
  · next some =>
    rw [List.isEmpty_iff, ← empty] at some
    split
    · next other =>
      rw [Bool.not_eq_true', ← Bool.not_eq_true, List.isPrefixOf_iff_prefix] at other
      refine .apart (fun tail follows => other ⟨_, ((begins _).1 follows).symm⟩)
        fun root => absurd ?_ other
      have same := whole.1 root
      exact same ▸ List.prefix_rfl
    · next staged =>
      rw [Bool.not_eq_true', Bool.not_eq_false, List.isPrefixOf_iff_prefix] at staged
      obtain ⟨rest, parts⟩ := staged
      have dropped : path.toList.drop chars.length = rest := by rw [← parts, List.drop_left]
      split
      · next ended =>
        obtain rfl : rest = [] := dropped.symm.trans ended
        refine .root some (whole.2 ?_)
        rw [← parts, List.append_nil]
      · next tail more =>
        obtain rfl : rest = '/' :: tail := dropped.symm.trans more
        have slashed : String.ofList ('/' :: tail) = "/" ++ String.ofList tail := by
          rw [← String.toList_inj, toList_slash_append, String.toList_ofList, String.toList_ofList]
        rw [slashed]
        refine .rest ((begins _).2 ?_)
        rw [← parts, ← slashed, String.toList_ofList]
      · next notEnded unslashed =>
        refine .apart (fun tail follows => unslashed tail.toList ?_) fun root => ?_
        · rw [(begins _).1 follows, toList_slash_append]
          exact List.drop_left
        · refine absurd ?_ notEnded
          rw [whole.1 root]
          exact List.drop_length

/-- There is one text that is left of a path. -/
theorem Unstaged.unique {stem path first second : String} (left : Unstaged stem path first)
    (other : Unstaged stem path second) : first = second := by
  have longer : ∀ tail, stem ≠ stem ++ ("/" ++ tail) := by
    intro tail same
    have lengths := congrArg (fun text : String => text.toList.length) same
    simp at lengths
  cases left with
  | @rest tail follows =>
    cases other with
    | rest again => exact (String.append_right_inj _).1 (follows.symm.trans again)
    | root some whole => exact absurd (whole.symm.trans follows) (longer tail)
    | apart noRest noRoot => exact absurd follows (noRest tail)
  | root some whole =>
    cases other with
    | @rest tail follows => exact absurd (whole.symm.trans follows) (longer tail)
    | root some whole => rfl
    | apart noRest noRoot => exact absurd (noRoot whole) some
  | apart noRest noRoot =>
    cases other with
    | @rest tail follows => exact absurd follows (noRest tail)
    | root some whole => exact absurd (noRoot whole) some
    | apart noRest noRoot => rfl

/-- What is left of a path without a stem is the path, what stands after one copy of the stem, or
the root; if it is not the path itself it begins with a slash. -/
theorem Unstaged.eq_or {stem path bare : String} (left : Unstaged stem path bare) :
    bare = path ∨
      (path = stem ++ bare ∨ path = stem ∧ bare = "/") ∧ ∃ tail, bare = "/" ++ tail := by
  cases left with
  | @rest tail follows => exact .inr ⟨.inl follows, tail, rfl⟩
  | root some whole => exact .inr ⟨.inr ⟨whole, rfl⟩, "", rfl⟩
  | apart noRest noRoot => exact .inl rfl

end Path

/-! ## Gateways with a stage and without -/

namespace Gateway

variable {κ : Type} {gateway : Gateway κ} {request : Request} {m : Type → Type} [Monad m]

/-- The gateway with the given stage, or with none. -/
def withStage (gateway : Gateway κ) (stage : Option String) : Gateway κ :=
  { gateway with settings := { gateway.settings with stage } }

/-- A gateway with a stage decides on a request as the gateway without one decides on the request
whose path is without the stage. -/
theorem verdict_withStage (gateway : Gateway κ) (stage : String) (request : Request) :
    (gateway.withStage (some stage)).verdict request =
      (gateway.withStage none).verdict
        { request with path := Path.stripStage stage request.path } := rfl

/-- A gateway with a stage does with a request what the gateway without one does with the request
whose path is without the stage. -/
theorem handle_withStage (gateway : Gateway κ) (stage : String) (send : κ → m Delivery)
    (now : Timestamp) (request : Request) :
    (gateway.withStage (some stage)).handle send now request =
      (gateway.withStage none).handle send now
        { request with path := Path.stripStage stage request.path } := by
  unfold handle
  rw [verdict_withStage]
  cases (gateway.withStage none).verdict
      { request with path := Path.stripStage stage request.path } <;> rfl

/-- The time counts for health checks alone. -/
theorem handle_eq_of_not_health (live : isHealthPath (gateway.path request) = false)
    (send : κ → m Delivery) (now later : Timestamp) :
    gateway.handle send now request = gateway.handle send later request := by
  have judged := gateway.judged_verdict request
  unfold handle
  cases verdict : gateway.verdict request with
  | health =>
    rw [verdict] at judged
    cases judged with
    | health health => simp [live] at health
  | _ => rfl

/-- Take a gateway and a stage, which is its stem and some slashes after it, and the stem does not
end with a slash. For every path there is one text that is left of it without the stem: the path
itself, or what stands after one copy of the stem, or the root, and if it is not the path itself it
begins with a slash. The gateway with the stage routes by what is left of the path. Whatever the
sender of commands does, it answers, counts and sends for a request what the gateway without a stage
answers, counts and sends at the same time for the request whose path is what is left; and the time
makes a difference for health checks alone. -/
theorem handle_stage (gateway : Gateway κ) (stage : String) :
    ∃ stem slashes, stage = stem ++ String.ofList (List.replicate slashes '/') ∧
      (∀ text, stem ≠ text ++ "/") ∧
      (∀ path, ∃ bare, Path.Unstaged stem path bare ∧
        (∀ other, Path.Unstaged stem path other → other = bare) ∧
        (bare = path ∨
          (path = stem ++ bare ∨ path = stem ∧ bare = "/") ∧ ∃ tail, bare = "/" ++ tail)) ∧
      ∀ (request : Request) (bare : String), Path.Unstaged stem request.path bare →
        (gateway.withStage (some stage)).path request = bare ∧
        ∀ {m : Type → Type} [Monad m] (send : κ → m Delivery) (now : Timestamp),
          (gateway.withStage (some stage)).handle send now request =
            (gateway.withStage none).handle send now { request with path := bare } ∧
          (gateway.withStage (some stage)).handleRecorded send now request =
            (gateway.withStage none).handleRecorded send now { request with path := bare } ∧
          (isHealthPath bare = false → ∀ later,
            (gateway.withStage (some stage)).handle send now request =
              (gateway.withStage none).handle send later { request with path := bare }) := by
  obtain ⟨slashes, parts⟩ := Path.exists_eq_stem_append stage
  refine ⟨Path.stem stage, slashes, parts, Path.stem_ne_append_slash stage, fun path => ?_,
    fun request bare left => ?_⟩
  · have left := Path.unstaged_stripStage stage path
    exact ⟨_, left, fun other also => also.unique left, left.eq_or⟩
  · obtain rfl : bare = Path.stripStage stage request.path :=
      left.unique (Path.unstaged_stripStage stage request.path)
    refine ⟨rfl, fun send now => ⟨gateway.handle_withStage stage send now request, ?_,
      fun live later => ?_⟩⟩
    · unfold handleRecorded
      rw [handle_withStage]
    · have still : isHealthPath ((gateway.withStage none).path
          { request with path := Path.stripStage stage request.path }) = false := live
      rw [handle_withStage, handle_eq_of_not_health still send now later]

/-- One copy of a stage is removed, and none where no segment ends. -/
example :
    ["/prod/prod/items", "/prod", "/production", "/items/prod"].map (Path.stripStage "/prod//") =
      ["/prod/items", "/", "/production", "/items/prod"] := by decide +kernel

end Gateway

end HttpGateway

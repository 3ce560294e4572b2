/-!
# Runs of case mappings

Simple case mappings come in runs: code points at a fixed distance from each other, each mapped
to the code point at the same place of another run with the same distances.
-/

namespace HttpGateway.Text

/-- The code points `first`, `first + stride`, … up to `last`, each mapped as far above `target`
as it stands above `first`. -/
structure CaseRun where
  /-- The least code point of the run. -/
  first : Nat
  /-- The greatest code point of the run. -/
  last : Nat
  /-- The distance between neighbours. -/
  stride : Nat
  /-- The image of `first`. -/
  target : Nat

namespace CaseRun

/-- The image of a code point under the runs, which are listed in increasing order; none when
no run holds it. -/
def image? : List CaseRun → Nat → Option Nat
  | [], _ => none
  | run :: rest, n =>
    if n < run.first then none
    else if n ≤ run.last ∧ (n - run.first) % run.stride = 0 then
      some (run.target + (n - run.first))
    else image? rest n

/-- The image of a character under the runs; a character in no run is its own image. -/
def map (runs : List CaseRun) (c : Char) : Char :=
  match image? runs c.toNat with
  | some n => Char.ofNat n
  | none => c

/-- An image found comes from a run that holds the code point. -/
theorem exists_run_of_image? {runs : List CaseRun} {n m : Nat} (found : image? runs n = some m) :
    ∃ run ∈ runs, run.first ≤ n ∧ n ≤ run.last ∧ (n - run.first) % run.stride = 0 ∧
      m = run.target + (n - run.first) := by
  induction runs with
  | nil => simp [image?] at found
  | cons run rest ih =>
    unfold image? at found
    split at found
    · contradiction
    · split at found
      · next above held =>
        obtain rfl := Option.some.inj found
        exact ⟨run, List.mem_cons_self, by omega, held.1, held.2, rfl⟩
      · obtain ⟨other, mem, facts⟩ := ih found
        exact ⟨other, List.mem_cons_of_mem _ mem, facts⟩

end CaseRun

end HttpGateway.Text

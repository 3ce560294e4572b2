import HttpGateway.Proofs.Routing.Registration
import HttpGateway.Proofs.Routing.Selection
import Mathlib.Data.Nat.Find

/-!
# Slots from the template to the request

A slot is written as a name in braces (`Template.HasSlot`). Three places put its name in lower case:
the check for repeated names, the capture of its value and the look-up of a parameter. They agree
(`Template.slots_agree`). Compiling fails exactly when a slot repeats the name of an earlier one,
and names the first that does; else no two slots share a key, and of a path that is captured each
slot holds the piece at its place, which is found under its name in any spelling with the same lower
case and under no other.
-/

namespace HttpGateway

/-! ## Slots as they are written -/

namespace Segment

/-- What is written is the slot with a name when it is the name in braces, and the name is not empty
and consists of name characters. -/
theorem slotName?_eq_some_iff {written name : List Char} :
    slotName? written = some name ↔
      written = '\x7b' :: (name ++ ['\x7d']) ∧ name ≠ [] ∧ ∀ c ∈ name, isNameChar c = true := by
  constructor
  · intro slot
    unfold slotName? at slot
    split at slot
    · next rest =>
      rw [Option.ite_none_right_eq_some] at slot
      obtain ⟨held, same⟩ := slot
      obtain rfl := Option.some.inj same
      simp only [Bool.and_eq_true, decide_eq_true_eq, Bool.not_eq_true',
        List.isEmpty_eq_false_iff, List.all_eq_true] at held
      obtain ⟨⟨closed, some⟩, named⟩ := held
      obtain ⟨front, rfl⟩ := List.getLast?_eq_some_iff.1 closed
      rw [List.dropLast_concat] at some named ⊢
      exact ⟨rfl, some, named⟩
    · contradiction
  · rintro ⟨rfl, some, named⟩
    unfold slotName?
    simp only [List.getLast?_concat, List.dropLast_concat]
    rw [if_pos (by simpa [some] using named)]

/-- What is written is read as the slot with a name when it is the name in braces. -/
theorem read_eq_slot_iff {written : List Char} {name : String} :
    read written = slot name ↔ slotName? written = some name.toList := by
  unfold read
  cases slotName? written with
  | none => simp
  | some chars => rw [slot.injEq, Option.some.injEq, ← String.toList_inj, String.toList_ofList]

end Segment

namespace Template

/-- A template, as it is written, has a slot with a name at a place: the piece there is the name in
braces, and the name has one or more characters, each of them a letter, a digit or a low line. -/
structure HasSlot (raw : String) (place : Nat) (name : String) : Prop where
  /-- The piece at the place is the name in braces. -/
  written : (Path.pieces raw)[place]? = some ("\x7b" ++ name ++ "\x7d").toList
  /-- The name is not empty. -/
  named : name ≠ ""
  /-- The name consists of name characters. -/
  chars : ∀ c ∈ name.toList, Segment.isNameChar c = true

/-- The segments that a template is written as have a slot where the template has one. -/
theorem getElem?_eq_slot_iff {raw : String} {place : Nat} {name : String} :
    ((Path.pieces raw).map Segment.read)[place]? = some (.slot name) ↔ HasSlot raw place name := by
  have braces : ("\x7b" ++ name ++ "\x7d").toList = '\x7b' :: (name.toList ++ ['\x7d']) := by simp
  have nonempty : name ≠ "" ↔ name.toList ≠ [] := not_congr String.toList_eq_nil_iff.symm
  rw [List.getElem?_map, Option.map_eq_some_iff]
  constructor
  · rintro ⟨written, there, slot⟩
    obtain ⟨rfl, some, named⟩ := Segment.slotName?_eq_some_iff.1 (Segment.read_eq_slot_iff.1 slot)
    exact ⟨braces ▸ there, nonempty.2 some, named⟩
  · rintro ⟨there, some, named⟩
    refine ⟨_, there, Segment.read_eq_slot_iff.2 (Segment.slotName?_eq_some_iff.2 ?_)⟩
    exact ⟨braces, nonempty.1 some, named⟩

/-! ## Repeated names -/

/-- A name is at the first place where some name has a property. -/
def IsFirst (property : Nat → String → Prop) (place : Nat) (name : String) : Prop :=
  property place name ∧ ∀ earlier < place, ∀ other, ¬ property earlier other

/-- If no name has the property at the first place, the first that has it is one place further than
without that place. -/
theorem exists_isFirst_succ {property later : Nat → String → Prop}
    (none : ∀ name, ¬ property 0 name)
    (shift : ∀ place name, property (place + 1) name ↔ later place name) (name : String) :
    (∃ place, IsFirst property place name) ↔ ∃ place, IsFirst later place name := by
  constructor
  · rintro ⟨place, held, first⟩
    cases place with
    | zero => exact absurd held (none name)
    | succ place =>
      refine ⟨place, (shift place name).1 held, fun earlier before other also => ?_⟩
      exact first (earlier + 1) (by omega) other ((shift earlier other).2 also)
  · rintro ⟨place, held, first⟩
    refine ⟨place + 1, (shift place name).2 held, fun earlier before other also => ?_⟩
    cases earlier with
    | zero => exact none other also
    | succ earlier => exact first earlier (by omega) other ((shift earlier other).1 also)

/-- A slot among segments has the key of an earlier one, or one seen before. -/
def RepeatsAmong (seen : List String) (segments : List Segment) (place : Nat) (name : String) :
    Prop :=
  segments[place]? = some (.slot name) ∧ (Text.lowercase name ∈ seen ∨
    ∃ earlier < place, ∃ other, segments[earlier]? = some (.slot other) ∧
      Text.lowercase other = Text.lowercase name)

/-- A slot after the first segment has the key of an earlier one or one seen before, when that holds
after the key of the first segment was seen. -/
theorem repeatsAmong_succ_iff {seen : List String} {segment : Segment} {rest : List Segment}
    {place : Nat} {name : String} :
    RepeatsAmong seen (segment :: rest) (place + 1) name ↔
      RepeatsAmong (segment.key?.toList ++ seen) rest place name := by
  have first : (∃ other, segment = .slot other ∧ Text.lowercase other = Text.lowercase name) ↔
      Text.lowercase name ∈ segment.key?.toList := by
    cases segment <;> simp [eq_comm]
  unfold RepeatsAmong
  simp only [List.getElem?_cons_succ, Nat.exists_lt_succ_left, List.getElem?_cons_zero,
    Option.some.injEq, List.mem_append, first]
  exact and_congr_right fun _ => by rw [or_left_comm, or_assoc]

/-- The first slot that repeats an earlier one, or one seen before. -/
theorem firstRepeat?_eq_some_iff {seen : List String} {segments : List Segment} {name : String} :
    firstRepeat? seen segments = some name ↔
      ∃ place, IsFirst (RepeatsAmong seen segments) place name := by
  induction segments generalizing seen with
  | nil => simp [firstRepeat?, IsFirst, RepeatsAmong]
  | cons segment rest ih =>
    have later : (∀ other, ¬ RepeatsAmong seen (segment :: rest) 0 other) →
        ((∃ place, IsFirst (RepeatsAmong (segment.key?.toList ++ seen) rest) place name) ↔
          ∃ place, IsFirst (RepeatsAmong seen (segment :: rest)) place name) := fun none =>
      (exists_isFirst_succ none (fun _ _ => repeatsAmong_succ_iff) name).symm
    cases segment with
    | literal text =>
      rw [firstRepeat?, ih]
      exact later fun other repeats => by simp [RepeatsAmong] at repeats
    | slot first =>
      have start : ∀ other, RepeatsAmong seen (.slot first :: rest) 0 other ↔
          first = other ∧ Text.lowercase first ∈ seen := by
        intro other
        simp only [RepeatsAmong, List.getElem?_cons_zero, Option.some.injEq, Segment.slot.injEq,
          Nat.not_lt_zero, false_and, exists_false, or_false]
        exact and_congr_right fun same => by rw [same]
      rw [firstRepeat?]
      split
      · next known =>
        have known : Text.lowercase first ∈ seen := by simpa using known
        have none_before : ∀ earlier < 0, ∀ other,
            ¬ RepeatsAmong seen (.slot first :: rest) earlier other :=
          fun earlier below => absurd below (Nat.not_lt_zero earlier)
        rw [Option.some.injEq]
        constructor
        · rintro rfl
          exact ⟨0, (start first).2 ⟨rfl, known⟩, none_before⟩
        · rintro ⟨place, repeats, least⟩
          cases place with
          | zero => exact ((start name).1 repeats).1
          | succ place => exact absurd ((start first).2 ⟨rfl, known⟩) (least 0 (by omega) first)
      · next new =>
        rw [ih]
        exact later fun other repeats => new (by simpa using ((start other).1 repeats).2)

/-- A slot of a template, as it is written, repeats an earlier one: their names are the same in
lower case. -/
def Repeats (raw : String) (place : Nat) (name : String) : Prop :=
  HasSlot raw place name ∧
    ∃ earlier < place, ∃ other, HasSlot raw earlier other ∧
      Text.lowercase other = Text.lowercase name

/-- Compiling fails when a slot repeats an earlier one, and names the first that does. -/
theorem compile_eq_error_iff_isFirst {raw : String} {fault : DuplicateParameter} :
    compile raw = .error fault ↔
      fault.template = raw ∧ ∃ place, IsFirst (Repeats raw) place fault.name := by
  have written : RepeatsAmong [] ((Path.pieces raw).map Segment.read) = Repeats raw := by
    funext place name
    simp only [RepeatsAmong, Repeats, getElem?_eq_slot_iff, List.not_mem_nil, false_or]
  rw [compile_eq_error_iff, Path.segmentChars_normalizeChars, firstRepeat?_eq_some_iff, written]

/-- If some name has a property at some place, there is a first that has it. -/
theorem exists_isFirst {property : Nat → String → Prop}
    (held : ∃ place name, property place name) : ∃ place name, IsFirst property place name := by
  classical
  obtain ⟨name, there⟩ := Nat.find_spec held
  refine ⟨Nat.find held, name, there, fun earlier below other also => ?_⟩
  exact Nat.find_min held below ⟨other, also⟩

/-- Compiling fails when some slot repeats an earlier one. -/
theorem exists_compile_eq_error_iff {raw : String} :
    (∃ fault, compile raw = .error fault) ↔ ∃ place name, Repeats raw place name := by
  constructor
  · rintro ⟨fault, failed⟩
    obtain ⟨-, place, repeats, -⟩ := compile_eq_error_iff_isFirst.1 failed
    exact ⟨place, fault.name, repeats⟩
  · intro repeats
    obtain ⟨place, name, first⟩ := exists_isFirst repeats
    exact ⟨⟨raw, name⟩, compile_eq_error_iff_isFirst.2 ⟨rfl, place, first⟩⟩

/-- Slots of a template at different places have names that differ in lower case. -/
theorem HasSlot.place_unique {template : Template} {place other : Nat} {name second : String}
    (slot : HasSlot template.raw place name) (also : HasSlot template.raw other second)
    (same : Text.lowercase name = Text.lowercase second) : place = other := by
  have unrepeated : ∀ place name, ¬ Repeats template.raw place name := by
    intro place name repeats
    obtain ⟨fault, failed⟩ := exists_compile_eq_error_iff.2 ⟨place, name, repeats⟩
    have compiled : compile template.raw = .ok template := compile_eq_ok_iff.2 rfl
    rw [compiled] at failed
    contradiction
  rcases Nat.lt_trichotomy place other with before | alike | after
  · exact absurd ⟨also, place, before, name, slot, same⟩ (unrepeated other second)
  · exact alike
  · exact absurd ⟨slot, other, after, second, also, same.symm⟩ (unrepeated place name)

/-! ## Captured values -/

variable {template : Template} {path : String} {captured : Dict String}

/-- The parameters of a template are the names of its slots. -/
theorem mem_parameters_iff {name : String} :
    name ∈ template.parameters ↔ ∃ place, HasSlot template.raw place name := by
  have named : ∀ segment : Segment, segment.name? = some name ↔ segment = .slot name := by
    rintro (_ | _) <;> simp [Segment.name?]
  unfold parameters
  simp only [List.mem_filterMap, named, exists_eq_right]
  rw [List.mem_iff_getElem?, segments_eq_map_pieces]
  exact exists_congr fun place => getElem?_eq_slot_iff

/-- What is captured has as many entries as the template has slots. -/
theorem size_of_capture? (captures : template.capture? path = some captured) :
    captured.size = template.parameters.length := by
  obtain ⟨fits, rfl⟩ := capture?_eq_some_iff.1 captures
  have keys : template.segments.filterMap Segment.key? =
      template.parameters.map Text.lowercase := by
    unfold parameters
    rw [List.map_filterMap]
    rfl
  rw [Dict.size_ofList fits.nodup_keys_entries, ← List.length_map Prod.fst, fits.map_fst_entries,
    keys, List.length_map]

/-- The entries of what is captured are the texts of the path at the slots, each under the name of
its slot in lower case. -/
theorem get?_of_capture? (captures : template.capture? path = some captured) {key value : String} :
    captured.get? key = some value ↔ ∃ place name text, HasSlot template.raw place name ∧
      (Path.texts path)[place]? = some text ∧ key = Text.lowercase name ∧
        value = String.ofList text := by
  obtain ⟨fits, rfl⟩ := capture?_eq_some_iff.1 captures
  rw [Dict.get?_ofList_eq_some_iff fits.nodup_keys_entries, mem_entries_iff]
  simp only [Segment.binding?_eq_some_iff, Prod.mk.injEq, segments_eq_map_pieces]
  constructor
  · rintro ⟨place, segment, text, slot, there, name, rfl, named, held⟩
    exact ⟨place, name, text, getElem?_eq_slot_iff.1 slot, there, named, held⟩
  · rintro ⟨place, name, text, slot, there, named, held⟩
    exact ⟨place, .slot name, text, getElem?_eq_slot_iff.2 slot, there, name, rfl, named, held⟩

/-- A path that is captured has a text at each slot, which is not empty. -/
theorem HasSlot.exists_text {place : Nat} {name : String}
    (slot : HasSlot template.raw place name) (captures : template.capture? path = some captured) :
    ∃ text, (Path.texts path)[place]? = some text ∧ text ≠ [] := by
  have fits := (capture?_eq_some_iff.1 captures).1
  have there : template.segments[place]? = some (.slot name) := by
    rw [segments_eq_map_pieces]
    exact getElem?_eq_slot_iff.2 slot
  obtain ⟨inside, here⟩ := List.getElem?_eq_some_iff.1 there
  have within : place < (Path.texts path).length := fits.length_eq ▸ inside
  have takes := fits.get inside within
  rw [List.get_eq_getElem, List.get_eq_getElem, here] at takes
  exact ⟨_, List.getElem?_eq_getElem within, takes⟩

/-! ## From the template to the request -/

/-- What is captured of a path holds the texts at the slots of a template, as it is written, and a
request finds them there. -/
structure Binds (raw path : String) (captured : Dict String) : Prop where
  /-- The keys are the names of the slots in lower case. -/
  keys : ∀ key, captured.contains key = true ↔
    ∃ place name, HasSlot raw place name ∧ Text.lowercase name = key
  /-- No two slots share a key. -/
  unshared : ∀ {place other name second}, HasSlot raw place name → HasSlot raw other second →
    Text.lowercase name = Text.lowercase second → place = other
  /-- A slot has the text at its place, which is not empty, and the text is found under the name of
  the slot and under each name with the same lower case. -/
  found : ∀ {place name}, HasSlot raw place name → ∃ text, (Path.texts path)[place]? = some text ∧
    text ≠ [] ∧ captured.get? (Text.lowercase name) = some (String.ofList text) ∧
      ∀ context : Context, context.parameters = captured →
        ∀ asked, Text.lowercase asked = Text.lowercase name →
          context.parameter? asked = some (String.ofList text) ∧
            context.requireParameter asked = .ok (String.ofList text)
  /-- Nothing is found under other names. -/
  missing : ∀ context : Context, context.parameters = captured →
    ∀ asked, (∀ place name, HasSlot raw place name → Text.lowercase asked ≠ Text.lowercase name) →
      context.parameter? asked = none ∧ context.requireParameter asked =
        .error ⟨.validation, "missing path parameter '" ++ asked ++ "'"⟩

/-- What a template captures holds the texts at its slots. -/
theorem binds_of_capture? (captures : template.capture? path = some captured) :
    Binds template.raw path captured := by
  have value : ∀ {place name text}, HasSlot template.raw place name →
      (Path.texts path)[place]? = some text →
        captured.get? (Text.lowercase name) = some (String.ofList text) :=
    fun slot there => (get?_of_capture? captures).2 ⟨_, _, _, slot, there, rfl, rfl⟩
  constructor
  case keys =>
    intro key
    unfold Dict.contains
    rw [Option.isSome_iff_exists]
    constructor
    · rintro ⟨value, held⟩
      obtain ⟨place, name, text, slot, -, named, -⟩ := (get?_of_capture? captures).1 held
      exact ⟨place, name, slot, named.symm⟩
    · rintro ⟨place, name, slot, rfl⟩
      obtain ⟨text, there, -⟩ := slot.exists_text captures
      exact ⟨_, value slot there⟩
  case unshared => exact HasSlot.place_unique
  case found =>
    intro place name slot
    obtain ⟨text, there, some⟩ := slot.exists_text captures
    refine ⟨text, there, some, value slot there, fun context held asked same => ?_⟩
    have found : context.parameter? asked = Option.some (String.ofList text) := by
      rw [Context.parameter?, held, same]
      exact value slot there
    exact ⟨found, by rw [Context.requireParameter, found]⟩
  case missing =>
    intro context held asked other
    have absent : context.parameter? asked = none := by
      rw [Context.parameter?, held, Option.eq_none_iff_forall_ne_some]
      intro value found
      obtain ⟨place, name, text, slot, -, named, -⟩ := (get?_of_capture? captures).1 found
      exact other place name slot named
    exact ⟨absent, by rw [Context.requireParameter, absent]⟩

/-- Compiling, capturing and looking up agree on the slots of a template. Compiling fails exactly
when a slot repeats an earlier one, and the fault names the first that does. Else what is captured
of a path has one entry for each slot: the decoded text at its place. -/
theorem slots_agree (raw : String) :
    (∀ fault, compile raw = .error fault ↔
      fault.template = raw ∧ ∃ place, IsFirst (Repeats raw) place fault.name) ∧
    ((∃ fault, compile raw = .error fault) ↔ ∃ place name, Repeats raw place name) ∧
    ∀ template, compile raw = .ok template →
      (∀ name, name ∈ template.parameters ↔ ∃ place, HasSlot raw place name) ∧
      ∀ path captured, template.capture? path = some captured →
        captured.size = template.parameters.length ∧ Binds raw path captured := by
  refine ⟨fun fault => compile_eq_error_iff_isFirst, exists_compile_eq_error_iff, ?_⟩
  intro template compiled
  obtain rfl := compile_eq_ok_iff.1 compiled
  refine ⟨fun name => mem_parameters_iff, fun path captured captures => ?_⟩
  exact ⟨size_of_capture? captures, binds_of_capture? captures⟩

/-- A slot with a capital sigma at the end of its name is found under the name that ends in a final
sigma, and not under the one that ends in another small sigma. -/
theorem slots_agree_sigma : ∃ template captured, compile "/docs/\x7bΟΔΟΣ\x7d" = .ok template ∧
    template.capture? "/Docs/a%2FB" = some captured ∧
      ∀ context : Context, context.parameters = captured →
        context.parameter? "οδος" = some "a/B" ∧ context.parameter? "οδοσ" = none := by
  let template : Template := ⟨"/docs/\x7bΟΔΟΣ\x7d", [.literal "docs", .slot "ΟΔΟΣ"],
    by decide +kernel, by decide +kernel⟩
  have compiled : compile "/docs/\x7bΟΔΟΣ\x7d" = .ok template := compile_eq_ok_iff.2 rfl
  have captures : template.capture? "/Docs/a%2FB" = some (Dict.ofList [("οδος", "a/B")]) := by
    decide +kernel
  have slot : HasSlot "/docs/\x7bΟΔΟΣ\x7d" 1 "ΟΔΟΣ" :=
    ⟨by decide +kernel, by decide, List.all_eq_true.1 (by decide +kernel)⟩
  have binds := (((slots_agree _).2.2 template compiled).2 _ _ captures).2
  refine ⟨template, _, compiled, captures, fun context held => ⟨?_, ?_⟩⟩
  · obtain ⟨text, there, -, -, found⟩ := binds.found slot
    have text_eq : (Path.texts "/Docs/a%2FB")[1]? = some "a/B".toList := by decide +kernel
    obtain rfl := Option.some.inj (text_eq.symm.trans there)
    exact (found context held "οδος" (by decide +kernel)).1
  · refine (binds.missing context held "οδοσ" fun place name other same => ?_).1
    have key := (binds.keys (Text.lowercase "οδοσ")).2 ⟨place, name, other, same.symm⟩
    exact absurd key (by decide +kernel)

end Template

end HttpGateway

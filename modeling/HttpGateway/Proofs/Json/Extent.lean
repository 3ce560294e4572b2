import Mathlib.Data.List.Basic
import HttpGateway.Proofs.Json.RoundTrip

/-!
# Where printed members end

A comma between the members of an object stands outside every string and every bracket inside it.
`Json.front` takes the characters before the first such comma. It passes over a printed value, with
all that is nested in the value, at the depth that it came at (`passes_chars`). Hence the text of an
object tells the names of its members and the texts of their values (`memberChars_inj`), and the
text of an object of texts tells the texts (`ofTexts_inj`).
-/

namespace HttpGateway.Json

open HttpGateway.Text.Utf8

/-! ## Scanning a text -/

/-- Where a scan of a text has got to. -/
inductive Scan
  /-- Outside strings, with so many brackets open. -/
  | outside (depth : Nat)
  /-- Inside a string, with so many brackets open around it. -/
  | inside (depth : Nat)
  /-- After a backslash inside a string. -/
  | escaped (depth : Nat)
deriving DecidableEq

/-- Where a scan gets to with one more character. -/
def Scan.next : Scan → Char → Scan
  | .outside depth, c =>
    if c = '"' then .inside depth
    else if c = '[' ∨ c = '\x7b' then .outside (depth + 1)
    else if c = ']' ∨ c = '\x7d' then .outside (depth - 1)
    else .outside depth
  | .inside depth, c =>
    if c = '"' then .outside depth else if c = '\\' then .escaped depth else .inside depth
  | .escaped depth, _ => .inside depth

/-- The characters before the first comma that is outside strings and outside brackets. -/
def front : Scan → List Char → List Char
  | _, [] => []
  | scan, c :: rest =>
    if scan = .outside 0 ∧ c = ',' then [] else c :: front (scan.next c) rest

/-- A scan that comes to some characters passes over them, whatever follows, and gets somewhere. -/
def Passes (first : Scan) (l : List Char) (last : Scan) : Prop :=
  ∀ rest, front first (l ++ rest) = l ++ front last rest

namespace Passes

variable {first middle last : Scan} {l m : List Char} {c : Char} {depth : Nat}

/-- A scan passes over nothing. -/
theorem nil : Passes first [] first := fun _ => rfl

/-- A scan passes over two lists one after the other. -/
theorem append (head : Passes first l middle) (tail : Passes middle m last) :
    Passes first (l ++ m) last := by
  intro rest
  rw [List.append_assoc, head, tail, List.append_assoc]

/-- A scan passes over a character that is no comma between members. -/
theorem cons (inner : ¬ (first = .outside 0 ∧ c = ',')) (tail : Passes (first.next c) l last) :
    Passes first (c :: l) last := by
  intro rest
  rw [List.cons_append, front, if_neg inner, tail]
  rfl

/-- A scan inside brackets passes over a comma. -/
theorem comma (tail : Passes (.outside (depth + 1)) l last) :
    Passes (.outside (depth + 1)) (',' :: l) last :=
  cons (by simp) tail

end Passes

/-- Outside strings a character opens and closes nothing, and it is no comma. -/
def Plain (c : Char) : Prop := c ∉ ['"', ',', '[', ']', '\x7b', '\x7d']

instance (c : Char) : Decidable (Plain c) := inferInstanceAs (Decidable (c ∉ _))

/-- A scan outside strings passes over plain characters. -/
theorem passes_of_plain {l : List Char} (plain : ∀ c ∈ l, Plain c) (depth : Nat) :
    Passes (.outside depth) l (.outside depth) := by
  induction l with
  | nil => exact .nil
  | cons c l ih =>
    obtain ⟨own, others⟩ := List.forall_mem_cons.1 plain
    simp only [Plain, List.mem_cons, List.not_mem_nil, or_false, not_or] at own
    obtain ⟨quote, comma, opening, closing, brace, unbrace⟩ := own
    have stays : (Scan.outside depth).next c = .outside depth := by
      simp [Scan.next, quote, opening, closing, brace, unbrace]
    refine .cons (fun stop => comma stop.2) ?_
    rw [stays]
    exact ih others

/-- A scan inside a string passes over characters that do not end it and escape nothing. -/
theorem passes_inside {l : List Char} (plain : ∀ c ∈ l, c ≠ '"' ∧ c ≠ '\\') (depth : Nat) :
    Passes (.inside depth) l (.inside depth) := by
  induction l with
  | nil => exact .nil
  | cons c l ih =>
    obtain ⟨⟨quote, backslash⟩, others⟩ := List.forall_mem_cons.1 plain
    have stays : (Scan.inside depth).next c = .inside depth := by
      simp [Scan.next, quote, backslash]
    refine .cons (by simp) ?_
    rw [stays]
    exact ih others

/-! ## Numbers -/

/-- A decimal digit is plain. -/
theorem plain_of_isDigit {c : Char} (digit : c.isDigit = true) : Plain c := by
  unfold Plain
  intro mem
  simp only [List.mem_cons, List.not_mem_nil, or_false] at mem
  rcases mem with rfl | rfl | rfl | rfl | rfl | rfl <;> simp at digit

/-- The decimal digits of a natural are plain. -/
theorem plain_toDigits (n : Nat) : ∀ c ∈ Nat.toDigits 10 n, Plain c := fun _ mem =>
  plain_of_isDigit (Nat.isDigit_of_mem_toDigits (by omega) (by omega) mem)

/-- The shortest digits of a number are below ten. -/
theorem shortest_lt_ten (x : Dyadic) (tie : Dyadic.Tie) :
    ∀ d ∈ (x.shortest tie).digits, d < 10 := by
  intro d mem
  unfold Dyadic.shortest at mem
  dsimp only at mem
  split at mem
  · next k step found =>
    have digit : d ∈ Dyadic.decimalDigits k :=
      List.mem_reverse.1 ((List.dropWhile_suffix _).subset (List.mem_reverse.1 mem))
    obtain ⟨c, written, rfl⟩ := List.mem_map.1 digit
    have decimal := Nat.isDigit_of_mem_toDigits (by omega) (by omega) written
    simp only [Char.isDigit, Bool.and_eq_true, decide_eq_true_eq] at decimal
    have upper : c.toNat ≤ 57 := decimal.2
    omega
  · cases mem

section Digits

variable {d : Dyadic.Digits} (below : ∀ digit ∈ d.digits, digit < 10)

include below

/-- Digits below ten are written with plain characters. -/
theorem plain_map_digitChar : ∀ c ∈ d.digits.map Dyadic.digitChar, Plain c := by
  have each : ∀ n < 10, Plain (Dyadic.digitChar n) := by decide
  exact List.forall_mem_map.2 fun digit mem => each digit (below digit mem)

/-- Digits below ten are plain in positional notation. -/
theorem plain_positional : ∀ c ∈ Dyadic.positional d, Plain c := by
  have digits := plain_map_digitChar below
  have zero : Plain '0' := by decide
  have point : Plain '.' := by decide
  have zeros : ∀ n, ∀ c ∈ List.replicate n '0', Plain c := fun n c mem =>
    List.eq_of_mem_replicate mem ▸ zero
  unfold Dyadic.positional
  dsimp only
  split
  · simp only [List.forall_mem_cons, List.forall_mem_append]
    exact ⟨zero, point, zeros _, digits⟩
  · split
    · exact List.forall_mem_append.2 ⟨digits, zeros _⟩
    · simp only [List.forall_mem_cons, List.forall_mem_append]
      exact ⟨fun c mem => digits c (List.mem_of_mem_take mem), point,
        fun c mem => digits c (List.mem_of_mem_drop mem)⟩

/-- Digits below ten are plain with a fraction or an exponent. -/
theorem plain_digitsChars : ∀ c ∈ digitsChars d, Plain c := by
  have digits := plain_map_digitChar below
  have positional := plain_positional below
  have point : Plain '.' := by decide
  unfold digitsChars
  dsimp only
  split
  · split
    · exact positional
    · have fraction : ∀ c ∈ ['.', '0'], Plain c := by simp [Plain]
      exact List.forall_mem_append.2 ⟨positional, fraction⟩
  · have mark : Plain 'e' := by decide
    have sign : Plain (if d.power < 0 then '-' else '+') := by split <;> decide
    refine List.forall_mem_append.2 ⟨?_, List.forall_mem_cons.2 ⟨mark,
      List.forall_mem_cons.2 ⟨sign, plain_toDigits _⟩⟩⟩
    split
    · next first second rest written =>
      rw [written] at digits
      obtain ⟨head, tail⟩ := List.forall_mem_cons.1 digits
      exact List.forall_mem_cons.2 ⟨head, List.forall_mem_cons.2 ⟨point, tail⟩⟩
    · exact digits

end Digits

/-- A number is written with plain characters. -/
theorem plain_numberChars (n : Number) : ∀ c ∈ numberChars n, Plain c := by
  have minus : Plain '-' := by decide
  cases n with
  | integer n =>
    cases n with
    | ofNat n => exact plain_toDigits n
    | negSucc n => exact List.forall_mem_cons.2 ⟨minus, plain_toDigits (n + 1)⟩
  | real x =>
    refine List.forall_mem_append.2 ⟨?_, ?_⟩
    · unfold Dyadic.sign
      split <;> simp [minus]
    · split
      · simp [Plain]
      · exact plain_digitsChars (shortest_lt_ten x .toEven)

/-! ## Strings -/

/-- A character inside a string stands for itself, or it is escaped: the character after the
backslash may be any, and none after that ends the string or escapes another. -/
theorem escapeChar_cases (c : Char) :
    (escapeChar c = [c] ∧ c ≠ '"' ∧ c ≠ '\\') ∨
      ∃ mark more, escapeChar c = '\\' :: mark :: more ∧ ∀ d ∈ more, d ≠ '"' ∧ d ≠ '\\' := by
  by_cases visible : 0x20 ≤ c.toNat ∧ c.toNat ≠ 0x22 ∧ c.toNat ≠ 0x5C
  · obtain ⟨visible, quote, backslash⟩ := visible
    refine .inl ⟨by simp only [escapeChar, quote, backslash, visible, ↓reduceIte], ?_, ?_⟩
    · rintro rfl
      exact quote rfl
    · rintro rfl
      exact backslash rfl
  · right
    have digit : ∀ n < 16, hexDigit n ≠ '"' ∧ hexDigit n ≠ '\\' := by decide
    unfold escapeChar
    dsimp only
    repeat' split
    · exact ⟨'"', [], rfl, by simp⟩
    · exact ⟨'\\', [], rfl, by simp⟩
    · omega
    · exact ⟨'b', [], rfl, by simp⟩
    · exact ⟨'f', [], rfl, by simp⟩
    · exact ⟨'n', [], rfl, by simp⟩
    · exact ⟨'r', [], rfl, by simp⟩
    · exact ⟨'t', [], rfl, by simp⟩
    · refine ⟨'u', _, rfl, ?_⟩
      simp only [List.forall_mem_cons]
      exact ⟨by decide, by decide, digit _ (by omega), digit _ (by omega), by simp⟩

/-- A scan inside a string passes over a character as it stands there. -/
theorem passes_escapeChar (c : Char) (depth : Nat) :
    Passes (.inside depth) (escapeChar c) (.inside depth) := by
  rcases escapeChar_cases c with ⟨same, quote, backslash⟩ | ⟨mark, more, same, plain⟩
  · rw [same]
    exact passes_inside (by simp [quote, backslash]) depth
  · rw [same]
    exact .cons (by simp) (.cons (by simp [Scan.next]) (passes_inside plain depth))

/-- A scan passes over a printed string. -/
theorem passes_stringChars (s : String) (depth : Nat) :
    Passes (.outside depth) (stringChars s) (.outside depth) := by
  have inner : ∀ l : List Char, Passes (.inside depth) (l.flatMap escapeChar) (.inside depth) := by
    intro l
    induction l with
    | nil => exact .nil
    | cons c l ih =>
      rw [List.flatMap_cons]
      exact (passes_escapeChar c depth).append ih
  have closed : Passes (.inside depth) ['"'] (.outside depth) := .cons (by simp) .nil
  exact .cons (by simp) ((inner s.toList).append closed)

/-! ## Values -/

-- A bracket raises the depth for what it holds, so commas there do not count, and the closing one
-- brings the scan back to where the value began.
mutual

/-- A scan passes over a printed value. -/
theorem passes_chars (value : Json) (depth : Nat) :
    Passes (.outside depth) value.chars (.outside depth) := by
  match value with
  | .null => exact passes_of_plain (by simp [chars, Plain]) depth
  | .bool true => exact passes_of_plain (by simp [chars, Plain]) depth
  | .bool false => exact passes_of_plain (by simp [chars, Plain]) depth
  | .number n => exact passes_of_plain (plain_numberChars n) depth
  | .string s => exact passes_stringChars s depth
  | .array items =>
    have closed : Passes (.outside (depth + 1)) [']'] (.outside depth) := .cons (by simp) .nil
    exact .cons (by simp) ((passes_itemChars items depth).append closed)
  | .object members =>
    have closed : Passes (.outside (depth + 1)) ['\x7d'] (.outside depth) := .cons (by simp) .nil
    exact .cons (by simp) ((passes_memberChars members depth).append closed)

/-- A scan inside brackets passes over printed items. -/
theorem passes_itemChars (items : List Json) (depth : Nat) :
    Passes (.outside (depth + 1)) (itemChars items) (.outside (depth + 1)) := by
  match items with
  | [] => exact .nil
  | [item] => exact passes_chars item (depth + 1)
  | item :: next :: rest =>
    exact (passes_chars item (depth + 1)).append (.comma (passes_itemChars (next :: rest) depth))

/-- A scan inside brackets passes over printed members. -/
theorem passes_memberChars (members : List (String × Json)) (depth : Nat) :
    Passes (.outside (depth + 1)) (memberChars members) (.outside (depth + 1)) := by
  match members with
  | [] => exact .nil
  | [(name, value)] =>
    exact (passes_stringChars name (depth + 1)).append
      (.cons (by simp) (passes_chars value (depth + 1)))
  | (name, value) :: next :: rest =>
    exact (passes_stringChars name (depth + 1)).append (.cons (by simp)
      ((passes_chars value (depth + 1)).append (.comma (passes_memberChars (next :: rest) depth))))

end

/-! ## What a printed object tells -/

/-- What stands after the first of some members: a comma and the further ones, if there are any. -/
def furtherChars : List (String × Json) → List Char
  | [] => []
  | next :: rest => ',' :: memberChars (next :: rest)

/-- Printed members are the first and, after it, the further ones. -/
theorem memberChars_cons (member : String × Json) (rest : List (String × Json)) :
    memberChars (member :: rest) =
      stringChars member.1 ++ ':' :: (member.2.chars ++ furtherChars rest) := by
  cases rest with
  | nil => rw [memberChars, furtherChars, List.append_nil]
  | cons next rest => rw [memberChars, furtherChars]

/-- The value of a member ends where the further members begin. -/
theorem front_chars (value : Json) (rest : List (String × Json)) :
    front (.outside 0) (value.chars ++ furtherChars rest) = value.chars := by
  have ends : front (.outside 0) (furtherChars rest) = [] := by
    cases rest <;> rfl
  rw [passes_chars value 0, ends, List.append_nil]

/-- Printed strings are told apart, whatever follows them. -/
theorem stringChars_append_inj {s t : String} {l m : List Char}
    (same : stringChars s ++ l = stringChars t ++ m) : s = t ∧ l = m := by
  have octets := congrArg encodeChars same
  rw [encodeChars_append, encodeChars_append, encodeChars_stringChars, encodeChars_stringChars,
    List.cons_append, List.cons_append, List.cons.injEq] at octets
  have read := congrArg readString octets.2
  rw [readString_stringOctets, readString_stringOctets] at read
  obtain rfl : s = t := congrArg Prod.fst (Except.ok.inj read)
  exact ⟨rfl, List.append_cancel_left same⟩

/-- Printed members tell their names and the texts of their values. -/
theorem memberChars_inj {members others : List (String × Json)}
    (same : memberChars members = memberChars others) :
    members.map (fun member => (member.1, member.2.chars)) =
      others.map fun member => (member.1, member.2.chars) := by
  induction members generalizing others with
  | nil =>
    cases others with
    | nil => rfl
    | cons other others => simp [memberChars_cons, memberChars, stringChars] at same
  | cons member members ih =>
    cases others with
    | nil => simp [memberChars_cons, memberChars, stringChars] at same
    | cons other others =>
      rw [memberChars_cons, memberChars_cons] at same
      obtain ⟨names, values⟩ := stringChars_append_inj same
      replace values := (List.cons.inj values).2
      have texts := congrArg (front (.outside 0)) values
      rw [front_chars, front_chars] at texts
      rw [texts] at values
      have further : memberChars members = memberChars others := by
        have rest := List.append_cancel_left values
        cases members <;> cases others
        · rfl
        · cases rest
        · cases rest
        · exact (List.cons.inj rest).2
      rw [List.map_cons, List.map_cons, ih further, names, texts]

/-- The characters of an object tell the names of its members and the texts of their values. -/
theorem object_inj {members others : List (String × Json)}
    (same : (object members).chars = (object others).chars) :
    members.map (fun member => (member.1, member.2.chars)) =
      others.map fun member => (member.1, member.2.chars) := by
  rw [chars, chars] at same
  exact memberChars_inj (List.append_cancel_right (List.cons.inj same).2)

/-- The characters of a string tell the string. -/
theorem string_inj {s t : String} (same : (string s).chars = (string t).chars) : s = t :=
  (stringChars_append_inj (congrArg (· ++ []) same)).1

/-- The characters of an object of texts tell the texts. -/
theorem ofTexts_inj {d e : Dict String} (same : (ofTexts d).chars = (ofTexts e).chars) :
    d = e := by
  have members := object_inj same
  rw [Dict.entries_map, Dict.entries_map, List.map_map, List.map_map] at members
  refine Dict.ext (List.map_injective_iff.2 (fun entry other pair => ?_) members)
  obtain ⟨names, texts⟩ := Prod.mk.inj pair
  exact Prod.ext names (string_inj texts)

end HttpGateway.Json

import HttpGateway.Proofs.Json.RoundTrip

/-!
# Reading scalars

An integer that is written in decimal is read with its exact value if it is in the range of the
integers that a number is kept as (`readValue_integer`). So are the literal names and strings, and
the text of a dictionary of such scalars is therefore read as the object that it was printed from
(`ofText?_text_of_scalars`).
-/

namespace HttpGateway.Json

open Text.Utf8

/-! ## Digits -/

/-- The value of a decimal digit. -/
def digit (c : Char) : Nat := c.toNat - '0'.toNat

/-- The number of a decimal digit is from 48 to 57. -/
theorem bounds_of_isDigit {c : Char} (decimal : c.isDigit = true) :
    48 ≤ c.toNat ∧ c.toNat ≤ 57 := by
  simp only [Char.isDigit, Bool.and_eq_true, decide_eq_true_eq] at decimal
  exact ⟨decimal.1, decimal.2⟩

/-- The octet of a decimal digit has the value of the digit. -/
theorem digitValue?_octet {c : Char} (decimal : c.isDigit = true) :
    digitValue? (octet c.toNat) = some (digit c) := by
  obtain ⟨lower, upper⟩ := bounds_of_isDigit decimal
  have number : (octet c.toNat).toNat = c.toNat := octet_toNat (by omega)
  rw [digitValue?, number, if_pos ⟨lower, upper⟩]
  rfl

/-- Decimal digits are encoded as one octet each. -/
theorem encodeChars_digits_cons {c : Char} {rest : List Char} (decimal : c.isDigit = true) :
    encodeChars (c :: rest) = octet c.toNat :: encodeChars rest := by
  have upper := (bounds_of_isDigit decimal).2
  rw [encodeChars_cons, encodeChar_ascii (by omega)]
  rfl

/-- No octet that continues a number follows: neither a digit nor a point nor the mark of an
exponent. -/
def EndsNumber (rest : List UInt8) : Prop :=
  ∀ b ∈ rest.head?, digitValue? b = none ∧ b ≠ 0x2E ∧ b ≠ 0x65 ∧ b ≠ 0x45

/-- The digits of a number are taken up to its end. -/
theorem takeDigits_encodeChars {digits : List Char} (decimal : ∀ c ∈ digits, c.isDigit = true)
    {rest : List UInt8} (ends : EndsNumber rest) :
    takeDigits (encodeChars digits ++ rest) = (digits.map digit, rest) := by
  induction digits with
  | nil =>
    cases rest with
    | nil => rfl
    | cons b tail =>
      have none := (ends b rfl).1
      change takeDigits (b :: tail) = _
      rw [takeDigits, none]
      rfl
  | cons c digits ih =>
    obtain ⟨first, others⟩ := List.forall_mem_cons.1 decimal
    rw [encodeChars_digits_cons first, List.cons_append, takeDigits, digitValue?_octet first]
    simp only [ih others, List.map_cons]

/-- Appending digits to a significand does not make it smaller. -/
theorem le_foldl_digits (digits : List Nat) (significand : Nat) :
    significand ≤ digits.foldl (fun sum d => 10 * sum + d) significand := by
  induction digits generalizing significand with
  | nil => exact Nat.le_refl _
  | cons d rest ih =>
    have step := ih (10 * significand + d)
    rw [List.foldl_cons]
    omega

/-- All digits are gathered when the number that they make up is within the limit. -/
theorem gather_of_le {digits : List Nat} {significand : Nat}
    (fits : digits.foldl (fun sum d => 10 * sum + d) significand ≤ significandLimit) :
    gather significand digits = (digits.foldl (fun sum d => 10 * sum + d) significand, []) := by
  induction digits generalizing significand with
  | nil => rfl
  | cons d rest ih =>
    rw [List.foldl_cons] at fits ⊢
    have step := le_foldl_digits rest (10 * significand + d)
    rw [gather, if_pos (by omega), ih fits]

/-- The digits of a natural within the limit are gathered to the natural. -/
theorem gather_toDigits {n : Nat} (fits : n ≤ significandLimit) :
    gather 0 ((Nat.toDigits 10 n).map digit) = (n, []) := by
  have value : ((Nat.toDigits 10 n).map digit).foldl (fun sum d => 10 * sum + d) 0 = n := by
    rw [List.foldl_map]
    exact Nat.ofDigitChars_ten_toDigits
  rw [gather_of_le (by rw [value]; exact fits), value]

/-- The first digit of a natural is zero only if the natural is. -/
theorem eq_zero_of_digit_head {n : Nat} {c : Char} {rest : List Char}
    (written : Nat.toDigits 10 n = c :: rest) (zero : digit c = 0) : n = 0 := by
  induction n using Nat.strongRecOn generalizing rest with
  | ind n ih =>
    by_cases small : n < 10
    · rw [Nat.toDigits_of_lt_base small] at written
      obtain ⟨rfl, -⟩ := List.cons.inj written
      have number := Nat.toNat_digitChar_of_lt_ten small
      change n.digitChar.toNat - 48 = 0 at zero
      omega
    · -- The first digit is that of the number without its last digit.
      rw [Nat.toDigits_of_base_le (by omega) (by omega)] at written
      obtain ⟨first, more, front⟩ := List.exists_cons_of_ne_nil (Nat.toDigits_ne_nil (n := n / 10))
      rw [front, List.cons_append] at written
      obtain ⟨rfl, -⟩ := List.cons.inj written
      have none := ih (n / 10) (by omega) front
      omega

/-! ## Integers -/

/-- The digits of a natural are read up to the end of the number. -/
theorem readNumber_toDigits (n : Nat) (negative : Bool) {rest : List UInt8}
    (ends : EndsNumber rest) :
    readNumber negative (encodeChars (Nat.toDigits 10 n) ++ rest) =
      readAfterWhole negative ((Nat.toDigits 10 n).map digit) rest := by
  have decimal : ∀ c ∈ Nat.toDigits 10 n, c.isDigit = true := fun _ mem =>
    Nat.isDigit_of_mem_toDigits (by omega) (by omega) mem
  -- A zero is not followed by a digit; any other number does not begin with one.
  by_cases none : n = 0
  · subst none
    change readNumber negative (0x30 :: rest) = readAfterWhole negative [0] rest
    cases rest with
    | nil => rfl
    | cons b tail =>
      have stop := (ends b rfl).1
      have zero : digitValue? 0x30 = some 0 := rfl
      simp [readNumber, stop, zero]
  · obtain ⟨c, more, written⟩ := List.exists_cons_of_ne_nil (Nat.toDigits_ne_nil (n := n) (b := 10))
    rw [written] at decimal ⊢
    obtain ⟨first, others⟩ := List.forall_mem_cons.1 decimal
    obtain ⟨d, value⟩ : ∃ d, digit c = d + 1 :=
      Nat.exists_eq_succ_of_ne_zero fun zero => none (eq_zero_of_digit_head written zero)
    rw [encodeChars_digits_cons first, List.cons_append]
    unfold readNumber
    simp only [digitValue?_octet first, value, takeDigits_encodeChars others ends, List.map_cons]

/-- The digits of a natural within the limit stand for an integer, with a sign only if it is not
zero and in the range. -/
theorem whole?_toDigits {n : Nat} (fits : n ≤ significandLimit) {negative : Bool}
    (signed : negative = true → n ≠ 0 ∧ inIntegerRange (-n) = true) :
    whole? negative ((Nat.toDigits 10 n).map digit) =
      some (.integer (if negative then -(n : Int) else n)) := by
  unfold whole?
  rw [gather_toDigits fits]
  cases negative with
  | false => rfl
  | true =>
    obtain ⟨filled, inside⟩ := signed rfl
    simp [filled, inside]

/-- A number without a fraction and an exponent is finished at its end. -/
theorem readAfterWhole_of_ends {negative : Bool} {digits : List Nat} {number : Number}
    (whole : whole? negative digits = some number) {rest : List UInt8} (ends : EndsNumber rest) :
    readAfterWhole negative digits rest = .ok (.number number, rest) := by
  unfold readAfterWhole
  cases rest with
  | nil => simp only [readAfterWhole.finishWhole, whole]
  | cons b tail =>
    obtain ⟨-, point, lower, upper⟩ := ends b rfl
    simp [readAfterWhole.finishWhole, whole, point, lower, upper]

/-- The digits of a natural within the limit are read as an integer, after a sign only if it is not
zero and in the range. -/
theorem readNumber_integer {n : Nat} (fits : n ≤ significandLimit) {negative : Bool}
    (signed : negative = true → n ≠ 0 ∧ inIntegerRange (-n) = true) {rest : List UInt8}
    (ends : EndsNumber rest) : readNumber negative (encodeChars (Nat.toDigits 10 n) ++ rest) =
      .ok (.number (.integer (if negative then -(n : Int) else n)), rest) := by
  rw [readNumber_toDigits n negative ends]
  exact readAfterWhole_of_ends (whole?_toDigits fits signed) ends

/-- A digit opens a number without a sign. -/
theorem readValue_digit (depth : Nat) {c : Char} (decimal : c.isDigit = true)
    (input : List UInt8) : readValue (depth + 1) (octet c.toNat :: input) =
      readNumber false (octet c.toNat :: input) := by
  obtain ⟨lower, upper⟩ := bounds_of_isDigit decimal
  have number : (octet c.toNat).toNat = c.toNat := octet_toNat (by omega)
  have differ : ∀ {b : UInt8}, b.toNat < 48 ∨ 57 < b.toNat → octet c.toNat ≠ b := by
    rintro b outside rfl
    omega
  have skipped : skipSpace (octet c.toNat :: input) = octet c.toNat :: input := by
    have filled : isSpace (octet c.toNat) = false := by
      simp [isSpace, differ (b := 0x20) (by decide), differ (b := 0x0A) (by decide),
        differ (b := 0x09) (by decide), differ (b := 0x0D) (by decide)]
    rw [skipSpace, List.dropWhile_cons_of_neg (by simp [filled])]
  rw [readValue]
  simp [skipped, digitValue?_octet decimal, differ (b := 0x6E) (by decide),
    differ (b := 0x74) (by decide), differ (b := 0x66) (by decide), differ (b := 0x2D) (by decide)]

/-- A minus sign opens a number. -/
theorem readValue_minus (depth : Nat) (input : List UInt8) :
    readValue (depth + 1) (0x2D :: input) = readNumber true input := by
  have skipped : skipSpace (0x2D :: input) = 0x2D :: input := rfl
  rw [readValue]
  simp [skipped]

/-- An integer in the range is read with its exact value up to the end of the number. -/
theorem readValue_integer {n : Int} (inside : inIntegerRange n = true) (depth : Nat)
    {rest : List UInt8} (ends : EndsNumber rest) :
    readValue (depth + 1) (encodeChars (integerChars n) ++ rest) =
      .ok (.number (.integer n), rest) := by
  have bounds := inside
  simp only [inIntegerRange, Bool.and_eq_true, decide_eq_true_eq] at bounds
  cases n with
  | ofNat n =>
    have fits : n ≤ significandLimit := Int.ofNat_le.1 bounds.2
    have unsigned : false = true → n ≠ 0 ∧ inIntegerRange (-n) = true := nofun
    have read := readNumber_integer fits unsigned ends
    obtain ⟨c, more, written⟩ := List.exists_cons_of_ne_nil (Nat.toDigits_ne_nil (n := n) (b := 10))
    have first : c.isDigit = true :=
      Nat.isDigit_of_mem_toDigits (b := 10) (n := n) (by omega) (by omega) (by simp [written])
    rw [written, encodeChars_digits_cons first, List.cons_append] at read
    rw [integerChars, written, encodeChars_digits_cons first, List.cons_append,
      readValue_digit depth first, read]
    rfl
  | negSucc n =>
    have fits : n + 1 ≤ significandLimit := by
      have lower := Int.neg_le_neg bounds.1
      unfold significandLimit
      omega
    have signed : true = true → n + 1 ≠ 0 ∧ inIntegerRange (-(n + 1 : Nat)) = true :=
      fun _ => ⟨Nat.succ_ne_zero n, inside⟩
    have read := readNumber_integer fits signed ends
    have sign : encodeChar '-' = [0x2D] := by decide
    rw [integerChars, encodeChars_cons, sign, List.singleton_append, List.cons_append,
      readValue_minus, read]
    rfl

/-! ## Objects of scalars -/

/-- A value is a literal name, a string or an integer in the range. -/
inductive Scalar : Json → Prop
  /-- The null value. -/
  | null : Scalar .null
  /-- A truth value. -/
  | bool (b : Bool) : Scalar (.bool b)
  /-- An integer in the range. -/
  | integer {n : Int} (inside : inIntegerRange n = true) : Scalar (.number (.integer n))
  /-- A string. -/
  | string (s : String) : Scalar (.string s)

/-- A scalar is read back as a member. -/
theorem Scalar.readsMember {value : Json} (scalar : value.Scalar) (depth : Nat) :
    ReadsMember (readValue (depth + 1)) value := by
  cases scalar with
  | null => exact fun _ _ _ => rfl
  | bool b => cases b <;> exact fun _ _ _ => rfl
  | integer inside =>
    intro b mem rest
    refine readValue_integer inside depth fun first same => ?_
    obtain rfl := Option.some.inj same
    rcases List.mem_cons.1 mem with rfl | mem
    · decide
    · obtain rfl := List.mem_singleton.1 mem
      decide
  | string s => exact (readValue_string s depth).readsMember

/-- The text of a dictionary of scalars is read as the object that it was printed from. -/
theorem ofText?_text_of_scalars {d : Dict Json}
    (scalars : ∀ name value, d.get? name = some value → value.Scalar) :
    ofText? (ofDict d).text = some (ofDict d) := by
  apply ofText?_text_ofDict
  rintro ⟨name, value⟩ mem
  exact (scalars name value (Dict.get?_eq_some_iff.2 mem)).readsMember 126

end HttpGateway.Json

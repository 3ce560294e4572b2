import HttpGateway.Json.Printer
import HttpGateway.Json.Reader
import HttpGateway.Proofs.Dict
import HttpGateway.Proofs.Text.Coding

/-!
# Reading what was printed

The reader takes back the octets of a printed string, whatever follows them, and so those of an
object whose values it takes back (`readValue_object`). The text of a dictionary of texts is
therefore read as the object that it was printed from (`ofText?_text_ofTexts`). It is an ASCII text
exactly when the keys and values are (`isAscii_text_ofTexts_iff`).
-/

namespace HttpGateway.Json

open Text.Utf8

/-! ## Escapes -/

/-- The octet of a hexadecimal digit has the value that the digit was written for. -/
theorem hexValue?_hexDigit {n : Nat} (digit : n < 16) :
    hexValue? (octet (hexDigit n).toNat) = some n := by
  have each : ∀ n < 16, hexValue? (octet (hexDigit n).toNat) = some n := by decide
  exact each n digit

/-- A hexadecimal digit is an ASCII character. -/
theorem hexDigit_ascii {n : Nat} (digit : n < 16) : (hexDigit n).toNat < 0x80 := by
  have each : ∀ n < 16, (hexDigit n).toNat < 0x80 := by decide
  exact each n digit

/-- Two zeros and the two hexadecimal digits of a number below 256 are read as the number. -/
theorem readHex_hexDigits {n : Nat} (small : n < 256) (rest : List UInt8) :
    readHex (0x30 :: 0x30 :: octet (hexDigit (n / 16)).toNat ::
      octet (hexDigit (n % 16)).toNat :: rest) = .ok (n, rest) := by
  have zero : hexValue? 0x30 = some 0 := by decide
  have high := hexValue?_hexDigit (n := n / 16) (by omega)
  have low := hexValue?_hexDigit (n := n % 16) (by omega)
  have value : ((0 * 16 + 0) * 16 + n / 16) * 16 + n % 16 = n := by omega
  simp only [readHex, zero, high, low, value]

/-- The octets of a character inside a string are its own, or a backslash and what is read as an
escape for the character. -/
theorem octets_escapeChar (c : Char) :
    (escapeChar c = [c] ∧ 0x20 ≤ c.toNat ∧ c.toNat ≠ 0x22 ∧ c.toNat ≠ 0x5C) ∨
      ∃ octets, encodeChars (escapeChar c) = 0x5C :: octets ∧
        ∀ rest, readEscape (octets ++ rest) = .ok (encodeChar c, rest) := by
  have named : ∀ {n}, c.toNat = n → c = Char.ofNat n := fun same => by
    rw [← same, Char.ofNat_toNat]
  by_cases quote : c.toNat = 0x22
  · obtain rfl := named quote
    exact .inr ⟨[0x22], by decide, fun _ => rfl⟩
  by_cases backslash : c.toNat = 0x5C
  · obtain rfl := named backslash
    exact .inr ⟨[0x5C], by decide, fun _ => rfl⟩
  by_cases visible : 0x20 ≤ c.toNat
  · refine .inl ⟨?_, visible, quote, backslash⟩
    simp only [escapeChar, quote, backslash, visible, ↓reduceIte]
  right
  by_cases b : c.toNat = 0x8
  · obtain rfl := named b
    exact ⟨[0x62], by decide, fun _ => rfl⟩
  by_cases f : c.toNat = 0xC
  · obtain rfl := named f
    exact ⟨[0x66], by decide, fun _ => rfl⟩
  by_cases n : c.toNat = 0xA
  · obtain rfl := named n
    exact ⟨[0x6E], by decide, fun _ => rfl⟩
  by_cases r : c.toNat = 0xD
  · obtain rfl := named r
    exact ⟨[0x72], by decide, fun _ => rfl⟩
  by_cases t : c.toNat = 0x9
  · obtain rfl := named t
    exact ⟨[0x74], by decide, fun _ => rfl⟩
  -- The other control characters are written with four hexadecimal digits.
  refine ⟨[0x75, 0x30, 0x30, octet (hexDigit (c.toNat / 16)).toNat,
    octet (hexDigit (c.toNat % 16)).toNat], ?_, fun rest => ?_⟩
  · have high := encodeChar_ascii (hexDigit_ascii (n := c.toNat / 16) (by omega))
    have low := encodeChar_ascii (hexDigit_ascii (n := c.toNat % 16) (by omega))
    simp only [escapeChar, quote, backslash, visible, b, f, n, r, t, ↓reduceIte, encodeChars,
      List.flatMap_cons, List.flatMap_nil, high, low]
    rfl
  · have digits := readHex_hexDigits (n := c.toNat) (by omega) rest
    change (readHex (0x30 :: 0x30 :: _ :: _ :: rest) >>= _) = _
    rw [digits]
    change (if 0xDC00 ≤ c.toNat ∧ c.toNat ≤ 0xDFFF then _ else
      if 0xD800 ≤ c.toNat ∧ c.toNat ≤ 0xDBFF then _ else _) = _
    rw [if_neg (by omega), if_neg (by omega), Char.ofNat_toNat]

/-! ## Strings -/

/-- Octets that need no escape are read as themselves, one in each round. -/
theorem readOctets_plain {octets : List UInt8}
    (plain : ∀ b ∈ octets, 0x20 ≤ b.toNat ∧ b ≠ 0x22 ∧ b ≠ 0x5C) (fuel : Nat)
    (read rest : List UInt8) :
    readOctets (fuel + octets.length) read (octets ++ rest) =
      readOctets fuel (octets.reverse ++ read) rest := by
  induction octets generalizing read with
  | nil => rfl
  | cons b octets ih =>
    obtain ⟨⟨visible, quote, backslash⟩, others⟩ := List.forall_mem_cons.1 plain
    rw [List.length_cons, ← Nat.add_assoc, List.cons_append, readOctets, if_neg quote,
      if_neg backslash, if_neg (by omega), ih others]
    simp

/-- The octets of a character without an escape need none. -/
theorem plain_of_mem_encodeChar {c : Char} (visible : 0x20 ≤ c.toNat) (quote : c.toNat ≠ 0x22)
    (backslash : c.toNat ≠ 0x5C) :
    ∀ b ∈ encodeChar c, 0x20 ≤ b.toNat ∧ b ≠ 0x22 ∧ b ≠ 0x5C := by
  intro b mem
  have number : b.toNat = c.toNat ∨ 0x80 ≤ b.toNat := by
    by_cases ascii : c.toNat < 0x80
    · rw [encodeChar_ascii ascii, List.mem_singleton] at mem
      exact .inl (by rw [mem, octet_toNat (by omega)])
    · exact .inr (le_of_mem_encodeChar (by omega) mem)
  refine ⟨by omega, ?_, ?_⟩
  · rintro rfl
    have : (0x22 : UInt8).toNat = 0x22 := rfl
    omega
  · rintro rfl
    have : (0x5C : UInt8).toNat = 0x5C := rfl
    omega

/-- A character inside a string is read back, in at most as many rounds as it has octets there. -/
theorem readOctets_escapeChar (c : Char) {fuel : Nat}
    (enough : (encodeChars (escapeChar c)).length ≤ fuel) :
    ∃ left, fuel ≤ left + (encodeChars (escapeChar c)).length ∧ ∀ read rest,
      readOctets fuel read (encodeChars (escapeChar c) ++ rest) =
        readOctets left ((encodeChar c).reverse ++ read) rest := by
  rcases octets_escapeChar c with ⟨same, visible, quote, backslash⟩ | ⟨octets, written, stands⟩
  · have own : encodeChars (escapeChar c) = encodeChar c := by
      rw [same, encodeChars_cons]
      exact List.append_nil _
    rw [own] at enough ⊢
    refine ⟨fuel - (encodeChar c).length, by omega, fun read rest => ?_⟩
    have all := readOctets_plain (plain_of_mem_encodeChar visible quote backslash)
      (fuel - (encodeChar c).length) read rest
    rwa [Nat.sub_add_cancel enough] at all
  · rw [written, List.length_cons] at enough ⊢
    refine ⟨fuel - 1, by omega, fun read rest => ?_⟩
    obtain ⟨rounds, rfl⟩ : ∃ rounds, fuel = rounds + 1 := ⟨fuel - 1, by omega⟩
    have backslash : (0x5C : UInt8) ≠ 0x22 := by decide
    rw [List.cons_append, readOctets, if_neg backslash, if_pos rfl, stands]
    rfl

/-- The characters inside a string are read back up to the closing quotation mark. -/
theorem readOctets_escapeChars (l : List Char) {fuel : Nat}
    (enough : (encodeChars (l.flatMap escapeChar)).length < fuel) (read rest : List UInt8) :
    readOctets fuel read (encodeChars (l.flatMap escapeChar) ++ 0x22 :: rest) =
      .ok (read.reverse ++ encodeChars l, rest) := by
  induction l generalizing fuel read with
  | nil =>
    obtain ⟨rounds, rfl⟩ : ∃ rounds, fuel = rounds + 1 := ⟨fuel - 1, by omega⟩
    change readOctets (rounds + 1) read (0x22 :: rest) = .ok (read.reverse ++ [], rest)
    rw [readOctets, if_pos rfl, List.append_nil]
  | cons c l ih =>
    rw [List.flatMap_cons, encodeChars_append, List.length_append] at enough
    obtain ⟨left, kept, step⟩ :=
      readOctets_escapeChar c (Nat.le_of_add_right_le (Nat.le_of_lt enough))
    rw [List.flatMap_cons, encodeChars_append, List.append_assoc, step, ih (by omega),
      encodeChars_cons, List.reverse_append, List.reverse_reverse, List.append_assoc]

/-- The octets of a string after its opening quotation mark. -/
def stringOctets (s : String) : List UInt8 :=
  encodeChars (s.toList.flatMap escapeChar) ++ [0x22]

/-- A printed string begins with a quotation mark. -/
theorem encodeChars_stringChars (s : String) :
    encodeChars (stringChars s) = 0x22 :: stringOctets s := by
  rw [stringChars, encodeChars_cons, encodeChars_append]
  rfl

/-- A printed string is read back, whatever follows it. -/
theorem readString_stringOctets (s : String) (rest : List UInt8) :
    readString (stringOctets s ++ rest) = .ok (s, rest) := by
  have whole : decode? (encodeChars s.toList) = some s := decode?_encode s
  unfold readString stringOctets
  rw [List.append_assoc, List.singleton_append,
    readOctets_escapeChars _ (by rw [List.length_append]; omega)]
  simp only [bind, Except.bind, List.reverse_nil, List.nil_append, whole]

/-! ## Objects -/

/-- The octets of members each of which follows a comma. -/
def furtherOctets : List (String × Json) → List UInt8
  | [] => []
  | (name, value) :: rest =>
    0x2C :: 0x22 :: (stringOctets name ++ 0x3A :: (encodeChars value.chars ++ furtherOctets rest))

/-- Printed members are the first, without a comma, and the further ones. -/
theorem encodeChars_memberChars (name : String) (value : Json) (rest : List (String × Json)) :
    encodeChars (memberChars ((name, value) :: rest)) =
      0x22 :: (stringOctets name ++ 0x3A :: (encodeChars value.chars ++ furtherOctets rest)) := by
  have colon : encodeChar ':' = [0x3A] := by decide
  have comma : encodeChar ',' = [0x2C] := by decide
  induction rest generalizing name value with
  | nil =>
    rw [memberChars, encodeChars_append, encodeChars_stringChars, encodeChars_cons, colon]
    simp [furtherOctets]
  | cons next rest ih =>
    rw [memberChars, encodeChars_append, encodeChars_stringChars, encodeChars_cons, colon,
      encodeChars_append, encodeChars_cons, comma, ih]
    simp [furtherOctets]

theorem length_le_furtherOctets (members : List (String × Json)) :
    members.length ≤ (furtherOctets members).length := by
  induction members with
  | nil => exact Nat.le_refl 0
  | cons member rest ih =>
    simp only [furtherOctets, List.length_cons, List.length_append]
    omega

/-- A reader takes back the octets of a printed value, whatever follows them. -/
def ReadsBack (item : List UInt8 → Except Fault (Json × List UInt8)) (value : Json) : Prop :=
  ∀ rest, item (encodeChars value.chars ++ rest) = .ok (value, rest)

/-- A reader takes back the octets of a printed value before what may follow a member: a comma or a
closing brace. -/
def ReadsMember (item : List UInt8 → Except Fault (Json × List UInt8)) (value : Json) : Prop :=
  ∀ b ∈ [0x2C, 0x7D], ∀ rest,
    item (encodeChars value.chars ++ b :: rest) = .ok (value, b :: rest)

/-- What is read back whatever follows is read back as a member. -/
theorem ReadsBack.readsMember {item : List UInt8 → Except Fault (Json × List UInt8)} {value : Json}
    (reads : ReadsBack item value) : ReadsMember item value :=
  fun b _ rest => reads (b :: rest)

section Members

variable {item : List UInt8 → Except Fault (Json × List UInt8)}

/-- A member is read back before further members or the closing brace. -/
theorem ReadsMember.before {value : Json} (reads : ReadsMember item value)
    (members : List (String × Json)) (rest : List UInt8) :
    item (encodeChars value.chars ++ (furtherOctets members ++ 0x7D :: rest)) =
      .ok (value, furtherOctets members ++ 0x7D :: rest) := by
  cases members with
  | nil => exact reads 0x7D (by decide) rest
  | cons member members => exact reads 0x2C (by decide) _

/-- A member is read before those that follow it. -/
theorem readMembers_member {first : Bool} {input rest : List UInt8} {name : String} {value : Json}
    (sought : seekMember first input =
      .ok (true, stringOctets name ++ 0x3A :: (encodeChars value.chars ++ rest)))
    (read : item (encodeChars value.chars ++ rest) = .ok (value, rest)) (fuel : Nat) :
    readMembers item (fuel + 1) first input =
      (readMembers item fuel false rest).map fun (members, rest) =>
        ((name, value) :: members, rest) := by
  have colon : takeColon (0x3A :: (encodeChars value.chars ++ rest)) =
      .ok (encodeChars value.chars ++ rest) := rfl
  have named := readString_stringOctets name (0x3A :: (encodeChars value.chars ++ rest))
  simp only [readMembers, sought, named, colon, read, bind, Except.bind, ↓reduceIte]
  cases readMembers item fuel false rest <;> rfl

/-- Further members are read back up to the closing brace if their values are. -/
theorem readMembers_furtherOctets {members : List (String × Json)}
    (reads : ∀ member ∈ members, ReadsMember item member.2)
    {fuel : Nat} (enough : members.length < fuel) (rest : List UInt8) :
    readMembers item fuel false (furtherOctets members ++ 0x7D :: rest) = .ok (members, rest) := by
  obtain ⟨rounds, rfl⟩ : ∃ rounds, fuel = rounds + 1 := ⟨fuel - 1, by omega⟩
  induction members generalizing rounds with
  | nil => rfl
  | cons member members ih =>
    obtain ⟨name, value⟩ := member
    obtain ⟨head, others⟩ := List.forall_mem_cons.1 reads
    rw [List.length_cons] at enough
    obtain ⟨left, rfl⟩ : ∃ left, rounds = left + 1 := ⟨rounds - 1, by omega⟩
    have sought : seekMember false (furtherOctets ((name, value) :: members) ++ 0x7D :: rest) =
        .ok (true, stringOctets name ++
          0x3A :: (encodeChars value.chars ++ (furtherOctets members ++ 0x7D :: rest))) := by
      simp only [furtherOctets, List.cons_append, List.append_assoc]
      rfl
    rw [readMembers_member sought (head.before members rest), ih others left (by omega)]
    rfl

/-- Printed members are read back up to the closing brace if their values are. -/
theorem readMembers_memberChars {members : List (String × Json)}
    (reads : ∀ member ∈ members, ReadsMember item member.2) {fuel : Nat}
    (enough : (encodeChars (memberChars members)).length < fuel) (rest : List UInt8) :
    readMembers item fuel true (encodeChars (memberChars members) ++ 0x7D :: rest) =
      .ok (members, rest) := by
  obtain ⟨rounds, rfl⟩ : ∃ rounds, fuel = rounds + 1 := ⟨fuel - 1, by omega⟩
  cases members with
  | nil => rfl
  | cons member others =>
    obtain ⟨name, value⟩ := member
    obtain ⟨head, tail⟩ := List.forall_mem_cons.1 reads
    have length := length_le_furtherOctets others
    rw [encodeChars_memberChars] at enough ⊢
    simp only [List.length_append, List.length_cons] at enough
    have sought : seekMember true (0x22 :: (stringOctets name ++
        0x3A :: (encodeChars value.chars ++ furtherOctets others)) ++ 0x7D :: rest) =
        .ok (true, stringOctets name ++
          0x3A :: (encodeChars value.chars ++ (furtherOctets others ++ 0x7D :: rest))) := by
      simp only [List.cons_append, List.append_assoc]
      rfl
    rw [readMembers_member sought (head.before others rest),
      readMembers_furtherOctets tail (by omega)]
    rfl

end Members

/-- A brace opens an object. -/
theorem readValue_brace (depth : Nat) (input : List UInt8) :
    readValue (depth + 2) (0x7B :: input) =
      (readMembers (readValue (depth + 1)) (input.length + 1) true input).map
        fun (members, rest) => (ofMembers members, rest) := by
  have skipped : skipSpace (0x7B :: input) = 0x7B :: input := rfl
  have noDigit : (digitValue? 0x7B).isSome = false := rfl
  rw [readValue]
  simp [skipped, noDigit]

/-- A quotation mark opens a string. -/
theorem readValue_quote (depth : Nat) (input : List UInt8) :
    readValue (depth + 1) (0x22 :: input) =
      (readString input).map fun (s, rest) => (.string s, rest) := by
  have skipped : skipSpace (0x22 :: input) = 0x22 :: input := rfl
  have noDigit : (digitValue? 0x22).isSome = false := rfl
  rw [readValue]
  simp [skipped, noDigit]

/-- A printed object is read back, whatever follows it, if the values of its members are. The
members come in increasing order of their names. -/
theorem readValue_object {members : List (String × Json)} (depth : Nat)
    (reads : ∀ member ∈ members, ReadsMember (readValue (depth + 1)) member.2)
    (rest : List UInt8) :
    readValue (depth + 2) (encodeChars (object members).chars ++ rest) =
      .ok (ofMembers members, rest) := by
  have opening : encodeChar '\x7b' = [0x7B] := by decide
  have closing : encodeChars ['\x7d'] = [0x7D] := by decide
  have body : encodeChars (object members).chars ++ rest =
      0x7B :: (encodeChars (memberChars members) ++ 0x7D :: rest) := by
    simp only [chars, encodeChars_cons, encodeChars_append, opening, closing, List.append_assoc,
      List.cons_append, List.nil_append]
  have enough : (encodeChars (memberChars members)).length <
      (encodeChars (memberChars members) ++ 0x7D :: rest).length + 1 := by
    rw [List.length_append]
    omega
  rw [body, readValue_brace, readMembers_memberChars reads enough]
  rfl

/-- A printed text is read back, whatever follows it. -/
theorem readValue_string (s : String) (depth : Nat) :
    ReadsBack (readValue (depth + 1)) (.string s) := by
  intro rest
  rw [chars, encodeChars_stringChars, List.cons_append, readValue_quote, readString_stringOctets]
  rfl

/-- The text of a dictionary is read as the object that it was printed from if its values are read
back as members. -/
theorem ofText?_text_ofDict {d : Dict Json}
    (reads : ∀ entry ∈ d.entries, ReadsMember (readValue 127) entry.2) :
    ofText? (ofDict d).text = some (ofDict d) := by
  have whole : readValue depthLimit _ = _ := readValue_object 126 reads []
  have sorted : ofMembers d.entries = ofDict d := by
    rw [ofMembers, Dict.ofList_entries]
  rw [List.append_nil, sorted] at whole
  have octets : encode (ofDict d).text = encodeChars (object d.entries).chars := by
    rw [encode, text, String.toList_ofList]
    rfl
  unfold ofText? read? read
  rw [octets, whole]
  rfl

/-- The text of a dictionary of texts is read as the object that it was printed from. -/
theorem ofText?_text_ofTexts (d : Dict String) :
    ofText? (ofTexts d).text = some (ofTexts d) := by
  apply ofText?_text_ofDict
  intro member mem
  rw [Dict.entries_map, List.mem_map] at mem
  obtain ⟨entry, -, rfl⟩ := mem
  exact (readValue_string entry.2 126).readsMember

/-! ## Characters of a printed object -/

/-- A character inside a string is written in ASCII exactly when it is an ASCII character. -/
theorem escapeChar_ascii_iff {c : Char} :
    (∀ written ∈ escapeChar c, written.toNat < 0x80) ↔ c.toNat < 0x80 := by
  by_cases ascii : c.toNat < 0x80
  · have each : ∀ n < 0x80, (escapeChar (Char.ofNat n)).all (·.toNat < 0x80) = true := by decide
    have own := each c.toNat ascii
    rw [Char.ofNat_toNat, List.all_eq_true] at own
    exact ⟨fun _ => ascii, fun _ written mem => of_decide_eq_true (own written mem)⟩
  · have quote : c.toNat ≠ 0x22 := by omega
    have backslash : c.toNat ≠ 0x5C := by omega
    have visible : 0x20 ≤ c.toNat := by omega
    simp [escapeChar, quote, backslash, visible]

/-- A string is printed in ASCII exactly when it is ASCII. -/
theorem stringChars_ascii_iff {s : String} :
    (∀ c ∈ stringChars s, c.toNat < 0x80) ↔ Text.IsAscii s := by
  have quote : '"'.toNat < 0x80 := by decide
  simp only [stringChars, List.forall_mem_cons, List.forall_mem_append, List.forall_mem_flatMap,
    escapeChar_ascii_iff, quote, true_and, Text.IsAscii, List.not_mem_nil]
  simp

/-- Members are printed in ASCII exactly when their names are ASCII and their values are printed
in ASCII. -/
theorem memberChars_ascii_iff {members : List (String × Json)} :
    (∀ c ∈ memberChars members, c.toNat < 0x80) ↔
      ∀ member ∈ members, Text.IsAscii member.1 ∧ ∀ c ∈ member.2.chars, c.toNat < 0x80 := by
  have colon : ':'.toNat < 0x80 := by decide
  have comma : ','.toNat < 0x80 := by decide
  induction members with
  | nil => simp [memberChars]
  | cons member rest ih =>
    obtain ⟨name, value⟩ := member
    cases rest with
    | nil =>
      simp only [memberChars, List.forall_mem_append, List.forall_mem_cons,
        stringChars_ascii_iff, colon, true_and]
      simp
    | cons next rest =>
      rw [memberChars, List.forall_mem_cons]
      refine Iff.trans ?_ (and_congr Iff.rfl ih)
      simp only [List.forall_mem_append, List.forall_mem_cons, stringChars_ascii_iff, colon, comma,
        true_and, and_assoc]

/-- The text of a dictionary of texts is ASCII exactly when its keys and values are. -/
theorem isAscii_text_ofTexts_iff {d : Dict String} :
    Text.IsAscii (ofTexts d).text ↔
      ∀ key value, d.get? key = some value → Text.IsAscii key ∧ Text.IsAscii value := by
  have printed : Text.IsAscii (ofTexts d).text ↔
      ∀ c ∈ memberChars (d.map Json.string).entries, c.toNat < 0x80 := by
    unfold Text.IsAscii text ofTexts ofDict
    rw [String.toList_ofList, chars]
    simp [or_imp, forall_and]
  rw [printed, memberChars_ascii_iff, Dict.entries_map, List.forall_mem_map]
  simp only [chars, stringChars_ascii_iff]
  constructor
  · intro all key value found
    exact all _ (Dict.get?_eq_some_iff.1 found)
  · rintro all ⟨key, value⟩ mem
    exact all key value (Dict.get?_eq_some_iff.2 mem)

end HttpGateway.Json

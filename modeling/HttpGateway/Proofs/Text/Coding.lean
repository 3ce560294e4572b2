import HttpGateway.Proofs.Text.Lowercase
import HttpGateway.Text.Percent

/-!
# Round trips of UTF-8 and percent encoding

The reader of UTF-8 walks the octets of an encoded text and yields each character of it, so the
lossy decoder loses nothing of well-formed octets (`decodeCharsLossy_encodeChars`). An octet
written as a letter, a digit or a percent triple is read back, whatever follows it, so percent
decoding inverts percent encoding on every text (`decodeChars_encodeChars`).
-/

namespace HttpGateway.Text

/-- Every character of a text is an ASCII character. -/
def IsAscii (s : String) : Prop := ∀ c ∈ s.toList, c.toNat < 0x80

instance (s : String) : Decidable (IsAscii s) :=
  decidable_of_iff (s.toList.all (·.toNat < 0x80) = true) (by simp [IsAscii])

namespace Utf8

/-- The number of an octet given by a number that fits. -/
theorem octet_toNat {n : Nat} (fits : n < 256) : (octet n).toNat = n := by
  unfold octet
  rw [UInt8.toNat_ofNat']
  omega

/-- A scan yields what the first octet completes, and goes on from the state it leaves. -/
theorem scan_cons (state : Option Partial) (b : UInt8) (rest : List UInt8) :
    scan state (b :: rest) = (advance state b).1 ++ scan (advance state b).2 rest := by
  cases state <;> rfl

/-- A continuation octet within the bounds of the open character adds its six bits. -/
theorem advance_tail {p : Partial} {bits : Nat} (low : bits < 64) (above : p.least ≤ 0x80 + bits)
    (below : 0x80 + bits ≤ p.greatest) :
    advance (some p) (octet (0x80 + bits)) =
      if p.owed = 1 then ([some (Char.ofNat (p.value * 64 + bits))], none)
      else ([], some ⟨p.owed - 1, p.value * 64 + bits, 0x80, 0xBF⟩) := by
  have number : (octet (0x80 + bits)).toNat = 0x80 + bits := octet_toNat (by omega)
  have difference : 0x80 + bits - 0x80 = bits := by omega
  unfold advance
  simp only [number, above, below, and_self, ↓reduceIte, difference]

/-- The first of two octets leaves the character open for one more. -/
theorem start_two {n : Nat} (lower : 0x80 ≤ n) (upper : n < 0x800) :
    start (octet (0xC0 + n / 64)) = ([], some ⟨1, n / 64, 0x80, 0xBF⟩) := by
  have number : (octet (0xC0 + n / 64)).toNat = 0xC0 + n / 64 := octet_toNat (by omega)
  have difference : 0xC0 + n / 64 - 0xC0 = n / 64 := by omega
  unfold start
  simp only [number, difference]
  rw [if_neg (by omega), if_neg (by omega), if_pos (by omega)]

/-- The first of three octets leaves the character open for two more, the next of which is
within the bounds unless the character is a surrogate. -/
theorem start_three {n : Nat} (lower : 0x800 ≤ n) (upper : n < 0x10000)
    (scalar : n < 0xD800 ∨ 0xDFFF < n) :
    ∃ least greatest, start (octet (0xE0 + n / 4096)) = ([], some ⟨2, n / 4096, least, greatest⟩) ∧
      least ≤ 0x80 + n / 64 % 64 ∧ 0x80 + n / 64 % 64 ≤ greatest := by
  have number : (octet (0xE0 + n / 4096)).toNat = 0xE0 + n / 4096 := octet_toNat (by omega)
  unfold start
  simp only [number]
  rw [if_neg (by omega), if_neg (by omega), if_neg (by omega)]
  by_cases first : n / 4096 = 0
  · rw [if_pos (by omega), first]
    exact ⟨_, _, rfl, by omega, by omega⟩
  · rw [if_neg (by omega)]
    by_cases surrogates : n / 4096 = 0xD
    · rw [if_pos (by omega), surrogates]
      exact ⟨_, _, rfl, by omega, by omega⟩
    · rw [if_neg (by omega), if_pos (by omega)]
      have difference : 0xE0 + n / 4096 - 0xE0 = n / 4096 := by omega
      rw [difference]
      exact ⟨_, _, rfl, by omega, by omega⟩

/-- The first of four octets leaves the character open for three more, the next of which is
within the bounds. -/
theorem start_four {n : Nat} (lower : 0x10000 ≤ n) (upper : n < 0x110000) :
    ∃ least greatest,
      start (octet (0xF0 + n / 262144)) = ([], some ⟨3, n / 262144, least, greatest⟩) ∧
        least ≤ 0x80 + n / 4096 % 64 ∧ 0x80 + n / 4096 % 64 ≤ greatest := by
  have number : (octet (0xF0 + n / 262144)).toNat = 0xF0 + n / 262144 := octet_toNat (by omega)
  unfold start
  simp only [number]
  rw [if_neg (by omega), if_neg (by omega), if_neg (by omega), if_neg (by omega),
    if_neg (by omega), if_neg (by omega)]
  by_cases first : n / 262144 = 0
  · rw [if_pos (by omega), first]
    exact ⟨_, _, rfl, by omega, by omega⟩
  · rw [if_neg (by omega)]
    by_cases last : n / 262144 = 4
    · rw [if_neg (by omega), if_pos (by omega), last]
      exact ⟨_, _, rfl, by omega, by omega⟩
    · rw [if_pos (by omega)]
      have difference : 0xF0 + n / 262144 - 0xF0 = n / 262144 := by omega
      rw [difference]
      exact ⟨_, _, rfl, by omega, by omega⟩

/-- The code point of a character is no surrogate and within the range of Unicode. -/
theorem toNat_scalar (c : Char) :
    c.toNat < 0xD800 ∨ (0xDFFF < c.toNat ∧ c.toNat < 0x110000) := c.valid

/-- A character below 0x80 is read from its one octet. -/
theorem scan_one {c : Char} (upper : c.toNat < 0x80) (rest : List UInt8) :
    scan none (octet c.toNat :: rest) = some c :: scan none rest := by
  have number : (octet c.toNat).toNat = c.toNat := octet_toNat (by omega)
  have step : advance none (octet c.toNat) = ([some c], none) := by
    simp only [advance, start, number, upper, ↓reduceIte, Char.ofNat_toNat]
  rw [scan_cons, step, List.singleton_append]

/-- A character from 0x80 to 0x7FF is read from its two octets. -/
theorem scan_two {c : Char} (lower : 0x80 ≤ c.toNat) (upper : c.toNat < 0x800)
    (rest : List UInt8) :
    scan none (octet (0xC0 + c.toNat / 64) :: octet (0x80 + c.toNat % 64) :: rest) =
      some c :: scan none rest := by
  have value : c.toNat / 64 * 64 + c.toNat % 64 = c.toNat := by omega
  have step : advance none (octet (0xC0 + c.toNat / 64)) =
      ([], some ⟨1, c.toNat / 64, 0x80, 0xBF⟩) := start_two lower upper
  rw [scan_cons, step, scan_cons, advance_tail (by omega) (by simp) (by simp; omega)]
  simp only [↓reduceIte, value, Char.ofNat_toNat, List.nil_append, List.singleton_append]

/-- A character from 0x800 to 0xFFFF is read from its three octets. -/
theorem scan_three {c : Char} (lower : 0x800 ≤ c.toNat) (upper : c.toNat < 0x10000)
    (rest : List UInt8) :
    scan none (octet (0xE0 + c.toNat / 4096) :: octet (0x80 + c.toNat / 64 % 64) ::
      octet (0x80 + c.toNat % 64) :: rest) = some c :: scan none rest := by
  have scalar := toNat_scalar c
  have value : (c.toNat / 4096 * 64 + c.toNat / 64 % 64) * 64 + c.toNat % 64 = c.toNat := by
    omega
  obtain ⟨least, greatest, step, above, below⟩ := start_three lower upper (by omega)
  replace step : advance none (octet (0xE0 + c.toNat / 4096)) = _ := step
  rw [scan_cons, step, scan_cons, advance_tail (by omega) above below, if_neg (by simp),
    scan_cons, advance_tail (by omega) (by simp) (by simp; omega)]
  simp only [↓reduceIte, value, Char.ofNat_toNat, List.nil_append, List.singleton_append]

/-- A character from 0x10000 on is read from its four octets. -/
theorem scan_four {c : Char} (lower : 0x10000 ≤ c.toNat) (rest : List UInt8) :
    scan none (octet (0xF0 + c.toNat / 262144) :: octet (0x80 + c.toNat / 4096 % 64) ::
      octet (0x80 + c.toNat / 64 % 64) :: octet (0x80 + c.toNat % 64) :: rest) =
        some c :: scan none rest := by
  have scalar := toNat_scalar c
  have value : ((c.toNat / 262144 * 64 + c.toNat / 4096 % 64) * 64 + c.toNat / 64 % 64) * 64 +
      c.toNat % 64 = c.toNat := by
    omega
  obtain ⟨least, greatest, step, above, below⟩ := start_four lower (by omega)
  replace step : advance none (octet (0xF0 + c.toNat / 262144)) = _ := step
  rw [scan_cons, step, scan_cons, advance_tail (by omega) above below, if_neg (by simp),
    scan_cons, advance_tail (by omega) (by simp) (by simp; omega), if_neg (by simp),
    scan_cons, advance_tail (by omega) (by simp) (by simp; omega)]
  simp only [↓reduceIte, value, Char.ofNat_toNat, List.nil_append, List.singleton_append]

/-- The octets of a character are read as that character, whatever follows them. -/
theorem scan_encodeChar (c : Char) (rest : List UInt8) :
    scan none (encodeChar c ++ rest) = some c :: scan none rest := by
  unfold encodeChar
  by_cases one : c.toNat < 0x80
  · rw [if_pos one]
    exact scan_one one rest
  rw [if_neg one]
  by_cases two : c.toNat < 0x800
  · rw [if_pos two]
    exact scan_two (by omega) two rest
  rw [if_neg two]
  by_cases three : c.toNat < 0x10000
  · rw [if_pos three]
    exact scan_three (by omega) three rest
  · rw [if_neg three]
    exact scan_four (by omega) rest

/-- A scan of an encoded text yields its characters. -/
theorem scan_encodeChars (l : List Char) : scan none (encodeChars l) = l.map some := by
  induction l with
  | nil => rfl
  | cons c rest ih =>
    change scan none (encodeChar c ++ encodeChars rest) = _
    rw [scan_encodeChar, ih, List.map_cons]

/-- Lossy decoding loses nothing of an encoded text. -/
theorem decodeCharsLossy_encodeChars (l : List Char) : decodeCharsLossy (encodeChars l) = l := by
  unfold decodeCharsLossy
  rw [scan_encodeChars, List.map_map]
  simp [Function.comp_def]

/-- Reading loses nothing of encoded characters. -/
theorem decodeChars?_encodeChars (l : List Char) : decodeChars? (encodeChars l) = some l := by
  have all : ∀ l : List Char, (l.map some).mapM id = some l := by
    intro l
    induction l with
    | nil => rfl
    | cons c rest ih => simp [ih]
  unfold decodeChars?
  rw [scan_encodeChars, all]

/-- Reading loses nothing of an encoded text. -/
theorem decode?_encode (s : String) : decode? (encode s) = some s := by
  unfold decode? encode
  rw [decodeChars?_encodeChars, Option.map_some, String.ofList_toList]

/-- Encoded text is read as the text, also when faults are passed over. -/
theorem decodeLossy_encode (s : String) : decodeLossy (encode s) = s := by
  unfold decodeLossy encode
  rw [decodeCharsLossy_encodeChars, String.ofList_toList]

theorem encodeChars_append (l m : List Char) :
    encodeChars (l ++ m) = encodeChars l ++ encodeChars m := List.flatMap_append

theorem encodeChars_cons (c : Char) (l : List Char) :
    encodeChars (c :: l) = encodeChar c ++ encodeChars l := List.flatMap_cons

/-- An ASCII character is encoded as the octet of its number. -/
theorem encodeChar_ascii {c : Char} (ascii : c.toNat < 0x80) : encodeChar c = [octet c.toNat] := by
  simp [encodeChar, ascii]

theorem encodeChar_ne_nil (c : Char) : encodeChar c ≠ [] := by
  unfold encodeChar
  dsimp only
  split
  · simp
  split
  · simp
  split <;> simp

/-- Of a character beyond ASCII every octet is beyond ASCII. -/
theorem le_of_mem_encodeChar {c : Char} {b : UInt8} (beyond : 0x80 ≤ c.toNat)
    (mem : b ∈ encodeChar c) : 0x80 ≤ b.toNat := by
  have scalar := toNat_scalar c
  unfold encodeChar at mem
  rw [if_neg (by omega)] at mem
  split at mem
  · simp only [List.mem_cons, List.not_mem_nil, or_false] at mem
    rcases mem with rfl | rfl <;> rw [octet_toNat (by omega)] <;> omega
  split at mem
  · simp only [List.mem_cons, List.not_mem_nil, or_false] at mem
    rcases mem with rfl | rfl | rfl <;> rw [octet_toNat (by omega)] <;> omega
  · simp only [List.mem_cons, List.not_mem_nil, or_false] at mem
    rcases mem with rfl | rfl | rfl | rfl <;> rw [octet_toNat (by omega)] <;> omega

/-- The octets of a text are ASCII exactly when its characters are. -/
theorem forall_mem_encodeChars_iff {l : List Char} :
    (∀ b ∈ encodeChars l, b.toNat < 0x80) ↔ ∀ c ∈ l, c.toNat < 0x80 := by
  constructor
  · intro octets c mem
    refine Nat.lt_of_not_le fun beyond => ?_
    obtain ⟨b, first⟩ : ∃ b, b ∈ encodeChar c :=
      List.exists_mem_of_ne_nil _ (encodeChar_ne_nil c)
    have below := octets b (List.mem_flatMap.2 ⟨c, mem, first⟩)
    have above := le_of_mem_encodeChar beyond first
    omega
  · intro ascii b mem
    obtain ⟨c, there, part⟩ := List.mem_flatMap.1 mem
    have below := ascii c there
    rw [encodeChar_ascii below, List.mem_singleton] at part
    rw [part, octet_toNat (by omega)]
    exact below

/-- Octets of a text that are cut before an ASCII octet are cut between two characters. -/
theorem exists_encodeChars_of_append {l : List Char} {front back : List UInt8}
    (whole : encodeChars l = front ++ back) (cut : ∀ b ∈ back.head?, b.toNat < 0x80) :
    ∃ first last, l = first ++ last ∧ front = encodeChars first ∧ back = encodeChars last := by
  induction l generalizing front with
  | nil =>
    obtain ⟨rfl, rfl⟩ := List.append_eq_nil_iff.1 whole.symm
    exact ⟨[], [], rfl, rfl, rfl⟩
  | cons c rest ih =>
    rw [encodeChars_cons] at whole
    rcases List.append_eq_append_iff.1 whole with ⟨more, rfl, tail⟩ | ⟨left, char, rfl⟩
    · obtain ⟨first, last, rfl, rfl, rfl⟩ := ih tail
      exact ⟨c :: first, last, rfl, (encodeChars_cons c first).symm, rfl⟩
    · cases left with
      | nil =>
        rw [List.append_nil] at char
        refine ⟨[c], rest, rfl, ?_, rfl⟩
        rw [← char, encodeChars_cons]
        exact (List.append_nil _).symm
      | cons b more =>
        -- The character has its octets on both sides of the cut, or none before it.
        have below : b.toNat < 0x80 := cut b rfl
        have inside : b ∈ encodeChar c := by
          rw [char]
          exact List.mem_append_right front List.mem_cons_self
        have ascii : c.toNat < 0x80 := Nat.lt_of_not_le fun beyond =>
          Nat.not_le_of_lt below (le_of_mem_encodeChar beyond inside)
        rw [encodeChar_ascii ascii] at char
        obtain ⟨rfl, rest⟩ | ⟨more, -, rest⟩ := List.cons_eq_append_iff.1 char
        · refine ⟨[], c :: _, rfl, rfl, ?_⟩
          rw [encodeChars_cons, encodeChar_ascii ascii, ← rest]
        · cases (List.append_eq_nil_iff.1 rest.symm).2

/-- The octets of an ASCII text are the numbers of its characters. -/
theorem map_encodeChars {l : List Char} (ascii : ∀ c ∈ l, c.toNat < 0x80) :
    (encodeChars l).map (fun b => Char.ofNat b.toNat) = l := by
  induction l with
  | nil => rfl
  | cons c rest ih =>
    obtain ⟨first, others⟩ := List.forall_mem_cons.1 ascii
    rw [encodeChars_cons, encodeChar_ascii first, List.singleton_append, List.map_cons, ih others,
      octet_toNat (by omega), Char.ofNat_toNat]

end Utf8

namespace Percent

open Utf8

/-- The hexadecimal digit of a value is an ASCII character. -/
theorem hexDigit_toNat {n : Nat} (digit : n < 16) :
    (hexDigit n).toNat = if n < 10 then 0x30 + n else 0x37 + n := by
  unfold hexDigit
  exact toNat_ofNat_of_isValidChar (.inl (by split <;> omega))

/-- The octet of a hexadecimal digit has the value that the digit was written for. -/
theorem hexValue_hexDigit {n : Nat} (digit : n < 16) :
    hexValue (octet (hexDigit n).toNat) = some n := by
  rw [hexDigit_toNat digit]
  by_cases decimal : n < 10
  · rw [if_pos decimal]
    have number : (octet (0x30 + n)).toNat = 0x30 + n := octet_toNat (by omega)
    simp only [hexValue, number]
    rw [if_pos (by omega)]
    simp
  · rw [if_neg decimal]
    have number : (octet (0x37 + n)).toNat = 0x37 + n := octet_toNat (by omega)
    simp only [hexValue, number]
    rw [if_neg (by omega), if_pos (by omega)]
    simp

/-- An octet that is no percent sign stands for itself. -/
theorem decode_cons_of_ne {b : UInt8} (plain : b ≠ 0x25) (rest : List UInt8) :
    decode (b :: rest) = b :: decode rest := by
  rw [decode.eq_def]
  simp [plain]

/-- Octets without a percent sign stand for themselves. -/
theorem decode_of_forall_ne {octets : List UInt8} (plain : ∀ b ∈ octets, b ≠ 0x25) :
    decode octets = octets := by
  induction octets with
  | nil => rfl
  | cons b rest ih =>
    obtain ⟨first, others⟩ := List.forall_mem_cons.1 plain
    rw [decode_cons_of_ne first, ih others]

/-- A percent sign and two hexadecimal digits stand for one octet. -/
theorem decode_triple {high low : Nat} {h l : UInt8} (first : hexValue h = some high)
    (second : hexValue l = some low) (rest : List UInt8) :
    decode (0x25 :: h :: l :: rest) = octet (high * 16 + low) :: decode rest := by
  rw [decode.eq_def]
  simp [first, second]

/-- A letter or digit is an ASCII octet other than the percent sign. -/
theorem isPlain_bounds {b : UInt8} (plain : isPlain b = true) : b.toNat < 0x80 ∧ b ≠ 0x25 := by
  simp only [isPlain, Bool.or_eq_true, Bool.and_eq_true, decide_eq_true_eq] at plain
  refine ⟨by omega, ?_⟩
  rintro rfl
  revert plain
  decide

/-- The octets in which an octet is written are read back as that octet. -/
theorem decode_encodeOctet (b : UInt8) (rest : List UInt8) :
    decode (Utf8.encodeChars (encodeOctet b) ++ rest) = b :: decode rest := by
  unfold encodeOctet
  by_cases plain : isPlain b = true
  · obtain ⟨ascii, other⟩ := isPlain_bounds plain
    have number : (Char.ofNat b.toNat).toNat = b.toNat :=
      toNat_ofNat_of_isValidChar (.inl (by omega))
    have octets : Utf8.encodeChars [Char.ofNat b.toNat] = [b] := by
      simp [Utf8.encodeChars, encodeChar_ascii (c := Char.ofNat b.toNat) (by omega), number, octet]
    rw [if_pos plain, octets, List.singleton_append, decode_cons_of_ne other]
  · have bound := b.toNat_lt
    have high : b.toNat / 16 < 16 := by omega
    have low : b.toNat % 16 < 16 := by omega
    have highAscii : (hexDigit (b.toNat / 16)).toNat < 0x80 := by
      rw [hexDigit_toNat high]
      split <;> omega
    have lowAscii : (hexDigit (b.toNat % 16)).toNat < 0x80 := by
      rw [hexDigit_toNat low]
      split <;> omega
    have octets : Utf8.encodeChars ['%', hexDigit (b.toNat / 16), hexDigit (b.toNat % 16)] =
        [0x25, octet (hexDigit (b.toNat / 16)).toNat, octet (hexDigit (b.toNat % 16)).toNat] := by
      simp only [Utf8.encodeChars, List.flatMap_cons, List.flatMap_nil, encodeChar_ascii highAscii,
        encodeChar_ascii lowAscii, List.append_nil]
      rfl
    have value : octet (b.toNat / 16 * 16 + b.toNat % 16) = b := by
      rw [Nat.div_add_mod']
      simp [octet]
    rw [if_neg plain, octets]
    change decode (0x25 :: _ :: _ :: rest) = _
    rw [decode_triple (hexValue_hexDigit high) (hexValue_hexDigit low), value]

/-- An octet is written in visible ASCII characters other than the slash. -/
theorem bounds_of_mem_encodeOctet {b : UInt8} {c : Char} (mem : c ∈ encodeOctet b) :
    0x25 ≤ c.toNat ∧ c.toNat < 0x7F ∧ c.toNat ≠ 0x2F := by
  have below := b.toNat_lt
  unfold encodeOctet at mem
  split at mem
  · next plain =>
    obtain rfl := List.mem_singleton.1 mem
    rw [toNat_ofNat_of_isValidChar (.inl (by omega))]
    simp only [isPlain, Bool.or_eq_true, Bool.and_eq_true, decide_eq_true_eq] at plain
    omega
  · simp only [List.mem_cons, List.not_mem_nil, or_false] at mem
    rcases mem with rfl | rfl | rfl
    · decide
    · rw [hexDigit_toNat (by omega)]
      split <;> omega
    · rw [hexDigit_toNat (by omega)]
      split <;> omega

/-- The octets in which octets are written are read back as those octets. -/
theorem decode_encodeOctets (octets : List UInt8) :
    decode (Utf8.encodeChars (octets.flatMap encodeOctet)) = octets := by
  induction octets with
  | nil => rfl
  | cons b rest ih =>
    rw [List.flatMap_cons]
    unfold Utf8.encodeChars at ih ⊢
    rw [List.flatMap_append]
    change decode (Utf8.encodeChars (encodeOctet b) ++ _) = _
    rw [decode_encodeOctet, ih]

/-- Percent decoding inverts percent encoding on every text. -/
theorem decodeChars_encodeChars (l : List Char) : decodeChars (encodeChars l) = l := by
  unfold decodeChars encodeChars
  rw [decode_encodeOctets, decodeCharsLossy_encodeChars]

/-- A text without percent signs stands for itself. -/
theorem decodeChars_of_not_mem {l : List Char} (plain : '%' ∉ l) : decodeChars l = l := by
  have octets : ∀ b ∈ Utf8.encodeChars l, b ≠ 0x25 := by
    rintro b mem rfl
    obtain ⟨c, there, part⟩ := List.mem_flatMap.1 mem
    by_cases ascii : c.toNat < 0x80
    · rw [encodeChar_ascii ascii, List.mem_singleton] at part
      have number : c.toNat = 0x25 := by
        rw [← octet_toNat (n := c.toNat) (by omega), ← part]
        rfl
      have percent : c = '%' := by rw [← Char.ofNat_toNat c, number]
      exact plain (percent ▸ there)
    · have beyond := le_of_mem_encodeChar (Nat.le_of_not_lt ascii) part
      exact absurd beyond (by decide)
  unfold decodeChars
  rw [decode_of_forall_ne octets, decodeCharsLossy_encodeChars]

end Percent

end HttpGateway.Text

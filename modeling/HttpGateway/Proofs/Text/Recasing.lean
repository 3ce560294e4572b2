import HttpGateway.Message.Uri
import HttpGateway.Proofs.Message.Uri
import HttpGateway.Proofs.Text.Strip
import HttpGateway.Text.Uppercase

/-!
# Texts in another letter case

Two texts may differ in the case of their ASCII letters alone (`Recased`), which is to say that they
are the same in lower case. Each reading of a text follows such a difference or does not see it.
White space, the case mappings of Unicode and the context of a final sigma do not see it, since a
letter and its capital are cased alike (`lowercaseChars_map_toLower`). The octets of a text follow
it, and so does their lossy reading: octets beyond ASCII stay, and with an octet of ASCII no
character is open (`Utf8.scan_map_lowercaseOctet`). So percent-encoded texts that differ in letter
case, in the digits of their triples too, stand for texts that differ in letter case
(`Percent.decodeChars_map_toLower`).
-/

namespace HttpGateway.Text

/-- Two texts differ at most in the case of ASCII letters. -/
def Recased (s t : String) : Prop := asciiLowercase s = asciiLowercase t

instance : DecidableRel Recased := fun _ _ => inferInstanceAs (Decidable (_ = _))

/-- The characters of texts that differ at most in the case of ASCII letters are the same in lower
case. -/
theorem recased_iff {s t : String} :
    Recased s t ↔ s.toList.map Char.toLower = t.toList.map Char.toLower := by
  unfold Recased asciiLowercase
  exact String.ofList_inj

theorem Recased.symm {s t : String} (recased : Recased s t) : Recased t s := Eq.symm recased

/-! ## Characters -/

/-- The lower case of a character in ASCII is the character itself or, for a capital letter, the
small one. -/
theorem toLower_cases (c : Char) :
    c.toLower = c ∨ ∃ n < 26, c = Char.ofNat (0x41 + n) ∧ c.toLower = Char.ofNat (0x61 + n) := by
  by_cases capital : 0x41 ≤ c.toNat ∧ c.toNat ≤ 0x5A
  · have pairs : ∀ n < 26, (Char.ofNat (0x41 + n)).toLower = Char.ofNat (0x61 + n) := by decide
    obtain ⟨n, below, number⟩ : ∃ n < 26, c.toNat = 0x41 + n := ⟨c.toNat - 0x41, by omega, by omega⟩
    have same : c = Char.ofNat (0x41 + n) := by rw [← number, Char.ofNat_toNat]
    exact .inr ⟨n, below, same, same ▸ pairs n below⟩
  · refine .inl (dif_neg ?_)
    rintro ⟨above, below⟩
    exact capital ⟨UInt32.le_iff_toNat_le.1 above, UInt32.le_iff_toNat_le.1 below⟩

/-- What is the same for each small letter and its capital is the same for every character and its
lower case in ASCII. -/
theorem apply_toLower {β : Type} {f : Char → β}
    (letters : ∀ n < 26, f (Char.ofNat (0x61 + n)) = f (Char.ofNat (0x41 + n))) (c : Char) :
    f c.toLower = f c := by
  rcases toLower_cases c with own | ⟨n, below, capital, small⟩
  · rw [own]
  · rw [small, letters n below, ← capital]

/-- A text in lower case differs from the text in the case of ASCII letters alone. -/
theorem recased_asciiLowercase (s : String) : Recased (asciiLowercase s) s := by
  rw [recased_iff, asciiLowercase, String.toList_ofList, List.map_map]
  exact List.map_congr_left fun c _ => apply_toLower (f := Char.toLower) (by decide) c

/-- A character that is no letter of ASCII is the lower case of itself alone. -/
theorem toLower_eq_iff {d : Char} (noLetter : d.isAlpha = false) (c : Char) :
    c.toLower = d ↔ c = d := by
  have letters : ∀ n < 26, (Char.ofNat (0x41 + n)).isAlpha = true ∧
      (Char.ofNat (0x61 + n)).isAlpha = true := by
    decide
  rcases toLower_cases c with own | ⟨n, below, capital, small⟩
  · rw [own]
  · obtain ⟨isCapital, isSmall⟩ := letters n below
    rw [small, capital]
    constructor
    · rintro rfl
      exact absurd noLetter (by simp [isSmall])
    · rintro rfl
      exact absurd noLetter (by simp [isCapital])

/-- A text ends with a character that is no letter of ASCII exactly when it does in lower case. -/
theorem getLast?_map_toLower {d : Char} (noLetter : d.isAlpha = false) (l : List Char) :
    (l.map Char.toLower).getLast? = some d ↔ l.getLast? = some d := by
  rw [List.getLast?_map]
  cases l.getLast? with
  | none => exact Iff.rfl
  | some c => simp only [Option.map_some, Option.some.injEq, toLower_eq_iff noLetter]

theorem isBlank_toLower (c : Char) : isBlank c.toLower = isBlank c :=
  apply_toLower (by decide +kernel) c

theorem isCased_toLower (c : Char) : isCased c.toLower = isCased c :=
  apply_toLower (by decide +kernel) c

theorem isCaseIgnorable_toLower (c : Char) : isCaseIgnorable c.toLower = isCaseIgnorable c :=
  apply_toLower (by decide +kernel) c

theorem lowercaseChar_toLower (c : Char) : lowercaseChar c.toLower = lowercaseChar c :=
  apply_toLower (by decide +kernel) c

theorem uppercaseChar_toLower (c : Char) : uppercaseChar c.toLower = uppercaseChar c :=
  apply_toLower (by decide +kernel) c

/-! ## Case mappings -/

/-- Whether a text meets a cased character does not depend on the case of ASCII letters. -/
theorem meetsCased_map_toLower (l : List Char) :
    meetsCased (l.map Char.toLower) = meetsCased l := by
  have passed : isCaseIgnorable ∘ Char.toLower = isCaseIgnorable := funext isCaseIgnorable_toLower
  unfold meetsCased
  rw [List.dropWhile_map, passed]
  cases l.dropWhile isCaseIgnorable with
  | nil => rfl
  | cons c rest => exact isCased_toLower c

/-- The lower case of a character between two texts does not depend on the case of ASCII letters. -/
theorem lowercaseBetween_toLower (before : List Char) (c : Char) (after : List Char) :
    lowercaseBetween (before.map Char.toLower) c.toLower (after.map Char.toLower) =
      lowercaseBetween before c after := by
  have sigma : decide (c.toLower.toNat = 0x3A3) = decide (c.toNat = 0x3A3) :=
    apply_toLower (f := fun c => decide (c.toNat = 0x3A3)) (by decide) c
  unfold lowercaseBetween
  simp only [decide_eq_decide.1 sigma, meetsCased_map_toLower, lowercaseChar_toLower]

/-- The lower case of a text after another does not depend on the case of ASCII letters. -/
theorem lowercaseAfter_map_toLower (before l : List Char) :
    lowercaseAfter (before.map Char.toLower) (l.map Char.toLower) = lowercaseAfter before l := by
  induction l generalizing before with
  | nil => rfl
  | cons c rest ih =>
    rw [List.map_cons, lowercaseAfter, lowercaseAfter, lowercaseBetween_toLower, ← List.map_cons,
      ih]

/-- The lower case of a list of characters does not depend on the case of its ASCII letters. -/
theorem lowercaseChars_map_toLower (l : List Char) :
    lowercaseChars (l.map Char.toLower) = lowercaseChars l := lowercaseAfter_map_toLower [] l

/-- The upper case of a list of characters does not depend on the case of its ASCII letters. -/
theorem uppercaseChars_map_toLower (l : List Char) :
    uppercaseChars (l.map Char.toLower) = uppercaseChars l := by
  unfold uppercaseChars
  rw [List.flatMap_map]
  simp only [uppercaseChar_toLower]

/-- Texts that differ at most in the case of ASCII letters have the same upper case without the
white space at their ends. -/
theorem Recased.uppercase_trim_eq {s t : String} (recased : Recased s t) :
    uppercase (trim s) = uppercase (trim t) := by
  unfold uppercase trim
  rw [String.toList_ofList, String.toList_ofList, ← uppercaseChars_map_toLower,
    ← strip_map isBlank_toLower, recased_iff.1 recased, strip_map isBlank_toLower,
    uppercaseChars_map_toLower]

/-! ## Octets -/

open Uri (lowercaseOctet)

namespace Utf8

/-- The octets of a character in lower case are its octets in lower case. -/
theorem encodeChar_toLower (c : Char) :
    encodeChar c.toLower = (encodeChar c).map lowercaseOctet := by
  by_cases ascii : c.toNat < 0x80
  · have all : ∀ n < 0x80, encodeChar (Char.ofNat n).toLower =
        (encodeChar (Char.ofNat n)).map lowercaseOctet := by
      decide +kernel
    rw [← Char.ofNat_toNat c]
    exact all c.toNat ascii
  · have own : c.toLower = c := by
      rcases toLower_cases c with own | ⟨n, below, rfl, -⟩
      · exact own
      · have bound : ∀ n < 26, (Char.ofNat (0x41 + n)).toNat < 0x80 := by decide
        exact absurd (bound n below) ascii
    have octets : ∀ b ∈ encodeChar c, lowercaseOctet b = id b := by
      intro b mem
      have beyond := le_of_mem_encodeChar (Nat.le_of_not_lt ascii) mem
      exact if_neg (by omega)
    rw [own, List.map_congr_left octets, List.map_id]

/-- The octets of a text in lower case are its octets in lower case. -/
theorem encodeChars_map_toLower (l : List Char) :
    encodeChars (l.map Char.toLower) = (encodeChars l).map lowercaseOctet := by
  unfold encodeChars
  rw [List.flatMap_map, List.map_flatMap]
  simp only [encodeChar_toLower]

/-- A character of which some octets are read is going to lie beyond ASCII: the next octet does, and
with it the value has the bits for that, or it has them already if this is the last octet. -/
def Partial.Beyond (p : Partial) : Prop :=
  0x80 ≤ p.least ∧ (p.owed = 1 → 2 ≤ p.value) ∧ (p.owed ≠ 1 → 2 ≤ p.value * 64 + (p.least - 0x80))

instance (p : Partial) : Decidable p.Beyond := inferInstanceAs (Decidable (_ ∧ _ ∧ _))

/-- What an octet leaves open lies beyond ASCII. -/
theorem beyond_of_start {b : UInt8} {p : Partial} (opened : (start b).2 = some p) : p.Beyond := by
  have all : ∀ b : UInt8, (start b).2.all (fun p => decide p.Beyond) = true :=
    Uri.forall_octet (by decide +kernel)
  have holds := all b
  rw [opened] at holds
  exact of_decide_eq_true holds

/-- An octet and the one with its ASCII letter in lower case are the same or both in ASCII. -/
theorem lowercaseOctet_cases (b : UInt8) :
    lowercaseOctet b = b ∨ b.toNat < 0x80 ∧ (lowercaseOctet b).toNat < 0x80 := by
  have all : ∀ b : UInt8, lowercaseOctet b = b ∨ b.toNat < 0x80 ∧ (lowercaseOctet b).toNat < 0x80 :=
    Uri.forall_octet (by decide +kernel)
  exact all b

/-- A text that begins with an octet begins with the same character in lower case if the octet is
put in lower case. -/
theorem start_lowercaseOctet (b : UInt8) :
    start (lowercaseOctet b) = ((start b).1.map (Option.map Char.toLower), (start b).2) := by
  have items : ∀ b : UInt8,
      (start (lowercaseOctet b)).1 = (start b).1.map (Option.map Char.toLower) :=
    Uri.forall_octet (by decide +kernel)
  have complete : ∀ b : UInt8, b.toNat < 0x80 → (start b).2.isNone = true :=
    Uri.forall_octet (by decide +kernel)
  refine Prod.ext (items b) ?_
  rcases lowercaseOctet_cases b with own | ⟨ascii, lowered⟩
  · rw [own]
  · rw [Option.isNone_iff_eq_none.1 (complete _ lowered),
      Option.isNone_iff_eq_none.1 (complete _ ascii)]

/-- A character beyond the capital letters is its own lower case in ASCII. -/
theorem toLower_ofNat {n : Nat} (beyond : 0x5B ≤ n) : (Char.ofNat n).toLower = Char.ofNat n := by
  rcases toLower_cases (Char.ofNat n) with own | ⟨m, below, capital, -⟩
  · exact own
  · have letter : (Char.ofNat (0x41 + m)).toNat = 0x41 + m :=
      toNat_ofNat_of_isValidChar (.inl (by omega))
    have number := (congrArg Char.toNat capital).trans letter
    by_cases valid : n.isValidChar
    · rw [toNat_ofNat_of_isValidChar valid] at number
      omega
    · have null : (Char.ofNat n).toNat = 0 := by
        rw [Char.ofNat, dif_neg valid]
        rfl
      omega

/-- One more octet completes the same characters in lower case if it is put in lower case, and
leaves the same character open. -/
theorem advance_lowercaseOctet {state : Option Partial} (beyond : ∀ p, state = some p → p.Beyond)
    (b : UInt8) :
    advance state (lowercaseOctet b) =
      ((advance state b).1.map (Option.map Char.toLower), (advance state b).2) ∧
    ∀ p, (advance state b).2 = some p → p.Beyond := by
  cases state with
  | none => exact ⟨start_lowercaseOctet b, fun p opened => beyond_of_start opened⟩
  | some p =>
    obtain ⟨least, last, other⟩ := beyond p rfl
    by_cases taken : p.least ≤ b.toNat ∧ b.toNat ≤ p.greatest
    · have own : lowercaseOctet b = b := (lowercaseOctet_cases b).resolve_right (by omega)
      rw [own]
      simp only [advance, taken, and_self, ↓reduceIte]
      split
      · next ends =>
        have value := last ends
        have kept := toLower_ofNat (n := p.value * 64 + (b.toNat - 0x80)) (by omega)
        simp [kept]
      · next more =>
        have value := other more
        refine ⟨rfl, ?_⟩
        rintro q ⟨⟩
        refine ⟨?_, ?_, ?_⟩ <;> (dsimp only; omega)
    · have refused : ¬ (p.least ≤ (lowercaseOctet b).toNat ∧
          (lowercaseOctet b).toNat ≤ p.greatest) := by
        rcases lowercaseOctet_cases b with own | ⟨-, lowered⟩
        · rwa [own]
        · omega
      simp only [advance, taken, refused, ↓reduceIte, start_lowercaseOctet]
      exact ⟨rfl, fun p opened => beyond_of_start opened⟩

/-- Reading octets with their ASCII letters in lower case gives the characters in lower case. -/
theorem scan_map_lowercaseOctet {state : Option Partial} (beyond : ∀ p, state = some p → p.Beyond)
    (octets : List UInt8) :
    scan state (octets.map lowercaseOctet) = (scan state octets).map (Option.map Char.toLower) := by
  induction octets generalizing state with
  | nil => cases state <;> rfl
  | cons b rest ih =>
    obtain ⟨step, next⟩ := advance_lowercaseOctet beyond b
    rw [List.map_cons, scan_cons, scan_cons, step, ih next, List.map_append]

/-- Lossy reading of octets with their ASCII letters in lower case gives the characters in lower
case. -/
theorem decodeCharsLossy_map_lowercaseOctet (octets : List UInt8) :
    decodeCharsLossy (octets.map lowercaseOctet) =
      (decodeCharsLossy octets).map Char.toLower := by
  have item : ∀ item : Option Char, (item.map Char.toLower).getD (Char.ofNat 0xFFFD) =
      (item.getD (Char.ofNat 0xFFFD)).toLower := by
    intro item
    cases item with
    | none => exact (toLower_ofNat (by omega)).symm
    | some c => rfl
  unfold decodeCharsLossy
  rw [scan_map_lowercaseOctet (by simp), List.map_map, List.map_map]
  exact List.map_congr_left fun o _ => item o

end Utf8

namespace Percent

/-- The value of a hexadecimal digit does not depend on its case. -/
theorem hexValue_lowercaseOctet (b : UInt8) : hexValue (lowercaseOctet b) = hexValue b := by
  have all : ∀ b : UInt8, hexValue (lowercaseOctet b) = hexValue b :=
    Uri.forall_octet (by decide +kernel)
  exact all b

/-- Only the percent sign is a percent sign in lower case. -/
theorem lowercaseOctet_eq_percent_iff (b : UInt8) : lowercaseOctet b = 0x25 ↔ b = 0x25 := by
  have all : ∀ b : UInt8, lowercaseOctet b = 0x25 ↔ b = 0x25 :=
    Uri.forall_octet (by decide +kernel)
  exact all b

/-- A percent sign without two hexadecimal digits after it stands for itself. -/
theorem decode_percent_of_stray {h l : UInt8}
    (stray : ∀ high low, hexValue h = some high → hexValue l = some low → False)
    (rest : List UInt8) :
    decode (0x25 :: h :: l :: rest) = 0x25 :: decode (h :: l :: rest) := by
  rw [decode.eq_def]
  cases first : hexValue h with
  | none => simp [first]
  | some high =>
    cases second : hexValue l with
    | none => simp [first, second]
    | some low => exact (stray high low first second).elim

/-- Octets with their ASCII letters in lower case stand for the same octets, up to the case of ASCII
letters. -/
theorem decode_map_lowercaseOctet (octets : List UInt8) :
    (decode (octets.map lowercaseOctet)).map lowercaseOctet =
      (decode octets).map lowercaseOctet := by
  have twice : ∀ b : UInt8, lowercaseOctet (lowercaseOctet b) = lowercaseOctet b :=
    Uri.forall_octet (by decide +kernel)
  have percent : lowercaseOctet 0x25 = 0x25 := by decide
  fun_induction decode octets with
  | case1 => rfl
  | case2 h l tail high low second first ih =>
    rw [List.map_cons, percent, List.map_cons, List.map_cons,
      decode_triple ((hexValue_lowercaseOctet h).trans first)
        ((hexValue_lowercaseOctet l).trans second), List.map_cons, List.map_cons, ih]
  | case3 h l tail stray ih =>
    have other : ∀ high low, hexValue (lowercaseOctet h) = some high →
        hexValue (lowercaseOctet l) = some low → False := by
      simpa only [hexValue_lowercaseOctet] using stray
    rw [List.map_cons, percent, List.map_cons, List.map_cons, decode_percent_of_stray other,
      ← List.map_cons, ← List.map_cons, List.map_cons, ih, List.map_cons]
  | case4 short few =>
    rcases short with _ | ⟨b, _ | ⟨c, rest⟩⟩
    · rfl
    · simp [decode, percent, twice]
    · exact (few b c rest rfl).elim
  | case5 b rest other ih =>
    have plain : lowercaseOctet b ≠ 0x25 := mt (lowercaseOctet_eq_percent_iff b).1 other
    rw [List.map_cons, decode_cons_of_ne plain, List.map_cons, List.map_cons, ih, twice]

/-- Percent-encoded characters with their ASCII letters in lower case stand for the same characters,
up to the case of ASCII letters. -/
theorem decodeChars_map_toLower (l : List Char) :
    (decodeChars (l.map Char.toLower)).map Char.toLower =
      (decodeChars l).map Char.toLower := by
  unfold decodeChars
  rw [Utf8.encodeChars_map_toLower, ← Utf8.decodeCharsLossy_map_lowercaseOctet,
    decode_map_lowercaseOctet, Utf8.decodeCharsLossy_map_lowercaseOctet]

end Percent

end HttpGateway.Text

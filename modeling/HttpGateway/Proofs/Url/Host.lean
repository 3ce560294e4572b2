import HttpGateway.Proofs.Text.Coding
import HttpGateway.Proofs.Text.Split
import HttpGateway.Url.Http

/-!
# Hosts in plain ASCII

Folding a name in ASCII changes nothing but letter case, and decoding a label keeps every character
of it that is no digit. So a character that may not stand in a host name stands in no name of plain
ASCII that is a host (`Url.not_mem_of_isHost`). An address of the sixth version has hexadecimal
digits, dots and at most eight colons (`Url.of_isAddress6`).
-/

namespace HttpGateway

/-! ## Composition -/

namespace Text

/-- A character of ASCII is not taken apart. -/
theorem decomposeChar_of_ascii {c : Char} (ascii : c.toNat < 0x80) (fuel : Nat) :
    decomposeChar fuel c = [c] := by
  cases fuel with
  | zero => rfl
  | succ fuel =>
    have whole : parts? c = none := if_pos (Nat.lt_trans ascii (by decide))
    unfold decomposeChar
    rw [whole]

/-- Nothing is composed with a character of ASCII. -/
theorem composite?_of_ascii {base c : Char} (ascii : c.toNat < 0x80) :
    composite? base c = none :=
  if_pos (Nat.lt_trans ascii (by decide))

/-- Composing characters of ASCII loses none of them. -/
theorem mem_composeFrom_of_ascii {base d : Char} {marks l : List Char}
    (ascii : ∀ c ∈ l, c.toNat < 0x80) (mem : d ∈ base :: marks ++ l) :
    d ∈ composeFrom base marks l := by
  induction l generalizing base marks with
  | nil => simpa [composeFrom] using mem
  | cons c rest ih =>
    obtain ⟨first, others⟩ := List.forall_mem_cons.1 ascii
    have apart : (if areApart marks c then none else composite? base c) = none := by
      rw [composite?_of_ascii first, ite_self]
    unfold composeFrom
    rw [apart]
    dsimp only
    split
    · have later : d ∈ c :: [] ++ rest → d ∈ composeFrom c [] rest := ih others
      simp only [List.mem_append, List.mem_cons, List.mem_reverse] at mem later ⊢
      tauto
    · apply ih others
      simp only [List.mem_append, List.mem_cons] at mem ⊢
      tauto

/-- The composed form of a text in ASCII has every character of it. -/
theorem mem_compose_of_ascii {d : Char} {l : List Char} (ascii : ∀ c ∈ l, c.toNat < 0x80)
    (mem : d ∈ l) : d ∈ compose l := by
  have same : l.flatMap (decomposeChar compositeDepth) = l := by
    have alone : ∀ c ∈ l, decomposeChar compositeDepth c = [c] := fun c mem =>
      decomposeChar_of_ascii (ascii c mem) _
    rw [List.flatMap_congr alone, List.flatMap_singleton']
  unfold compose
  rw [same]
  have kept : d ∈ orderMarks l := (orderMarks_perm l).mem_iff.2 mem
  split
  · next none =>
    rw [none] at kept
    cases kept
  · next base rest ordered =>
    rw [ordered] at kept
    refine mem_composeFrom_of_ascii (fun c mem => ?_) kept
    exact ascii c ((orderMarks_perm l).mem_iff.1 (ordered ▸ List.mem_cons_of_mem _ mem))

end Text

namespace Url

/-- A character of ASCII in lower case is one of ASCII. -/
theorem toNat_toLower_lt {c : Char} (ascii : c.toNat < 0x80) : c.toLower.toNat < 0x80 := by
  unfold Char.toLower
  split
  · next capital =>
    have upper : c.toNat ≤ 0x5A := UInt32.le_iff_toNat_le.1 capital.2
    change (c.val + 32).toNat < 0x80
    rw [UInt32.toNat_add]
    change (c.toNat + 32) % 2 ^ 32 < 0x80
    omega
  · exact ascii

/-- Folding a name in ASCII keeps every character that is no capital letter. -/
theorem mem_foldName_of_ascii {d : Char} {name : List Char} (ascii : ∀ c ∈ name, c.toNat < 0x80)
    (mem : d ∈ name) (small : d.toLower = d) : d ∈ foldName name := by
  have mapped : name.flatMap mapChar = name.map Char.toLower := by
    have alone : ∀ c ∈ name, mapChar c = [c.toLower] := fun c mem => if_pos (ascii c mem)
    rw [List.flatMap_congr alone, ← List.map_eq_flatMap]
  unfold foldName
  rw [mapped]
  refine Text.mem_compose_of_ascii (fun c lowered => ?_) (List.mem_map.2 ⟨d, mem, small⟩)
  obtain ⟨c, there, rfl⟩ := List.mem_map.1 lowered
  exact toNat_toLower_lt (ascii c there)

/-! ## Labels -/

namespace Punycode

/-- A difference is read from digits. -/
theorem exists_of_readDelta {bias weight position index place : Nat} {digits rest : List Char}
    (read : readDelta bias weight position index digits = some (place, rest)) :
    ∃ taken, digits = taken ++ rest ∧ ∀ d ∈ taken, digitValue? d ≠ none := by
  induction digits generalizing weight position index with
  | nil => cases read
  | cons c tail ih =>
    unfold readDelta at read
    obtain ⟨digit, valued, read⟩ := Option.bind_eq_some_iff.1 read
    obtain ⟨next, -, read⟩ := Option.bind_eq_some_iff.1 read
    have isDigit : digitValue? c ≠ none := by simp [valued]
    split at read
    · obtain ⟨-, rfl⟩ := Prod.mk.inj (Option.some.inj read)
      exact ⟨[c], rfl, by simpa using isDigit⟩
    · obtain ⟨heavier, -, read⟩ := Option.bind_eq_some_iff.1 read
      obtain ⟨taken, rfl, all⟩ := ih read
      exact ⟨c :: taken, rfl, List.forall_mem_cons.2 ⟨isDigit, all⟩⟩

/-- Inserting characters reads digits alone, and keeps the characters there were. -/
theorem of_insertAll {fuel code index bias : Nat} {chars digits result : List Char}
    (inserted : insertAll fuel code index bias chars digits = some result) :
    (∀ d ∈ digits, digitValue? d ≠ none) ∧ ∀ c ∈ chars, c ∈ result := by
  induction fuel generalizing code index bias chars digits with
  | zero =>
    cases digits with
    | nil =>
      obtain rfl := Option.some.inj inserted
      exact ⟨by simp, fun _ mem => mem⟩
    | cons _ _ => cases inserted
  | succ fuel ih =>
    cases digits with
    | nil =>
      obtain rfl := Option.some.inj inserted
      exact ⟨by simp, fun _ mem => mem⟩
    | cons d tail =>
      unfold insertAll at inserted
      obtain ⟨⟨place, rest⟩, read, inserted⟩ := Option.bind_eq_some_iff.1 inserted
      dsimp only at inserted
      split at inserted
      · obtain ⟨taken, eq, all⟩ := exists_of_readDelta read
        obtain ⟨others, kept⟩ := ih inserted
        refine ⟨fun c mem => ?_, fun c mem => kept c ?_⟩
        · rw [eq] at mem
          exact (List.mem_append.1 mem).elim (all c) (others c)
        · refine (List.mem_insertIdx ?_).2 (.inr mem)
          exact Nat.le_of_lt_succ (Nat.mod_lt _ (Nat.succ_pos _))
      · cases inserted

/-- Decoding a label keeps every character of it that is neither a digit nor a hyphen. -/
theorem mem_of_decode? {label chars : List Char} (decoded : decode? label = some chars) {c : Char}
    (mem : c ∈ label) (plain : digitValue? c = none) (other : c ≠ '-') : c ∈ chars := by
  unfold decode? at decoded
  dsimp only at decoded
  split at decoded
  · cases decoded
  · obtain ⟨digits, kept⟩ := of_insertAll decoded
    -- The label is cut behind its last hyphen.
    let front := (label.reverse.dropWhile (· != '-')).reverse
    let tail := (label.reverse.takeWhile (· != '-')).reverse
    have cut : label = front ++ tail := by
      rw [← List.reverse_append, List.takeWhile_append_dropWhile, List.reverse_reverse]
    have basic : label.take (label.length - tail.length) = front := by
      have lengths : label.length - tail.length = front.length := by
        rw [cut, List.length_append, Nat.add_sub_cancel]
      rw [lengths]
      nth_rewrite 1 [cut]
      exact List.take_left
    rw [cut] at mem
    rcases List.mem_append.1 mem with inFront | inTail
    · refine kept c ?_
      change c ∈ (label.take (label.length - tail.length)).dropLast
      rw [basic]
      rcases List.eq_nil_or_concat front with none | ⟨init, last, concat⟩
      · rw [none] at inFront
        cases inFront
      have left : label.reverse.dropWhile (· != '-') = last :: init.reverse := by
        rw [← List.reverse_reverse (label.reverse.dropWhile _)]
        change front.reverse = _
        rw [concat, List.concat_eq_append, List.reverse_append]
        rfl
      have hyphen : last = '-' := by
        have stops := List.head?_dropWhile_not (· != '-') label.reverse
        rw [left] at stops
        simpa using stops
      rw [concat, List.concat_eq_append] at inFront ⊢
      rw [List.dropLast_concat]
      rcases List.mem_append.1 inFront with early | late
      · exact early
      · exact absurd ((List.mem_singleton.1 late).trans hyphen) other
    · exact absurd plain (digits c inTail)

end Punycode

/-- What a label stands for has every character of it that is neither a digit nor a hyphen. -/
theorem Label.mem_of_chars? {label chars : List Char} (read : chars? label = some chars) {c : Char}
    (mem : c ∈ label) (plain : Punycode.digitValue? c = none) (other : c ≠ '-') : c ∈ chars := by
  unfold chars? at read
  split at read
  · next marked =>
    have parts : label = encodedMark ++ label.drop 4 := by
      rw [← marked, List.take_append_drop]
    have marks : c ∉ encodedMark := by
      intro inMark
      have all : (encodedMark.all fun d => (Punycode.digitValue? d).isSome || d == '-') = true := by
        decide +kernel
      have marked := List.all_eq_true.1 all c inMark
      simp [plain, other] at marked
    have inside : c ∈ label.drop 4 := by
      rw [parts] at mem
      exact (List.mem_append.1 mem).resolve_left marks
    unfold decode? at read
    obtain ⟨-, -, read⟩ := Option.bind_eq_some_iff.1 read
    obtain ⟨decoded, stands, read⟩ := Option.bind_eq_some_iff.1 read
    obtain ⟨-, -, read⟩ := Option.bind_eq_some_iff.1 read
    exact Option.some.inj read ▸ Punycode.mem_of_decode? stands inside plain other
  · split at read
    · exact Option.some.inj read ▸ mem
    · cases read

/-! ## Names -/

/-- What each member of a list is mapped to is there when all are mapped to something. -/
theorem exists_of_mapM_eq_some {α β : Type} {f : α → Option β} {l : List α} {m : List β}
    (mapped : l.mapM f = some m) {a : α} (mem : a ∈ l) : ∃ b ∈ m, f a = some b := by
  induction l generalizing m with
  | nil => cases mem
  | cons first rest ih =>
    rw [List.mapM_cons] at mapped
    obtain ⟨b, here, mapped⟩ := Option.bind_eq_some_iff.1 mapped
    obtain ⟨others, there, mapped⟩ := Option.bind_eq_some_iff.1 mapped
    obtain rfl := Option.some.inj mapped
    rcases List.mem_cons.1 mem with rfl | mem
    · exact ⟨b, List.mem_cons_self, here⟩
    · obtain ⟨c, inside, same⟩ := ih there mem
      exact ⟨c, List.mem_cons_of_mem _ inside, same⟩

/-- A host name has no character that may not stand in one; digits, dots and hyphens may. -/
theorem isNameChar_of_isHostName {name : List Char} (sound : isHostName name = true) {c : Char}
    (mem : c ∈ name) (plain : Punycode.digitValue? c = none) (noHyphen : c ≠ '-')
    (noDot : c ≠ '.') : isNameChar c = true := by
  unfold isHostName at sound
  split at sound
  · next labels read =>
    obtain ⟨piece, cut, inside⟩ := Text.exists_mem_splitOn mem noDot
    obtain ⟨chars, there, stands⟩ := exists_of_mapM_eq_some read cut
    have label := List.all_eq_true.1 (Bool.and_eq_true_iff.1 sound).1 chars there
    unfold Label.isSound at label
    have allowed := (Bool.and_eq_true_iff.1 (Bool.and_eq_true_iff.1 label).1).1
    exact List.all_eq_true.1 allowed c (Label.mem_of_chars? stands inside plain noHyphen)
  · cases sound

/-- A host in ASCII without percent signs and brackets at its ends has no character that may not
stand in a host name. -/
theorem not_isForbidden_of_isHost {host : List Char} (sound : isHost host = true)
    (named : host.head? ≠ some '[') (ascii : ∀ c ∈ host, c.toNat < 0x80) (noPercent : '%' ∉ host)
    {c : Char} (mem : c ∈ host) (plain : Punycode.digitValue? c = none) (noHyphen : c ≠ '-')
    (noDot : c ≠ '.') (small : c.toLower = c) : isForbidden c = false := by
  have unencoded : ∀ b ∈ Text.Utf8.encodeChars host, b ≠ 0x25 := by
    intro b inside same
    obtain ⟨d, there, written⟩ := List.mem_flatMap.1 inside
    have small := ascii d there
    rw [Text.Utf8.encodeChar_ascii small, List.mem_singleton] at written
    have number : d.toNat = 0x25 := by
      rw [← Text.Utf8.octet_toNat (n := d.toNat) (by omega), ← written, same]
      rfl
    have percent : d = '%' := Char.toNat_inj.1 number
    exact noPercent (percent ▸ there)
  unfold isHost at sound
  rw [if_neg named, Text.Percent.decode_of_forall_ne unencoded,
    Text.Utf8.decodeChars?_encodeChars] at sound
  have folded : isHostName (foldName host) = true :=
    (Bool.and_eq_true_iff.1 (Bool.and_eq_true_iff.1 sound).1).2
  have allowed := isNameChar_of_isHostName folded (mem_foldName_of_ascii ascii mem small) plain
    noHyphen noDot
  unfold isNameChar at allowed
  rw [if_pos (ascii c mem)] at allowed
  simpa using allowed

/-! ## Addresses of the sixth version -/

/-- Whether a character is a hexadecimal digit or a dot. -/
def isGroupChar (c : Char) : Bool := (hexDigit? c).isSome || c == '.'

/-- A decimal digit is a hexadecimal digit. -/
theorem isGroupChar_of_isDigit {c : Char} (digit : c.isDigit = true) : isGroupChar c = true := by
  have bounds : 0x30 ≤ c.toNat ∧ c.toNat ≤ 0x39 := by
    obtain ⟨lower, upper⟩ := Bool.and_eq_true_iff.1 digit
    exact ⟨UInt32.le_iff_toNat_le.1 (of_decide_eq_true lower),
      UInt32.le_iff_toNat_le.1 (of_decide_eq_true upper)⟩
  have value : hexDigit? c = some (c.toNat - 0x30) := by
    unfold hexDigit? Text.Percent.hexValue
    rw [if_pos (by omega), Text.Utf8.octet_toNat (by omega), if_pos bounds]
  simp [isGroupChar, value]

/-- A group has digits alone. -/
theorem isGroupChar_of_isGroup {digits : List Char} (group : isGroup digits = true) :
    ∀ c ∈ digits, isGroupChar c = true := by
  intro c mem
  have digit := List.all_eq_true.1 (Bool.and_eq_true_iff.1 group).2 c mem
  simp [isGroupChar, digit]

/-- Four octets in decimal have digits and dots alone. -/
theorem isGroupChar_of_isDottedQuad {text : List Char} (quad : isDottedQuad text = true) :
    ∀ c ∈ text, isGroupChar c = true := by
  intro c mem
  by_cases dot : c = '.'
  · rw [dot]
    rfl
  · obtain ⟨piece, cut, inside⟩ := Text.exists_mem_splitOn mem dot
    have octet := List.all_eq_true.1 (Bool.and_eq_true_iff.1 quad).2 piece cut
    simp only [isDecimalOctet, Bool.and_eq_true] at octet
    exact isGroupChar_of_isDigit (List.all_eq_true.1 octet.1.1.1.2 c inside)

/-- What is counted as groups has digits and dots alone, and there is at least one group for each
piece. -/
theorem of_countGroups? {quadAllowed : Bool} {pieces : List (List Char)} {n : Nat}
    (counted : countGroups? quadAllowed pieces = some n) :
    pieces.length ≤ n ∧ ∀ piece ∈ pieces, ∀ c ∈ piece, isGroupChar c = true := by
  induction pieces generalizing n with
  | nil => exact ⟨Nat.zero_le _, by simp⟩
  | cons piece rest ih =>
    cases rest with
    | nil =>
      unfold countGroups? at counted
      split at counted
      · next group =>
        obtain rfl := Option.some.inj counted
        exact ⟨Nat.le_refl 1, by simpa using isGroupChar_of_isGroup group⟩
      split at counted
      · next quad =>
        obtain rfl := Option.some.inj counted
        exact ⟨Nat.le_succ 1, by
          simpa using isGroupChar_of_isDottedQuad (Bool.and_eq_true_iff.1 quad).2⟩
      · cases counted
    | cons next others =>
      unfold countGroups? at counted
      split at counted
      · next group =>
        obtain ⟨m, later, rfl⟩ := Option.map_eq_some_iff.1 counted
        obtain ⟨few, all⟩ := ih later
        refine ⟨Nat.succ_le_succ few, ?_⟩
        exact List.forall_mem_cons.2 ⟨isGroupChar_of_isGroup group, all⟩
      · cases counted

/-- A text whose pieces between colons are counted as groups has digits, dots and colons alone, and
fewer colons than groups. -/
theorem of_countGroups?_splitOn {quadAllowed : Bool} {text : List Char} {n : Nat}
    (counted : countGroups? quadAllowed (text.splitOn ':') = some n) :
    text.count ':' + 1 ≤ n ∧ ∀ c ∈ text, c = ':' ∨ isGroupChar c = true := by
  obtain ⟨few, all⟩ := of_countGroups? counted
  rw [Text.length_splitOn] at few
  refine ⟨few, fun c mem => ?_⟩
  by_cases colon : c = ':'
  · exact .inl colon
  · obtain ⟨piece, cut, inside⟩ := Text.exists_mem_splitOn mem colon
    exact .inr (all piece cut c inside)

/-- A part of an address has digits, dots and colons alone, and fewer colons than groups unless it
is empty. -/
theorem of_sideGroups? {quadAllowed : Bool} {side : List Char} {n : Nat}
    (counted : sideGroups? quadAllowed side = some n) :
    side.count ':' ≤ n - 1 ∧ ∀ c ∈ side, c = ':' ∨ isGroupChar c = true := by
  unfold sideGroups? at counted
  split at counted
  · next empty =>
    rw [List.isEmpty_iff.1 empty]
    exact ⟨Nat.zero_le _, by simp⟩
  · obtain ⟨few, all⟩ := of_countGroups?_splitOn counted
    exact ⟨by omega, all⟩

/-- A text is cut at two colons in a row. -/
theorem eq_of_splitColons {text before after : List Char}
    (cut : splitColons text = some (before, after)) : text = before ++ ':' :: ':' :: after := by
  fun_induction splitColons text generalizing before with
  | case1 rest =>
    obtain ⟨rfl, rfl⟩ := Prod.mk.inj (Option.some.inj cut)
    rfl
  | case2 c rest _ ih =>
    obtain ⟨⟨early, late⟩, there, same⟩ := Option.map_eq_some_iff.1 cut
    obtain ⟨rfl, rfl⟩ := Prod.mk.inj same
    rw [ih there]
    rfl
  | case3 => cases cut

/-- An address of the sixth version has hexadecimal digits, dots and colons alone, and at most eight
colons. -/
theorem of_isAddress6 {text : List Char} (address : isAddress6 text = true) :
    text.count ':' ≤ 8 ∧ ∀ c ∈ text, c = ':' ∨ isGroupChar c = true := by
  unfold isAddress6 at address
  split at address
  · next before after cut =>
    rw [eq_of_splitColons cut]
    split at address
    · next m n front back =>
      have few : m + n ≤ 7 := of_decide_eq_true address
      obtain ⟨fewFront, allFront⟩ := of_sideGroups? front
      obtain ⟨fewBack, allBack⟩ := of_sideGroups? back
      constructor
      · rw [List.count_append, List.count_cons_self, List.count_cons_self]
        omega
      · simp only [List.mem_append, List.mem_cons]
        rintro c (mem | rfl | rfl | mem)
        · exact allFront c mem
        · exact .inl rfl
        · exact .inl rfl
        · exact allBack c mem
    · cases address
  · have counted : countGroups? true (text.splitOn ':') = some 8 := eq_of_beq address
    obtain ⟨few, all⟩ := of_countGroups?_splitOn counted
    exact ⟨by omega, all⟩

/-! ## Hosts with ports -/

/-- A host and what follows it make up the whole. -/
theorem splitHost_append (bracketed : Bool) (l : List Char) :
    (splitHost bracketed l).1 ++ (splitHost bracketed l).2 = l := by
  induction l generalizing bracketed with
  | nil => rfl
  | cons c rest ih =>
    unfold splitHost
    split
    · rfl
    · exact congrArg (c :: ·) (ih _)

/-- A host without an opening bracket has no colon. -/
theorem colon_not_mem_splitHost {l : List Char} (plain : '[' ∉ (splitHost false l).1) :
    ':' ∉ (splitHost false l).1 := by
  induction l with
  | nil => exact List.not_mem_nil
  | cons c rest ih =>
    unfold splitHost at plain ⊢
    by_cases colon : c = ':'
    · rw [if_pos ⟨colon, rfl⟩]
      exact List.not_mem_nil
    · rw [if_neg fun both => colon both.1] at plain ⊢
      have noBracket : c ≠ '[' := fun same => plain (same ▸ List.mem_cons_self)
      have outside : (if c = '[' then true else if c = ']' then false else false) = false := by
        rw [if_neg noBracket, ite_self]
      simp only [outside] at plain ⊢
      intro mem
      rcases List.mem_cons.1 mem with same | mem
      · exact colon same.symm
      · exact ih (fun mem => plain (List.mem_cons_of_mem _ mem)) mem

/-- A port has one colon at most and no brackets. -/
theorem of_isPort {port : List Char} (sound : isPort port = true) :
    port.count ':' ≤ 1 ∧ '[' ∉ port ∧ ']' ∉ port := by
  unfold isPort at sound
  split at sound
  · exact ⟨Nat.zero_le 1, List.not_mem_nil, List.not_mem_nil⟩
  · next digits =>
    have all := List.all_eq_true.1 (Bool.and_eq_true_iff.1 sound).1
    have other : ∀ c : Char, c.isDigit = false → c ∉ digits := fun c noDigit mem =>
      absurd (all c mem) (by simp [noDigit])
    have single : (':' :: digits).count ':' = 1 := by
      rw [List.count_cons_self, List.count_eq_zero_of_not_mem (other ':' (by decide))]
    refine ⟨Nat.le_of_eq single, ?_, ?_⟩
    · simpa using other '[' (by decide)
    · simpa using other ']' (by decide)
  · cases sound

/-- A host in ASCII without percent signs is an address between brackets, with at most eight colons,
or has neither brackets nor colons. -/
theorem splitHost_cases {place : List Char} (sound : isHost (splitHost false place).1 = true)
    (ascii : ∀ c ∈ place, c.toNat < 0x80) (noPercent : '%' ∉ place) :
    (∃ inner, (splitHost false place).1 = '[' :: inner ++ [']'] ∧ inner.count ':' ≤ 8 ∧
      '[' ∉ inner ∧ ']' ∉ inner) ∨
    ('[' ∉ (splitHost false place).1 ∧ ']' ∉ (splitHost false place).1 ∧
      ':' ∉ (splitHost false place).1) := by
  have whole := splitHost_append false place
  have part : ∀ c ∈ (splitHost false place).1, c ∈ place := fun c mem =>
    whole ▸ List.mem_append_left _ mem
  by_cases front : (splitHost false place).1.head? = some '['
  · left
    unfold isHost at sound
    rw [if_pos front] at sound
    obtain ⟨closed, address⟩ := Bool.and_eq_true_iff.1 sound
    obtain ⟨few, all⟩ := of_isAddress6 address
    obtain ⟨tail, opened⟩ : ∃ tail, (splitHost false place).1 = '[' :: tail :=
      ⟨_, List.eq_cons_of_mem_head? front⟩
    rw [opened] at closed few all ⊢
    rcases List.eq_nil_or_concat tail with rfl | ⟨inner, last, rfl⟩
    · exact absurd closed (by decide)
    rw [List.concat_eq_append] at closed few all ⊢
    have bracket : last = ']' := by
      rw [← List.cons_append, List.getLast?_concat] at closed
      exact Option.some.inj (eq_of_beq closed)
    rw [List.drop_one, List.tail_cons, List.dropLast_concat] at few all
    refine ⟨inner, by rw [bracket]; rfl, few, fun mem => ?_, fun mem => ?_⟩
    · exact absurd (all _ mem) (by decide +kernel)
    · exact absurd (all _ mem) (by decide +kernel)
  · right
    have plain : ∀ c, Punycode.digitValue? c = none → c ≠ '-' → c ≠ '.' → c.toLower = c →
        isForbidden c = true → c ∉ (splitHost false place).1 := by
      intro c noDigit noHyphen noDot small forbidden mem
      have allowed := not_isForbidden_of_isHost sound front (fun c mem => ascii c (part c mem))
        (fun mem => noPercent (part _ mem)) mem noDigit noHyphen noDot small
      rw [forbidden] at allowed
      cases allowed
    have noOpening : '[' ∉ (splitHost false place).1 :=
      plain '[' (by decide) (by decide) (by decide) (by decide) (by decide +kernel)
    have noClosing : ']' ∉ (splitHost false place).1 :=
      plain ']' (by decide) (by decide) (by decide) (by decide) (by decide +kernel)
    exact ⟨noOpening, noClosing, colon_not_mem_splitHost noOpening⟩

end Url

end HttpGateway

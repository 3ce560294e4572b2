import HttpGateway.Message.Uri
import HttpGateway.Proofs.Text.Coding
import HttpGateway.Proofs.Text.Strip

/-!
# Reading request targets

An absolute target is a scheme, a colon and two slashes, an authority that is not empty, and a path
and a query. What is read as one is written so (`Uri.parts_of_read`), and what is written so is read
(`Uri.read_of_parts`). An authority is read octet by octet: between brackets and at signs only its
colons and percent signs count (`AuthorityScan.foldlM_step_of_plain`).
-/

namespace HttpGateway.Uri

/-! ## Octets -/

/-- A property that all numbers below 256 have as octets holds of all octets. -/
theorem forall_octet {P : UInt8 → Prop} (all : ∀ n < 256, P (Text.Utf8.octet n)) (b : UInt8) :
    P b := by
  have same : Text.Utf8.octet b.toNat = b :=
    UInt8.toNat_inj.1 (Text.Utf8.octet_toNat b.toNat_lt)
  exact same ▸ all b.toNat b.toNat_lt

/-- An octet of an authority is one of ASCII and does not end it. -/
theorem of_isAuthorityOctet {b : UInt8} (legal : isAuthorityOctet b = true ∨ b = 0x25) :
    b.toNat < 0x80 ∧ endsAuthority b = false := by
  have all : ∀ b : UInt8, isAuthorityOctet b = true ∨ b = 0x25 →
      b.toNat < 0x80 ∧ endsAuthority b = false := forall_octet (by decide +kernel)
  exact all b legal

/-- A computation that succeeds succeeds in its first part. -/
theorem of_bind_eq_ok {ε α β : Type} {x : Except ε α} {f : α → Except ε β} {b : β}
    (done : x >>= f = .ok b) : ∃ a, x = .ok a ∧ f a = .ok b := by
  cases x with
  | error fault => cases done
  | ok a => exact ⟨a, rfl, done⟩

/-! ## Authorities -/

namespace AuthorityScan

variable {scan next : AuthorityScan}

/-- An octet that is neither a bracket nor an at sign may be seen while there are few colons. -/
theorem step_of_plain {b : UInt8} (legal : isAuthorityOctet b = true ∨ b = 0x25)
    (noOpening : b ≠ 0x5B) (noClosing : b ≠ 0x5D) (noAt : b ≠ 0x40)
    (few : scan.colons + (if b = 0x3A then 1 else 0) ≤ colonLimit) :
    scan.step b = .ok ⟨scan.colons + (if b = 0x3A then 1 else 0), scan.opened, scan.closed,
      scan.percent || 0x25 == b, false⟩ := by
  unfold step
  by_cases colon : b = 0x3A
  · subst colon
    rw [if_pos rfl] at few ⊢
    rw [if_neg (by omega)]
    simp
  rw [if_neg colon, if_neg noOpening, if_neg noClosing, if_neg noAt, if_neg colon]
  by_cases percent : b = 0x25
  · subst percent
    simp
  · rw [if_neg percent, if_pos (legal.resolve_right percent)]
    simp [Ne.symm percent]

/-- Octets that are neither brackets nor at signs may be seen while there are few colons; the
colons and percent signs among them count. -/
theorem foldlM_step_of_plain {part : List UInt8}
    (legal : ∀ b ∈ part, (isAuthorityOctet b = true ∨ b = 0x25) ∧ b ≠ 0x5B ∧ b ≠ 0x5D ∧ b ≠ 0x40)
    (few : scan.colons + part.count 0x3A ≤ colonLimit) :
    part.foldlM step scan = .ok ⟨scan.colons + part.count 0x3A, scan.opened, scan.closed,
      scan.percent || part.contains 0x25, part.isEmpty && scan.atSign⟩ := by
  induction part generalizing scan with
  | nil => simp [pure, Except.pure]
  | cons b rest ih =>
    obtain ⟨⟨own, noOpening, noClosing, noAt⟩, others⟩ := List.forall_mem_cons.1 legal
    have count : (b :: rest).count 0x3A = (if b = 0x3A then 1 else 0) + rest.count 0x3A := by
      rw [List.count_cons, Nat.add_comm]
      simp
    rw [count] at few ⊢
    rw [List.foldlM_cons, step_of_plain own noOpening noClosing noAt (by omega)]
    change rest.foldlM step _ = _
    rw [ih others (by dsimp only; omega), Nat.add_assoc, Bool.or_assoc, Bool.and_false,
      List.contains_cons, List.isEmpty_cons, Bool.false_and]

/-- An octet that may be seen is one of an authority. -/
theorem legal_of_step {b : UInt8} (seen : scan.step b = .ok next) :
    isAuthorityOctet b = true ∨ b = 0x25 := by
  unfold step at seen
  by_cases percent : b = 0x25
  · exact .inr percent
  · left
    by_cases colon : b = 0x3A
    · rw [colon]; decide +kernel
    by_cases opening : b = 0x5B
    · rw [opening]; decide +kernel
    by_cases closing : b = 0x5D
    · rw [closing]; decide +kernel
    by_cases atSign : b = 0x40
    · rw [atSign]; decide +kernel
    rw [if_neg colon, if_neg opening, if_neg closing, if_neg atSign, if_neg percent] at seen
    split at seen
    · assumption
    · cases seen

/-- Octets that may be seen are those of an authority. -/
theorem legal_of_foldlM_step {part : List UInt8} (seen : part.foldlM step scan = .ok next) :
    ∀ b ∈ part, isAuthorityOctet b = true ∨ b = 0x25 := by
  induction part generalizing scan with
  | nil => simp
  | cons b rest ih =>
    rw [List.foldlM_cons] at seen
    obtain ⟨middle, first, later⟩ := of_bind_eq_ok seen
    exact List.forall_mem_cons.2 ⟨legal_of_step first, ih later⟩

end AuthorityScan

/-- What is left of a list behind its longest part in front whose members all have a property. -/
theorem drop_length_takeWhile {α : Type} (p : α → Bool) (l : List α) :
    l.drop (l.takeWhile p).length = l.dropWhile p := by
  nth_rewrite 2 [← List.takeWhile_append_dropWhile (p := p) (l := l)]
  exact List.drop_left

/-- An authority that is taken is what stands before the first octet that ends one. -/
theorem of_takeAuthority {input authority after : List UInt8}
    (taken : takeAuthority input = .ok (authority, after)) :
    input = authority ++ after ∧ (∀ b ∈ authority, isAuthorityOctet b = true ∨ b = 0x25) ∧
      ∀ b ∈ after.head?, endsAuthority b = true := by
  unfold takeAuthority at taken
  obtain ⟨scan, seen, taken⟩ := of_bind_eq_ok taken
  split at taken
  · obtain ⟨rfl, rfl⟩ := Prod.mk.inj (Except.ok.inj taken)
    rw [drop_length_takeWhile]
    refine ⟨List.takeWhile_append_dropWhile.symm, AuthorityScan.legal_of_foldlM_step seen, ?_⟩
    intro b first
    have stops := List.head?_dropWhile_not (!endsAuthority ·) input
    rw [first] at stops
    simpa using stops
  · cases taken

/-- A scheme that is taken is octets of a scheme before a colon and two slashes. -/
theorem of_takeScheme {input scheme rest : List UInt8}
    (taken : takeScheme input = .ok (some scheme, rest)) :
    ∃ written, input = written ++ schemeEnd ++ rest ∧ (∀ b ∈ written, isSchemeOctet b = true) ∧
      (written.map lowercaseOctet = ascii "http" → scheme = ascii "http") := by
  unfold takeScheme at taken
  dsimp only at taken
  rw [drop_length_takeWhile] at taken
  split at taken
  · next ends =>
    have written : input = input.takeWhile isSchemeOctet ++ schemeEnd ++
        (input.dropWhile isSchemeOctet).drop 3 := by
      rw [← ends.1, List.append_assoc, List.take_append_drop, List.takeWhile_append_dropWhile]
    have legal : ∀ b ∈ input.takeWhile isSchemeOctet, isSchemeOctet b = true := fun b mem =>
      List.mem_takeWhile_imp mem
    split at taken
    · obtain ⟨same, rfl⟩ := Prod.mk.inj (Except.ok.inj taken)
      exact ⟨_, written, legal, fun named => (Option.some.inj same).symm.trans named⟩
    · next other =>
      split at taken
      · cases taken
      · obtain ⟨-, rfl⟩ := Prod.mk.inj (Except.ok.inj taken)
        exact ⟨_, written, legal, fun named => absurd (.inl named) other⟩
  · cases taken

/-- The ways in which octets are written as a target. -/
inductive Written (input : List UInt8) : Uri → Prop
  /-- A path from the root, and a query. -/
  | rooted {path : List UInt8} {query : Option (List UInt8)} (slash : input.head? = some 0x2F)
      (rest : readPathAndQuery input = .ok (path, query)) : Written input ⟨none, [], path, query⟩
  /-- The asterisk. -/
  | asterisk (star : input = [0x2A]) : Written input ⟨none, [], [0x2A], none⟩
  /-- An authority. -/
  | authority (authority : List UInt8) : Written input ⟨none, authority, [], none⟩
  /-- A scheme, an authority that is not empty, a path and a query. -/
  | absolute {scheme rest authority after path : List UInt8} {query : Option (List UInt8)}
      (first : takeScheme input = .ok (some scheme, rest))
      (second : takeAuthority rest = .ok (authority, after)) (some : authority ≠ [])
      (third : readPathAndQuery after = .ok (path, query)) :
      Written input ⟨.some scheme, authority, path, query⟩

/-- Octets that are read as a target are written as that. -/
theorem written_of_read {input : List UInt8} {uri : Uri} (read : Uri.read input = .ok uri) :
    Written input uri := by
  unfold Uri.read at read
  split at read
  · cases read
  split at read
  · cases read
  next first others =>
    split at read
    · next slash =>
      obtain ⟨⟨path, query⟩, rest, read⟩ := of_bind_eq_ok read
      obtain rfl := Except.ok.inj read
      exact .rooted (by rw [slash]; rfl) rest
    split at read
    · next star =>
      obtain rfl := Except.ok.inj read
      rw [star]
      exact .asterisk rfl
    obtain ⟨⟨name, rest⟩, one, read⟩ := of_bind_eq_ok read
    obtain ⟨⟨authority, after⟩, two, read⟩ := of_bind_eq_ok read
    cases name with
    | none =>
      dsimp only at read
      split at read
      · obtain rfl := Except.ok.inj read
        exact .authority authority
      · split at read <;> cases read
    | some name =>
      dsimp only at read
      split at read
      · cases read
      split at read
      · cases read
      · next some =>
        obtain ⟨⟨path, query⟩, three, read⟩ := of_bind_eq_ok read
        obtain rfl := Except.ok.inj read
        exact .absolute one two (fun none => some (List.isEmpty_iff.2 none)) three

/-- What is read as an absolute target is a scheme, a colon and two slashes, an authority that is
not empty, and what follows it. -/
theorem parts_of_read {input : List UInt8} {uri : Uri} {scheme : List UInt8}
    (read : Uri.read input = .ok uri) (absolute : uri.scheme = some scheme) :
    ∃ written after, input = written ++ schemeEnd ++ uri.authority ++ after ∧
      (∀ b ∈ written, isSchemeOctet b = true) ∧
      (written.map lowercaseOctet = ascii "http" → scheme = ascii "http") ∧ uri.authority ≠ [] ∧
      (∀ b ∈ uri.authority, isAuthorityOctet b = true ∨ b = 0x25) ∧
      ∀ b ∈ after.head?, endsAuthority b = true := by
  cases written_of_read read with
  | rooted => cases absolute
  | asterisk => cases absolute
  | authority => cases absolute
  | @absolute _ _ _ after _ _ first second some _ =>
    obtain rfl := Option.some.inj absolute
    obtain ⟨written, input, scheme, named⟩ := of_takeScheme first
    obtain ⟨rfl, legal, ends⟩ := of_takeAuthority second
    exact ⟨written, after, by rw [input, ← List.append_assoc], scheme, named, some, legal, ends⟩

/-! ## The octets of a path -/

/-- What ends an authority is an ASCII octet. -/
theorem ascii_of_endsAuthority {b : UInt8} (ends : endsAuthority b = true) : b.toNat < 0x80 := by
  have all : ∀ b : UInt8, endsAuthority b = true → b.toNat < 0x80 :=
    forall_octet (by decide +kernel)
  exact all b ends

/-- A path that is taken is what stands before an ASCII octet or the end. -/
theorem of_readPathAndQuery {input path : List UInt8} {query : Option (List UInt8)}
    (taken : readPathAndQuery input = .ok (path, query)) :
    ∃ after, input = path ++ after ∧ ∀ b ∈ after.head?, b.toNat < 0x80 := by
  let inPath : UInt8 → Bool := fun b => b != 0x3F && b != 0x23
  have same : path = input.takeWhile inPath := by
    unfold readPathAndQuery at taken
    dsimp only at taken
    split at taken
    · cases taken
    split at taken
    · split at taken
      · split at taken
        · exact (Prod.mk.inj (Except.ok.inj taken)).1.symm
        · cases taken
      · exact (Prod.mk.inj (Except.ok.inj taken)).1.symm
    · exact (Prod.mk.inj (Except.ok.inj taken)).1.symm
  refine ⟨input.dropWhile inPath, ?_, fun b first => ?_⟩
  · rw [same, List.takeWhile_append_dropWhile]
  · have stops := List.head?_dropWhile_not inPath input
    rw [first] at stops
    have mark : b = 0x3F ∨ b = 0x23 := by simpa [inPath, or_iff_not_imp_left] using stops
    rcases mark with rfl | rfl <;> decide

/-- The path of a target is a part of the octets that it was read from, cut at ASCII octets. -/
theorem rawPath_of_read {input : List UInt8} {uri : Uri} (read : Uri.read input = .ok uri) :
    ∃ before after, input = before ++ (uri.rawPath ++ after) ∧
      (∀ b ∈ (uri.rawPath ++ after).head?, b.toNat < 0x80) ∧
      ∀ b ∈ after.head?, b.toNat < 0x80 := by
  cases written_of_read read with
  | rooted slash rest =>
    obtain ⟨after, rfl, ends⟩ := of_readPathAndQuery rest
    refine ⟨[], after, rfl, ?_, ends⟩
    rw [slash]
    simp
  | asterisk star => exact ⟨[], [], by simp [star], by simp, by simp⟩
  | authority => exact ⟨input, [], by simp, by simp, by simp⟩
  | @absolute _ rest authority after path _ first second some third =>
    obtain ⟨written, rfl, -⟩ := of_takeScheme first
    obtain ⟨rfl, -, ends⟩ := of_takeAuthority second
    obtain ⟨fragment, rfl, cut⟩ := of_readPathAndQuery third
    exact ⟨written ++ schemeEnd ++ authority, fragment, (List.append_assoc ..).symm,
      fun b head => ascii_of_endsAuthority (ends b head), cut⟩

/-- The path of a target that is given as text has the octets of its text. -/
theorem encode_decodeLossy_path {target : String} {uri : Uri} (read : ofText target = .ok uri) :
    Text.Utf8.encode (Text.Utf8.decodeLossy uri.path) = uri.path := by
  have again (l : List Char) : Text.Utf8.encode (Text.Utf8.decodeLossy (Text.Utf8.encodeChars l)) =
      Text.Utf8.encodeChars l := by
    have octets : Text.Utf8.encode (String.ofList l) = Text.Utf8.encodeChars l := by
      rw [Text.Utf8.encode, String.toList_ofList]
    rw [← octets, Text.Utf8.decodeLossy_encode]
  obtain ⟨before, after, whole, start, ends⟩ := rawPath_of_read read
  obtain ⟨-, last, -, -, rest⟩ := Text.Utf8.exists_encodeChars_of_append whole start
  obtain ⟨path, -, -, octets, -⟩ := Text.Utf8.exists_encodeChars_of_append rest.symm ends
  unfold Uri.path
  split
  · exact again ['/']
  · rw [octets]
    exact again path

/-! ## Targets that can be read -/

/-- The longest part in front of a list whose members all have a property ends where a member comes
that does not have it. -/
theorem takeWhile_append_of_head {α : Type} {p : α → Bool} {l m : List α}
    (all : ∀ a ∈ l, p a = true) (head : ∀ a ∈ m.head?, p a = false) :
    (l ++ m).takeWhile p = l := by
  rw [List.takeWhile_append_of_pos all]
  cases m with
  | nil => rw [List.takeWhile_nil, List.append_nil]
  | cons a rest =>
    have stops : p a = false := head a rfl
    rw [List.takeWhile_cons_of_neg (by simp [stops]), List.append_nil]

/-- A path, a query and a fragment of legal octets are read. -/
theorem readPathAndQuery_of_legal {path query fragment : List UInt8}
    (legal : ∀ b ∈ path, isPathOctet b = true)
    (asked : query = [] ∨ ∃ text, query = 0x3F :: text ∧ ∀ b ∈ text, isQueryOctet b = true)
    (dropped : fragment = [] ∨ ∃ text, fragment = 0x23 :: text) :
    ∃ parts, readPathAndQuery (path ++ (query ++ fragment)) = .ok parts := by
  have inPath : ∀ b ∈ path, (b != 0x3F && b != 0x23) = true := by
    have all : ∀ b, isPathOctet b = true → (b != 0x3F && b != 0x23) = true :=
      forall_octet (by decide +kernel)
    exact fun b mem => all b (legal b mem)
  have behind : ∀ b ∈ (query ++ fragment).head?, (b != 0x3F && b != 0x23) = false := by
    intro b first
    rcases asked with rfl | ⟨text, rfl, -⟩
    · rcases dropped with rfl | ⟨text, rfl⟩
      · cases first
      · obtain rfl := Option.some.inj first
        rfl
    · obtain rfl := Option.some.inj first
      rfl
  have front : (path ++ (query ++ fragment)).takeWhile (fun b => b != 0x3F && b != 0x23) = path :=
    takeWhile_append_of_head inPath behind
  unfold readPathAndQuery
  dsimp only
  rw [front, List.all_eq_true.2 legal, List.drop_left]
  rcases asked with rfl | ⟨text, rfl, fine⟩
  · rcases dropped with rfl | ⟨text, rfl⟩
    · exact ⟨_, rfl⟩
    · exact ⟨_, rfl⟩
  · have inQuery : ∀ b ∈ text, (b != 0x23) = true := by
      have all : ∀ b, isQueryOctet b = true → (b != 0x23) = true :=
        forall_octet (by decide +kernel)
      exact fun b mem => all b (fine b mem)
    have ends : ∀ b ∈ fragment.head?, (b != 0x23) = false := by
      intro b first
      rcases dropped with rfl | ⟨text, rfl⟩
      · cases first
      · obtain rfl := Option.some.inj first
        rfl
    have cut : (text ++ fragment).takeWhile (· != 0x23) = text :=
      takeWhile_append_of_head inQuery ends
    have readable : text.all isQueryOctet = true := List.all_eq_true.2 fine
    exact ⟨(path, some text), by simp [cut, readable]⟩

/-- The scheme `http` in any letter case has octets of a scheme. -/
theorem isSchemeOctet_of_named {scheme : List UInt8}
    (named : scheme.map lowercaseOctet = ascii "http") : ∀ b ∈ scheme, isSchemeOctet b = true := by
  have all : ∀ b, lowercaseOctet b ∈ ascii "http" → isSchemeOctet b = true :=
    forall_octet (by decide +kernel)
  exact fun b mem => all b (named ▸ List.mem_map_of_mem mem)

/-- The scheme `http` in any letter case is taken off the front. -/
theorem takeScheme_of_named {scheme : List UInt8}
    (named : scheme.map lowercaseOctet = ascii "http") (rest : List UInt8) :
    takeScheme (scheme ++ schemeEnd ++ rest) = .ok (some (ascii "http"), rest) := by
  have legal := isSchemeOctet_of_named named
  have colon : ∀ b ∈ (schemeEnd ++ rest).head?, isSchemeOctet b = false := by
    intro b first
    obtain rfl := Option.some.inj first
    decide +kernel
  have more : scheme ++ (schemeEnd ++ rest) ≠ schemeEnd := by
    intro same
    have lengths := congrArg List.length same
    have four : scheme.length = 4 := by
      rw [← List.length_map lowercaseOctet, named]
      rfl
    rw [List.length_append, List.length_append] at lengths
    omega
  unfold takeScheme
  dsimp only
  rw [List.append_assoc, takeWhile_append_of_head legal colon, List.drop_left]
  rw [if_pos ⟨rfl, more⟩, if_pos (.inl named), named]
  rfl

/-- An authority that may be seen to its end is taken off the front. -/
theorem takeAuthority_of_seen {authority rest : List UInt8} {scan : AuthorityScan}
    (seen : authority.foldlM AuthorityScan.step .start = .ok scan)
    (complete : scan.isComplete = true) (ends : ∀ b ∈ rest.head?, endsAuthority b = true) :
    takeAuthority (authority ++ rest) = .ok (authority, rest) := by
  have inside : ∀ b ∈ authority, (!endsAuthority b) = true := fun b mem => by
    rw [(of_isAuthorityOctet (AuthorityScan.legal_of_foldlM_step seen b mem)).2]
    rfl
  have behind : ∀ b ∈ rest.head?, (!endsAuthority b) = false := fun b first => by
    rw [ends b first]
    rfl
  unfold takeAuthority
  dsimp only
  rw [takeWhile_append_of_head inside behind, seen]
  change (if scan.isComplete = true then _ else _) = _
  rw [if_pos complete, List.drop_left]

/-- Octets that are written as the scheme `http`, a colon and two slashes, an authority, and a path
and a query that can be read, are read as an absolute target. -/
theorem read_of_parts {scheme authority rest : List UInt8} {scan : AuthorityScan}
    {parts : List UInt8 × Option (List UInt8)}
    (named : scheme.map lowercaseOctet = ascii "http") (filled : authority ≠ [])
    (seen : authority.foldlM AuthorityScan.step .start = .ok scan)
    (complete : scan.isComplete = true) (ends : ∀ b ∈ rest.head?, endsAuthority b = true)
    (later : readPathAndQuery rest = .ok parts)
    (short : (scheme ++ schemeEnd ++ (authority ++ rest)).length ≤ lengthLimit) :
    Uri.read (scheme ++ schemeEnd ++ (authority ++ rest)) =
      .ok ⟨some (ascii "http"), authority, parts.1, parts.2⟩ := by
  have taken := takeScheme_of_named named (authority ++ rest)
  obtain ⟨first, others, cut⟩ : ∃ first others, scheme = first :: others := by
    cases scheme with
    | nil => exact absurd named (by decide +kernel)
    | cons first others => exact ⟨first, others, rfl⟩
  have noSlash : first ≠ 0x2F := by
    rintro rfl
    rw [cut] at named
    exact absurd (List.cons.inj named).1 (by decide +kernel)
  have long : scheme ++ schemeEnd ++ (authority ++ rest) ≠ [0x2A] := by
    intro same
    have lengths := congrArg List.length same
    have three : schemeEnd.length = 3 := rfl
    rw [List.length_append, List.length_append, List.length_singleton] at lengths
    omega
  unfold Uri.read
  rw [if_neg (by omega)]
  subst cut
  change (if first = 0x2F then _ else _) = _
  rw [if_neg noSlash, if_neg long, taken]
  change (takeAuthority (authority ++ rest) >>= _) = _
  rw [takeAuthority_of_seen seen complete ends]
  change (if (authority ++ rest).isEmpty = true then _ else
    if authority.isEmpty = true then _ else _) = _
  rw [if_neg (by simp [filled]), if_neg (by simp [filled]), later]
  rfl

end HttpGateway.Uri

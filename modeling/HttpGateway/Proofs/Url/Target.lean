import Mathlib.Data.List.Count
import HttpGateway.Proofs.Message.Uri
import HttpGateway.Proofs.Url.Host

/-!
# URLs as request targets

One text may be read as a URL and as a request target. Where its octets are a scheme, a colon and
two slashes, and an authority of legal octets, both readings agree on the scheme and on what stands
behind the last at sign of the authority (`Url.of_isHttp_of_parts`). So a text that is a URL with
the scheme `http` has that scheme and a host as an absolute target (`Uri.http_of_isHttp`), and is
read as one if it is spelled with legal octets alone (`Uri.read_of_spelling`).
-/

namespace HttpGateway

namespace Uri

/-- The characters of octets of ASCII. -/
def chars (octets : List UInt8) : List Char := octets.map fun b => Char.ofNat b.toNat

/-- What stands behind the last at sign of an authority: the host, and the port if there is one. -/
def place (authority : List UInt8) : List UInt8 :=
  (authority.reverse.takeWhile (· != 0x40)).reverse

/-- The host of a target: up to its closing bracket if it has an opening one in front, and else up
to the first colon. -/
def host (uri : Uri) : List UInt8 :=
  if (place uri.authority).head? = some 0x5B then
    (place uri.authority).takeWhile (· != 0x5D) ++ [0x5D]
  else (place uri.authority).takeWhile (· != 0x3A)

/-- A character of ASCII is that of its octet. -/
theorem ofNat_octet {c : Char} (ascii : c.toNat < 0x80) :
    Char.ofNat (Text.Utf8.octet c.toNat).toNat = c := by
  rw [Text.Utf8.octet_toNat (by omega), Char.ofNat_toNat]

/-- Characters whose octets begin with some of ASCII begin with their characters. -/
theorem exists_chars_append {l : List Char} {front back : List UInt8}
    (ascii : ∀ b ∈ front, b.toNat < 0x80) (whole : Text.Utf8.encodeChars l = front ++ back) :
    ∃ rest, l = chars front ++ rest ∧ Text.Utf8.encodeChars rest = back := by
  induction front generalizing l with
  | nil => exact ⟨l, rfl, whole⟩
  | cons b front ih =>
    obtain ⟨first, others⟩ := List.forall_mem_cons.1 ascii
    cases l with
    | nil => cases whole
    | cons c rest =>
      rw [Text.Utf8.encodeChars_cons] at whole
      have small : c.toNat < 0x80 := by
        by_contra beyond
        obtain ⟨head, tail, cut⟩ := List.exists_cons_of_ne_nil (Text.Utf8.encodeChar_ne_nil c)
        rw [cut] at whole
        obtain ⟨rfl, -⟩ := List.cons.inj whole
        have great := Text.Utf8.le_of_mem_encodeChar (Nat.not_lt.1 beyond)
          (cut ▸ List.mem_cons_self)
        omega
      rw [Text.Utf8.encodeChar_ascii small] at whole
      obtain ⟨rfl, later⟩ := List.cons.inj whole
      obtain ⟨tail, rfl, back⟩ := ih others later
      refine ⟨tail, ?_, back⟩
      change _ = Char.ofNat (Text.Utf8.octet c.toNat).toNat :: (chars front ++ tail)
      rw [ofNat_octet small]

end Uri

namespace Url

/-- A visible character counts wherever it stands. -/
theorem counts_of_visible {c : Char} (visible : 0x20 < c.toNat) :
    isControlOrSpace c = false ∧ (!isTabOrLineEnd c) = true := by
  refine ⟨decide_eq_false (by omega), ?_⟩
  have tab : c ≠ '\t' := by rintro rfl; exact absurd visible (by decide)
  have feed : c ≠ '\n' := by rintro rfl; exact absurd visible (by decide)
  have carriage : c ≠ '\r' := by rintro rfl; exact absurd visible (by decide)
  simp [isTabOrLineEnd, tab, feed, carriage]

/-- What ends an authority is visible. -/
theorem visible_of_endsAuthority {c : Char} (ends : endsAuthority c = true) : 0x20 < c.toNat := by
  simp only [endsAuthority, isSlash, Bool.or_eq_true, beq_iff_eq] at ends
  rcases ends with ((rfl | rfl) | rfl) | rfl <;> decide

/-- Visible characters in front of what ends an authority all count. -/
theorem significant_append {front rest : List Char} (visible : ∀ c ∈ front, 0x20 < c.toNat)
    (ends : ∀ c ∈ rest.head?, endsAuthority c = true) :
    ∃ more, significant (front ++ rest) = front ++ more ∧
      ∀ c ∈ more.head?, endsAuthority c = true := by
  have kept : ∀ part : List Char, (∀ c ∈ part, 0x20 < c.toNat) →
      part.filter (!isTabOrLineEnd ·) = part := fun part visible =>
    List.filter_eq_self.2 fun c mem => (counts_of_visible (visible c mem)).2
  unfold significant
  cases rest with
  | nil =>
    rw [List.append_nil, Text.strip_of_forall fun c mem => (counts_of_visible (visible c mem)).1,
      kept front visible]
    exact ⟨[], (List.append_nil _).symm, by simp⟩
  | cons c tail =>
    have last : endsAuthority c = true := ends c rfl
    have all : ∀ d ∈ front ++ [c], 0x20 < d.toNat := by
      intro d mem
      rcases List.mem_append.1 mem with mem | mem
      · exact visible d mem
      · exact List.mem_singleton.1 mem ▸ visible_of_endsAuthority last
    have stay : ∀ d ∈ front ++ [c], isControlOrSpace d = false := fun d mem =>
      (counts_of_visible (all d mem)).1
    have cut : Text.strip isControlOrSpace (front ++ c :: tail) =
        front ++ [c] ++ Text.dropTailWhile isControlOrSpace tail := by
      rw [← List.singleton_append, ← List.append_assoc, ← List.nil_append (front ++ [c])]
      exact Text.strip_append_append (by simp) (fun d mem => stay d (List.mem_of_mem_head? mem))
        (fun d mem => stay d (List.mem_of_mem_getLast? mem)) [] tail
    rw [cut, List.filter_append, kept _ all, List.append_assoc]
    exact ⟨_, rfl, by simpa using last⟩

/-- Of characters that begin with a scheme, a colon and two slashes, the scheme is `http` if they
are those of a URL with that scheme. -/
theorem scheme_of_afterScheme? {scheme : List UInt8} {rest after : List Char}
    (legal : ∀ b ∈ scheme, Uri.isSchemeOctet b = true)
    (cut : afterScheme? (Uri.chars scheme ++ (':' :: '/' :: '/' :: rest)) = some after) :
    scheme.map Uri.lowercaseOctet = Uri.ascii "http" ∧ after = '/' :: '/' :: rest := by
  unfold afterScheme? at cut
  split at cut
  · next http =>
    have lower : ∀ b, Uri.isSchemeOctet b = true → (Char.ofNat b.toNat).toLower ≠ ':' ∧
        Uri.lowercaseOctet b = Text.Utf8.octet (Char.ofNat b.toNat).toLower.toNat :=
      Uri.forall_octet (by decide +kernel)
    have letters : "http:".toList = ['h', 't', 't', 'p', ':'] := by decide
    rw [letters] at http
    -- The first colon is the fifth character, so the scheme has four octets.
    rcases scheme with _ | ⟨h, _ | ⟨t, _ | ⟨u, _ | ⟨p, _ | ⟨e, more⟩⟩⟩⟩⟩
    · simp [Uri.chars] at http
    · simp [Uri.chars] at http
    · simp [Uri.chars] at http
    · simp [Uri.chars] at http
    · simp only [Uri.chars, List.map_cons, List.map_nil, List.cons_append, List.nil_append,
        List.take_succ_cons, List.take_zero, List.drop_succ_cons, List.drop_zero,
        List.cons.injEq] at http cut
      obtain ⟨first, second, third, fourth, -⟩ := http
      have one := (lower h (legal h (by simp))).2
      have two := (lower t (legal t (by simp))).2
      have three := (lower u (legal u (by simp))).2
      have four := (lower p (legal p (by simp))).2
      rw [first] at one
      rw [second] at two
      rw [third] at three
      rw [fourth] at four
      refine ⟨?_, (Option.some.inj cut).symm⟩
      rw [List.map_cons, List.map_cons, List.map_cons, List.map_cons, one, two, three, four]
      decide +kernel
    · simp only [Uri.chars, List.map_cons, List.cons_append, List.take_succ_cons, List.take_zero,
        List.cons.injEq, List.map_nil] at http
      exact absurd http.2.2.2.2.1 (lower e (legal e (by simp))).1
  · cases cut

/-- Octets of a scheme and of an authority are visible characters of ASCII. -/
theorem ascii_visible {b : UInt8} (legal : (Uri.isSchemeOctet b = true ∨ b ∈ Uri.schemeEnd) ∨
    Uri.isAuthorityOctet b = true ∨ b = 0x25) :
    b.toNat < 0x80 ∧ 0x20 < (Char.ofNat b.toNat).toNat := by
  have all : ∀ b : UInt8, ((Uri.isSchemeOctet b = true ∨ b ∈ Uri.schemeEnd) ∨
      Uri.isAuthorityOctet b = true ∨ b = 0x25) →
      b.toNat < 0x80 ∧ 0x20 < (Char.ofNat b.toNat).toNat := Uri.forall_octet (by decide +kernel)
  exact all b legal

/-- What ends an authority as an octet ends it as a character. -/
theorem ends_of_endsAuthority {b : UInt8} (ends : Uri.endsAuthority b = true) :
    b.toNat < 0x80 ∧ endsAuthority (Char.ofNat b.toNat) = true := by
  have all : ∀ b : UInt8, Uri.endsAuthority b = true →
      b.toNat < 0x80 ∧ endsAuthority (Char.ofNat b.toNat) = true :=
    Uri.forall_octet (by decide +kernel)
  exact all b ends

/-- The host and the port stand behind the last at sign of an authority of legal octets. -/
theorem hostAndPort_of_authority {authority : List UInt8} {more : List Char}
    (filled : authority ≠ []) (legal : ∀ b ∈ authority, Uri.isAuthorityOctet b = true ∨ b = 0x25)
    (stops : ∀ c ∈ more.head?, endsAuthority c = true) :
    hostAndPort ('/' :: '/' :: (Uri.chars authority ++ more)) =
      Uri.chars (Uri.place authority) := by
  have inside : ∀ b : UInt8, Uri.isAuthorityOctet b = true ∨ b = 0x25 →
      endsAuthority (Char.ofNat b.toNat) = false := Uri.forall_octet (by decide +kernel)
  have atSign : ∀ b : UInt8, (Char.ofNat b.toNat != '@') = (b != 0x40) :=
    Uri.forall_octet (by decide +kernel)
  have passed : ∀ c ∈ Uri.chars authority, (!endsAuthority c) = true := by
    intro c mem
    obtain ⟨b, there, rfl⟩ := List.mem_map.1 mem
    rw [inside b (legal b there)]
    rfl
  have slashes : ('/' :: '/' :: (Uri.chars authority ++ more)).dropWhile isSlash =
      Uri.chars authority ++ more := by
    obtain ⟨b, rest, rfl⟩ := List.exists_cons_of_ne_nil filled
    have noSlash : isSlash (Char.ofNat b.toNat) = false := by
      have goes := inside b (legal b List.mem_cons_self)
      simp only [endsAuthority, Bool.or_eq_false_iff] at goes
      exact goes.1.1
    change (Char.ofNat b.toNat :: (Uri.chars rest ++ more)).dropWhile isSlash = _
    rw [List.dropWhile_cons_of_neg (by simp [noSlash])]
    rfl
  have cut : (Uri.chars authority ++ more).takeWhile (!endsAuthority ·) = Uri.chars authority :=
    Uri.takeWhile_append_of_head passed fun c first => by rw [stops c first]; rfl
  unfold hostAndPort Uri.place
  dsimp only
  rw [slashes, cut, Uri.chars, Uri.chars, ← List.map_reverse, List.takeWhile_map,
    ← List.map_reverse]
  have same : (fun c => c != '@') ∘ (fun b : UInt8 => Char.ofNat b.toNat) = (· != 0x40) :=
    funext atSign
  rw [same]

/-- Where the octets of a URL with the scheme `http` are a scheme, a colon and two slashes, and an
authority of legal octets, that scheme is `http`, and what stands behind the last at sign is a host
and maybe a port. -/
theorem of_isHttp_of_parts {url : String} {scheme authority after : List UInt8}
    (sound : isHttp url = true)
    (written : Text.Utf8.encode url = scheme ++ Uri.schemeEnd ++ authority ++ after)
    (legalScheme : ∀ b ∈ scheme, Uri.isSchemeOctet b = true) (filled : authority ≠ [])
    (legal : ∀ b ∈ authority, Uri.isAuthorityOctet b = true ∨ b = 0x25)
    (ends : ∀ b ∈ after.head?, Uri.endsAuthority b = true) :
    scheme.map Uri.lowercaseOctet = Uri.ascii "http" ∧
      isHost (splitHost false (Uri.chars (Uri.place authority))).1 = true ∧
      isPort (splitHost false (Uri.chars (Uri.place authority))).2 = true := by
  have front : ∀ b ∈ scheme ++ Uri.schemeEnd ++ authority, b.toNat < 0x80 ∧
      0x20 < (Char.ofNat b.toNat).toNat := by
    intro b mem
    simp only [List.mem_append] at mem
    exact ascii_visible (mem.imp_left (Or.imp_left (legalScheme b)) |>.imp_right (legal b))
  obtain ⟨tail, chars, octets⟩ := Uri.exists_chars_append (fun b mem => (front b mem).1) written
  have behind : ∀ c ∈ tail.head?, endsAuthority c = true := by
    cases after with
    | nil =>
      cases tail with
      | nil => simp
      | cons c rest =>
        rw [Text.Utf8.encodeChars_cons] at octets
        exact absurd (List.append_eq_nil_iff.1 octets).1 (Text.Utf8.encodeChar_ne_nil c)
    | cons b rest =>
      obtain ⟨small, same⟩ := ends_of_endsAuthority (ends b rfl)
      have first : ∀ d ∈ [b], d.toNat < 0x80 := by simpa using small
      obtain ⟨others, rfl, -⟩ := Uri.exists_chars_append first octets
      simpa [Uri.chars] using same
  have visible : ∀ c ∈ Uri.chars (scheme ++ Uri.schemeEnd ++ authority), 0x20 < c.toNat := by
    intro c mem
    obtain ⟨b, there, rfl⟩ := List.mem_map.1 mem
    exact (front b there).2
  obtain ⟨more, counted, stops⟩ := significant_append visible behind
  unfold isHttp at sound
  rw [chars, counted] at sound
  split at sound
  · cases sound
  · next after cut =>
    have spelled : Uri.chars (scheme ++ Uri.schemeEnd ++ authority) ++ more =
        Uri.chars scheme ++ (':' :: '/' :: '/' :: (Uri.chars authority ++ more)) := by
      simp only [Uri.chars, List.map_append, List.append_assoc]
      rfl
    rw [spelled] at cut
    obtain ⟨named, rfl⟩ := scheme_of_afterScheme? legalScheme cut
    have own : hostAndPort ('/' :: '/' :: (Uri.chars authority ++ more)) =
        Uri.chars (Uri.place authority) :=
      hostAndPort_of_authority filled legal stops
    rw [own] at sound
    exact ⟨named, Bool.and_eq_true_iff.1 sound⟩

end Url

namespace Uri

/-- A URL with the scheme `http` that is read as an absolute target has that scheme and a host. -/
theorem http_of_isHttp {url : String} {uri : Uri} {scheme : List UInt8}
    (sound : Url.isHttp url = true) (read : ofText url = .ok uri)
    (absolute : uri.scheme = some scheme) : scheme = ascii "http" ∧ uri.host ≠ [] := by
  obtain ⟨written, after, parts, legalScheme, same, filled, legal, ends⟩ :=
    parts_of_read read absolute
  obtain ⟨named, hosted, -⟩ :=
    Url.of_isHttp_of_parts sound parts legalScheme filled legal ends
  refine ⟨same named, ?_⟩
  unfold host
  split
  · simp
  · intro none
    -- A host is not empty, so what stands behind the last at sign does not begin with a colon.
    have noHost : (Url.splitHost false (chars (place uri.authority))).1 = [] := by
      cases behind : place uri.authority with
      | nil => rfl
      | cons b rest =>
        rw [behind] at none
        have colon : b = 0x3A := by
          by_contra other
          rw [List.takeWhile_cons_of_pos (by simpa using other)] at none
          cases none
        rw [colon]
        rfl
    rw [noHost] at hosted
    exact absurd hosted (by decide +kernel)

/-- Octets spelled as an absolute target with the scheme `http`: the scheme in any letter case, a
colon and two slashes, maybe user information with an at sign, a host and maybe a port, a path,
maybe a query and maybe a fragment, each of octets that may stand there. -/
structure Spelling (octets : List UInt8) where
  /-- The scheme. -/
  scheme : List UInt8
  /-- The user information with its at sign, or nothing. -/
  user : List UInt8
  /-- The host, and the port if there is one. -/
  place : List UInt8
  /-- The path, or nothing. -/
  path : List UInt8
  /-- The query with its question mark, or nothing. -/
  query : List UInt8
  /-- The fragment with its number sign, or nothing. -/
  fragment : List UInt8
  /-- The octets are these parts. -/
  written : octets =
    scheme ++ schemeEnd ++ ((user ++ place) ++ (path ++ (query ++ fragment)))
  /-- The scheme is `http` in any letter case. -/
  named : scheme.map lowercaseOctet = ascii "http"
  /-- User information has no brackets and at most eight colons. -/
  userLegal : user = [] ∨ ∃ info, user = info ++ [0x40] ∧ info.count 0x3A ≤ 8 ∧
    ∀ b ∈ info, (isAuthorityOctet b = true ∨ b = 0x25) ∧ b ≠ 0x5B ∧ b ≠ 0x5D ∧ b ≠ 0x40
  /-- There is a host. -/
  placeFilled : place ≠ []
  /-- The host and the port have no percent sign and no at sign. -/
  placeLegal : ∀ b ∈ place, isAuthorityOctet b = true ∧ b ≠ 0x40
  /-- A path begins with a slash. -/
  pathRooted : path = [] ∨ ∃ rest, path = 0x2F :: rest
  /-- The octets of the path are legal. -/
  pathLegal : ∀ b ∈ path, isPathOctet b = true
  /-- The octets of the query are legal. -/
  queryLegal : query = [] ∨ ∃ text, query = 0x3F :: text ∧ ∀ b ∈ text, isQueryOctet b = true
  /-- A fragment may have any octets. -/
  fragmentLegal : fragment = [] ∨ ∃ text, fragment = 0x23 :: text
  /-- There are not too many octets. -/
  short : octets.length ≤ lengthLimit

/-- What stands behind the at sign of user information, or behind none, is the host and the port. -/
theorem place_append {user place : List UInt8} (noAt : ∀ b ∈ place, b ≠ 0x40)
    (ends : user = [] ∨ ∃ info, user = info ++ [0x40]) : Uri.place (user ++ place) = place := by
  have behind : ∀ b ∈ place.reverse, (b != 0x40) = true := fun b mem =>
    bne_iff_ne.2 (noAt b (List.mem_reverse.1 mem))
  have atSign : ∀ b ∈ user.reverse.head?, (b != 0x40) = false := by
    rcases ends with rfl | ⟨info, rfl⟩ <;> simp
  unfold Uri.place
  rw [List.reverse_append, takeWhile_append_of_head behind atSign, List.reverse_reverse]

/-- The character of an octet has its number. -/
theorem toNat_char (b : UInt8) : (Char.ofNat b.toNat).toNat = b.toNat := by
  have all : ∀ b : UInt8, (Char.ofNat b.toNat).toNat = b.toNat :=
    forall_octet (by decide +kernel)
  exact all b

/-- Octets with the same character are the same. -/
theorem char_injective : Function.Injective fun b : UInt8 => Char.ofNat b.toNat := by
  intro b c same
  have numbers := congrArg Char.toNat same
  dsimp only at numbers
  rw [toNat_char, toNat_char] at numbers
  exact UInt8.toNat_inj.1 numbers

/-- An octet is there when its character is. -/
theorem mem_of_mem_chars {octets : List UInt8} {b : UInt8} (mem : b ∈ octets) :
    Char.ofNat b.toNat ∈ chars octets := List.mem_map_of_mem mem

/-- An octet is as often there as its character. -/
theorem count_chars (octets : List UInt8) (b : UInt8) :
    (chars octets).count (Char.ofNat b.toNat) = octets.count b :=
  List.count_map_of_injective octets _ char_injective b

open AuthorityScan in
/-- Legal octets without brackets, at and percent signs, and with few colons, may be seen. -/
theorem foldlM_step_of_chars {scan : AuthorityScan} {part : List UInt8}
    (legal : ∀ b ∈ part, isAuthorityOctet b = true ∧ b ≠ 0x40)
    (few : scan.colons + (chars part).count ':' ≤ colonLimit) (noOpening : '[' ∉ chars part)
    (noClosing : ']' ∉ chars part) :
    part.foldlM step scan = .ok ⟨scan.colons + (chars part).count ':', scan.opened, scan.closed,
      scan.percent, part.isEmpty && scan.atSign⟩ := by
  have count : (chars part).count ':' = part.count 0x3A := count_chars part 0x3A
  have noPercent : 0x25 ∉ part := fun mem => absurd (legal _ mem).1 (by decide +kernel)
  rw [count] at few ⊢
  have plain : ∀ b ∈ part, (isAuthorityOctet b = true ∨ b = 0x25) ∧ b ≠ 0x5B ∧ b ≠ 0x5D ∧
      b ≠ 0x40 := by
    intro b mem
    refine ⟨.inl (legal b mem).1, ?_, ?_, (legal b mem).2⟩
    · rintro rfl
      exact noOpening (mem_of_mem_chars mem)
    · rintro rfl
      exact noClosing (mem_of_mem_chars mem)
  have absent : part.contains 0x25 = false := by simpa using noPercent
  rw [foldlM_step_of_plain plain few, absent, Bool.or_false]

open AuthorityScan in
/-- A host between brackets and a port may be seen to their end. -/
theorem exists_scan_of_bracketed {inside port : List UInt8} (before : Bool)
    (legal : ∀ b ∈ inside ++ port, isAuthorityOctet b = true ∧ b ≠ 0x40)
    (few : (chars inside).count ':' ≤ 8) (noOpening : '[' ∉ chars inside)
    (noClosing : ']' ∉ chars inside) (fewPort : (chars port).count ':' ≤ 1)
    (noOpeningPort : '[' ∉ chars port) (noClosingPort : ']' ∉ chars port) :
    ∃ scan, (0x5B :: inside ++ [0x5D] ++ port).foldlM step ⟨0, false, false, false, before⟩ =
      .ok scan ∧ scan.isComplete = true := by
  obtain ⟨legalInside, legalPort⟩ := List.forall_mem_append.1 legal
  have opened : step ⟨0, false, false, false, before⟩ 0x5B = .ok ⟨0, true, false, false, false⟩ :=
    rfl
  have hosted : inside.foldlM step ⟨0, true, false, false, false⟩ =
      .ok ⟨0 + (chars inside).count ':', true, false, false, inside.isEmpty && false⟩ :=
    foldlM_step_of_chars legalInside (by dsimp only [colonLimit]; omega) noOpening noClosing
  have closed : ∀ colons atSign, step ⟨colons, true, false, false, atSign⟩ 0x5D =
      .ok ⟨0, true, true, false, false⟩ := fun _ _ => rfl
  have ported : port.foldlM step ⟨0, true, true, false, false⟩ =
      .ok ⟨0 + (chars port).count ':', true, true, false, port.isEmpty && false⟩ :=
    foldlM_step_of_chars legalPort (by dsimp only [colonLimit]; omega) noOpeningPort noClosingPort
  refine ⟨⟨0 + (chars port).count ':', true, true, false, port.isEmpty && false⟩, ?_, ?_⟩
  · simp only [List.foldlM_append, List.foldlM_cons, List.foldlM_nil, opened, hosted, closed,
      ported, bind, Except.bind, pure, Except.pure]
  · simp [isComplete, fewPort]

open AuthorityScan in
/-- A host and a port of legal octets without at and percent signs may be seen to their end. -/
theorem exists_scan_of_place {place : List UInt8} (before : Bool)
    (legal : ∀ b ∈ place, isAuthorityOctet b = true ∧ b ≠ 0x40)
    (hosted : Url.isHost (Url.splitHost false (chars place)).1 = true)
    (ported : Url.isPort (Url.splitHost false (chars place)).2 = true) :
    ∃ scan, place.foldlM step ⟨0, false, false, false, before⟩ = .ok scan ∧
      scan.isComplete = true := by
  have ascii : ∀ c ∈ chars place, c.toNat < 0x80 := by
    intro c mem
    obtain ⟨b, there, rfl⟩ := List.mem_map.1 mem
    rw [toNat_char]
    exact (of_isAuthorityOctet (.inl (legal b there).1)).1
  have noPercent : '%' ∉ chars place := by
    intro mem
    obtain ⟨b, there, same⟩ := List.mem_map.1 mem
    obtain rfl : b = 0x25 := char_injective same
    exact absurd (legal _ there).1 (by decide +kernel)
  obtain ⟨fewPort, noOpeningPort, noClosingPort⟩ := Url.of_isPort ported
  have whole := Url.splitHost_append false (chars place)
  rcases Url.splitHost_cases hosted ascii noPercent with
    ⟨inner, bracketed, few, noOpening, noClosing⟩ | ⟨noOpening, noClosing, noColon⟩
  · rw [bracketed] at whole
    obtain ⟨front, port, rfl, opened, portChars⟩ := List.map_eq_append_iff.1 whole.symm
    obtain ⟨head, closing, rfl, headChars, closed⟩ := List.map_eq_append_iff.1 opened
    obtain ⟨open_, inside, rfl, first, innerChars⟩ := List.map_eq_cons_iff.1 headChars
    obtain ⟨close, rest, rfl, last, none⟩ := List.map_eq_cons_iff.1 closed
    obtain rfl := List.map_eq_nil_iff.1 none
    obtain rfl : open_ = 0x5B := char_injective first
    obtain rfl : close = 0x5D := char_injective last
    change chars inside = inner at innerChars
    change chars port = _ at portChars
    rw [← innerChars] at few noOpening noClosing
    rw [← portChars] at fewPort noOpeningPort noClosingPort
    refine exists_scan_of_bracketed before (fun b mem => legal b ?_) few noOpening noClosing fewPort
      noOpeningPort noClosingPort
    rcases List.mem_append.1 mem with mem | mem <;> simp [mem]
  · have filled : place ≠ [] := by
      rintro rfl
      exact absurd hosted (by decide +kernel)
    have single : (chars place).count ':' ≤ 1 := by
      rw [← whole, List.count_append, List.count_eq_zero_of_not_mem noColon]
      omega
    refine ⟨_, foldlM_step_of_chars legal (by dsimp only [colonLimit]; omega) ?_ ?_, ?_⟩
    · rw [← whole]
      simp [noOpening, noOpeningPort]
    · rw [← whole]
      simp [noClosing, noClosingPort]
    · simp [isComplete, single, filled]

open AuthorityScan in
/-- After user information, or without it, nothing has been seen but maybe its at sign. -/
theorem exists_scan_of_user {user : List UInt8}
    (legal : user = [] ∨ ∃ info, user = info ++ [0x40] ∧ info.count 0x3A ≤ 8 ∧
      ∀ b ∈ info, (isAuthorityOctet b = true ∨ b = 0x25) ∧ b ≠ 0x5B ∧ b ≠ 0x5D ∧ b ≠ 0x40) :
    ∃ before, user.foldlM step start = .ok ⟨0, false, false, false, before⟩ := by
  rcases legal with rfl | ⟨info, rfl, few, plain⟩
  · exact ⟨false, rfl⟩
  · have seen : info.foldlM step start = .ok ⟨0 + info.count 0x3A, false, false,
        false || info.contains 0x25, info.isEmpty && false⟩ :=
      foldlM_step_of_plain plain (by dsimp only [start, colonLimit]; omega)
    have atSign : ∀ colons percent last, step ⟨colons, false, false, percent, last⟩ 0x40 =
        .ok ⟨0, false, false, false, true⟩ := fun _ _ _ => rfl
    refine ⟨true, ?_⟩
    simp only [List.foldlM_append, List.foldlM_cons, List.foldlM_nil, seen, atSign, bind,
      Except.bind, pure, Except.pure]

/-- A URL with the scheme `http` that is spelled as an absolute target is read as one. -/
theorem read_of_spelling {url : String} (sound : Url.isHttp url = true)
    (spelling : Spelling (Text.Utf8.encode url)) :
    ∃ uri, ofText url = .ok uri ∧ uri.scheme = some (ascii "http") := by
  obtain ⟨scheme, user, place, path, query, fragment, written, named, userLegal, placeFilled,
    placeLegal, pathRooted, pathLegal, queryLegal, fragmentLegal, short⟩ := spelling
  have schemeLegal : ∀ b ∈ scheme, isSchemeOctet b = true := isSchemeOctet_of_named named
  have userEnds : user = [] ∨ ∃ info, user = info ++ [0x40] :=
    userLegal.imp_right fun ⟨info, whole, _⟩ => ⟨info, whole⟩
  have filled : user ++ place ≠ [] := fun none => placeFilled (List.append_eq_nil_iff.1 none).2
  have legal : ∀ b ∈ user ++ place, isAuthorityOctet b = true ∨ b = 0x25 := by
    intro b mem
    rcases List.mem_append.1 mem with mem | mem
    · rcases userLegal with rfl | ⟨info, rfl, -, plain⟩
      · cases mem
      · rcases List.mem_append.1 mem with mem | mem
        · exact (plain b mem).1
        · rw [List.mem_singleton.1 mem]
          exact .inl (by decide +kernel)
    · exact .inl (placeLegal b mem).1
  have ends : ∀ b ∈ (path ++ (query ++ fragment)).head?, endsAuthority b = true := by
    intro b first
    rcases pathRooted with rfl | ⟨_, rfl⟩
    · rcases queryLegal with rfl | ⟨_, rfl, -⟩
      · rcases fragmentLegal with rfl | ⟨_, rfl⟩
        · cases first
        · obtain rfl := Option.some.inj first
          decide +kernel
      · obtain rfl := Option.some.inj first
        decide +kernel
    · obtain rfl := Option.some.inj first
      decide +kernel
  obtain ⟨-, hosted, ported⟩ := Url.of_isHttp_of_parts sound
    (written.trans (List.append_assoc _ _ _).symm) schemeLegal filled legal ends
  rw [place_append (fun b mem => (placeLegal b mem).2) userEnds] at hosted ported
  obtain ⟨before, first⟩ := exists_scan_of_user userLegal
  obtain ⟨scan, second, complete⟩ := exists_scan_of_place before placeLegal hosted ported
  have seen : (user ++ place).foldlM AuthorityScan.step .start = .ok scan := by
    rw [List.foldlM_append, first]
    exact second
  obtain ⟨parts, later⟩ := readPathAndQuery_of_legal pathLegal queryLegal fragmentLegal
  rw [written] at short
  refine ⟨⟨some (ascii "http"), user ++ place, parts.1, parts.2⟩, ?_, rfl⟩
  rw [ofText, written]
  exact read_of_parts named filled seen complete ends later short

end Uri

end HttpGateway

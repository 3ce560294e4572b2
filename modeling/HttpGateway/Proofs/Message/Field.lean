import HttpGateway.Message.Field
import HttpGateway.Proofs.Text.Coding

/-!
# Field values as text

A field value may hold any octets but control characters, and is readable as text only when all of
them are ASCII. So the octets of a text are read back exactly when the text is ASCII
(`FieldValue.text?_eq_ite`).
-/

namespace HttpGateway.FieldValue

/-- A legal octet is readable exactly when it is an ASCII octet. -/
theorem isReadable_iff {b : UInt8} (legal : isLegalOctet b = true) :
    isReadable b = true ↔ b.toNat < 0x80 := by
  have tab : (b == 0x09) = true → b.toNat = 0x09 := fun same => by rw [eq_of_beq same]; rfl
  simp only [isLegalOctet, isReadable, Bool.or_eq_true, Bool.and_eq_true, decide_eq_true_eq,
    bne_iff_ne, ne_eq] at legal ⊢
  constructor
  · rintro (⟨-, below⟩ | same)
    · omega
    · have := tab same
      omega
  · intro ascii
    rcases legal with ⟨visible, other⟩ | same
    · exact .inl ⟨visible, by omega⟩
    · exact .inr same

/-- A value with the octets of a text is readable exactly when the text is ASCII, and then as that
text. -/
theorem text?_eq_ite {value : FieldValue} {s : String}
    (octets : value.octets = Text.Utf8.encode s) :
    value.text? = if Text.IsAscii s then some s else none := by
  have readable : value.octets.all isReadable = true ↔ Text.IsAscii s := by
    have legal := List.all_eq_true.1 value.legal
    rw [List.all_eq_true, Text.IsAscii, ← Text.Utf8.forall_mem_encodeChars_iff]
    change _ ↔ ∀ b ∈ Text.Utf8.encode s, _
    rw [← octets]
    exact forall₂_congr fun b mem => isReadable_iff (legal b mem)
  unfold text?
  by_cases ascii : Text.IsAscii s
  · rw [if_pos (readable.2 ascii), if_pos ascii, octets]
    change some (String.ofList ((Text.Utf8.encodeChars s.toList).map _)) = _
    rw [Text.Utf8.map_encodeChars ascii, String.ofList_toList]
  · rw [if_neg (mt readable.1 ascii), if_neg ascii]

end HttpGateway.FieldValue

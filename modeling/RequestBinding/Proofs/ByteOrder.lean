import Mathlib.Data.List.Lex
import Mathlib.Data.String.Basic

/-!
# Texts in the order of their bytes

Texts are compared character by character, file systems compare names byte by byte. In UTF-8 both
are the same order: of two characters the one with the smaller code point has the smaller first
byte, or the same first byte and then smaller ones.

## Main statements

* `bytes_lt_bytes_iff` — texts are ordered as their bytes are.
-/

namespace RequestBinding.Text

/-- The bytes that a text is stored as. -/
def bytes (text : String) : List UInt8 := text.toByteArray.data.toList

theorem bytes_eq (text : String) : bytes text = text.toList.flatMap String.utf8EncodeChar := by
  rw [bytes, ← String.utf8Encode_toList, List.utf8Encode, List.data_toByteArray]

/-! ## The bytes of a character -/

/-- The first byte of the character with a code point. -/
def leadByte (n : Nat) : Nat :=
  if n ≤ 127 then n
  else if n ≤ 2047 then n / 64 % 32 + 192
  else if n ≤ 65535 then n / 4096 % 16 + 224
  else n / 262144 % 8 + 240

/-- The bytes after the first. -/
def laterBytes (n : Nat) : List UInt8 :=
  if n ≤ 127 then []
  else if n ≤ 2047 then [UInt8.ofNat (n % 64 + 128)]
  else if n ≤ 65535 then [UInt8.ofNat (n / 64 % 64 + 128), UInt8.ofNat (n % 64 + 128)]
  else
    [UInt8.ofNat (n / 4096 % 64 + 128), UInt8.ofNat (n / 64 % 64 + 128),
      UInt8.ofNat (n % 64 + 128)]

theorem utf8EncodeChar_eq (c : Char) :
    String.utf8EncodeChar c = UInt8.ofNat (leadByte c.toNat) :: laterBytes c.toNat := by
  show String.utf8EncodeChar c = UInt8.ofNat (leadByte c.val.toNat) :: laterBytes c.val.toNat
  simp only [String.utf8EncodeChar, leadByte, laterBytes]
  split_ifs <;> rfl

theorem leadByte_mono {m n : Nat} (hmn : m ≤ n) (hn : n < 0x110000) :
    leadByte m ≤ leadByte n ∧ leadByte n < 256 := by
  unfold leadByte
  split_ifs <;> omega

theorem cons_lt_cons {m n : Nat} (hmn : m ≤ n) (hn : n < 256) {cs ds : List UInt8}
    (hmore : m = n → cs < ds) : UInt8.ofNat m :: cs < UInt8.ofNat n :: ds := by
  have hsize : UInt8.size = 256 := rfl
  rcases Nat.lt_or_eq_of_le hmn with hlt | rfl
  · refine List.cons_lt_cons_iff.mpr (.inl (UInt8.lt_iff_toNat_lt.mpr ?_))
    rwa [UInt8.toNat_ofNat_of_lt' (by omega), UInt8.toNat_ofNat_of_lt' (by omega)]
  · exact List.cons_lt_cons_iff.mpr (.inr ⟨rfl, hmore rfl⟩)

/-- Characters with the same first byte have equally many bytes, which are ordered as they are. -/
theorem laterBytes_append_lt {m n : Nat} (hmn : m < n) (hlead : leadByte m = leadByte n)
    (hn : n < 0x110000) (cs ds : List UInt8) : laterBytes m ++ cs < laterBytes n ++ ds := by
  unfold leadByte at hlead
  unfold laterBytes
  -- Characters with different numbers of bytes have different first bytes.
  split_ifs at hlead ⊢ <;> try omega
  · exact cons_lt_cons (by omega) (by omega) (by omega)
  · exact cons_lt_cons (by omega) (by omega) fun h₁ => cons_lt_cons (by omega) (by omega) (by omega)
  · exact cons_lt_cons (by omega) (by omega) fun h₁ =>
      cons_lt_cons (by omega) (by omega) fun h₂ => cons_lt_cons (by omega) (by omega) (by omega)

theorem utf8EncodeChar_append_lt {c d : Char} (h : c < d) (cs ds : List UInt8) :
    String.utf8EncodeChar c ++ cs < String.utf8EncodeChar d ++ ds := by
  have hcd : c.toNat < d.toNat := h
  have hd : d.toNat < 0x110000 := by
    rcases d.valid with h | ⟨-, h⟩
    · exact Nat.lt_trans h (by decide)
    · exact h
  obtain ⟨hle, hbyte⟩ := leadByte_mono hcd.le hd
  rw [utf8EncodeChar_eq, utf8EncodeChar_eq]
  exact cons_lt_cons hle hbyte fun hlead => laterBytes_append_lt hcd hlead hd cs ds

/-! ## The bytes of a text -/

theorem flatMap_utf8EncodeChar_lt {cs ds : List Char} (h : cs < ds) :
    cs.flatMap String.utf8EncodeChar < ds.flatMap String.utf8EncodeChar := by
  induction h with
  | nil =>
    next d ds =>
    rw [List.flatMap_nil, List.flatMap_cons, utf8EncodeChar_eq]
    exact List.nil_lt_cons _ _
  | rel hcd => exact utf8EncodeChar_append_lt hcd _ _
  | cons _ ih =>
    rw [List.flatMap_cons, List.flatMap_cons]
    exact List.append_left_lt ih

/-- **Texts are ordered as their bytes are.** -/
theorem bytes_lt_bytes_iff {s t : String} : bytes s < bytes t ↔ s < t := by
  have hmono {s t : String} (h : s < t) : bytes s < bytes t := by
    rw [bytes_eq, bytes_eq]
    exact flatMap_utf8EncodeChar_lt (String.lt_iff_toList_lt.mp h)
  refine ⟨fun h => ?_, hmono⟩
  rcases lt_trichotomy s t with hst | rfl | hts
  · exact hst
  · exact absurd h (List.lt_irrefl _)
  · exact absurd h (List.lt_asymm (hmono hts))

end RequestBinding.Text

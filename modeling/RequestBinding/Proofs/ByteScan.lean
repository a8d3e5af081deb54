import RequestBinding.Proofs.ByteOrder
import RequestBinding.Proofs.TagGrammar

/-!
# Tags as bytes

A tag is stored as its bytes, and it can be scanned byte by byte: positions count bytes, a byte ends
a key or a body, and a backslash takes two bytes. This is the scan over characters. Nothing but a
character of ASCII ends a key or a body, and no byte of another character is one of theirs. So what
a backslash leaves over of a character is passed like the rest of a body, and every position at
which the text is cut lies between two characters.

## Steps

* **Characters.** A character of ASCII is one byte, another has none of ASCII (`ascii_or_wide`).
* **Keys and bodies.** The scan over bytes stops where the scan over characters stops
  (`keyLength_encoded`, `scanBody_encoded`), so a key and a body have the same ends in both
  (`keyEnd?_encoded_iff`, `bodyEnd?_encoded`).
* **Texts.** Between two characters a text can be cut (`cut?_append`), which gives the pair and what
  is left (`next_eq`), and step by step all pairs (`pairs_eq`).

## Main statements

* `next_over_bytes` — the scan over bytes cuts no character and is the scan over characters.
-/

namespace RequestBinding.Tag.ByteScan

open Text

/-! ## Cuts -/

/-- The position lies within the text and between two of its characters. -/
def IsBoundary (text : String) (n : Nat) : Prop := String.Pos.Raw.IsValid text ⟨n⟩

instance (text : String) (n : Nat) : Decidable (IsBoundary text n) :=
  inferInstanceAs (Decidable (String.Pos.Raw.IsValid text ⟨n⟩))

/-- The text between two positions. A character is never cut: there is nothing to be had then. -/
def cut? (text : String) (start stop : Nat) : Option String :=
  if h : start ≤ stop ∧ IsBoundary text start ∧ IsBoundary text stop then
    some (text.extract ⟨⟨start⟩, h.2.1⟩ ⟨⟨stop⟩, h.2.2⟩)
  else none

theorem isBoundary_append (before after : String) :
    IsBoundary (before ++ after) before.utf8ByteSize :=
  String.Pos.Raw.isValid_iff_exists_append.mpr ⟨before, after, rfl, rfl⟩

/-- A part of a text is cut out of it. -/
theorem cut?_append (before part after : String) :
    cut? (before ++ part ++ after) before.utf8ByteSize (before.utf8ByteSize + part.utf8ByteSize)
      = some part := by
  have hstart : IsBoundary (before ++ part ++ after) before.utf8ByteSize := by
    rw [String.append_assoc]
    exact isBoundary_append before (part ++ after)
  have hstop : IsBoundary (before ++ part ++ after)
      (before.utf8ByteSize + part.utf8ByteSize) := by
    rw [← String.utf8ByteSize_append]
    exact isBoundary_append (before ++ part) after
  rw [cut?, dif_pos ⟨Nat.le_add_right _ _, hstart, hstop⟩]
  refine congrArg some (String.toByteArray_inj.mp ?_)
  rw [String.toByteArray_extract]
  dsimp only
  rw [String.append_assoc, String.toByteArray_append, String.toByteArray_append,
    ← String.size_toByteArray, ← String.size_toByteArray]
  have hskip := @ByteArray.extract_append_size_add before.toByteArray
    (part.toByteArray ++ after.toByteArray) 0 part.toByteArray.size
  rw [Nat.add_zero] at hskip
  rw [hskip, ByteArray.extract_append_eq_left rfl]

/-! ## The scan -/

/-- The byte cannot stand in a key. -/
def endsKey (b : UInt8) : Bool := b ≤ 0x20 || b == 0x3A || b == 0x22 || b == 0x7F

/-- The number of bytes before the first that cannot stand in a key. -/
def keyLength (bs : List UInt8) : Nat := bs.findIdx endsKey

/-- From a position in a body on, where the scan of the body stops, and whether a backslash was
seen. A backslash takes the byte after it, whatever that is. -/
def scanBody (bs : List UInt8) (i : Nat) (escaped : Bool) : Nat × Bool :=
  if h : i < bs.length then
    if bs[i] = 0x22 then (i, escaped)
    else if bs[i] = 0x5C then scanBody bs (i + 2) true
    else scanBody bs (i + 1) escaped
  else (i, escaped)
termination_by bs.length - i

/-- The end of the key, if the text begins with one and a colon and a quote come after it. -/
def keyEnd? (bs : List UInt8) : Option Nat :=
  let n := keyLength bs
  if n = 0 || n + 1 ≥ bs.length || bs[n]? != some 0x3A || bs[n + 1]? != some 0x22 then none
  else some n

/-- The end of the body that begins at a position, if a quote ends it, and whether a backslash was
seen in it. -/
def bodyEnd? (bs : List UInt8) (start : Nat) : Option (Nat × Bool) :=
  let stop := scanBody bs start false
  if stop.1 ≥ bs.length then none else some stop

/-- The text without the spaces at its start. -/
def withoutSpaces (text : String) : String := String.ofList (skipSpaces text.toList)

/-- One step of the scan: the pair at the start of a text, if there is one, and the text that is
left. There is no result if a character would be cut. -/
def next (text : String) : Option (Option Pair × String) :=
  let tag := withoutSpaces text
  match keyEnd? (bytes tag) with
  | none => some (none, "")
  | some keyEnd => do
    let key ← cut? tag 0 keyEnd
    match bodyEnd? (bytes tag) (keyEnd + 2) with
    | none => return (none, "")
    | some (bodyEnd, escaped) =>
      let body ← cut? tag (keyEnd + 2) bodyEnd
      let rest ← cut? tag (bodyEnd + 1) tag.utf8ByteSize
      let value := if escaped then unescape body.toList else body.toList
      return (some ⟨key.toList, value⟩, rest)

/-! ## Bytes of characters -/

/-- The bytes of characters. -/
def encoded (cs : List Char) : List UInt8 := cs.flatMap String.utf8EncodeChar

theorem encoded_append (cs ds : List Char) : encoded (cs ++ ds) = encoded cs ++ encoded ds :=
  List.flatMap_append

theorem encoded_cons (c : Char) (cs : List Char) :
    encoded (c :: cs) = String.utf8EncodeChar c ++ encoded cs := rfl

theorem bytes_ofList (cs : List Char) : bytes (String.ofList cs) = encoded cs := by
  rw [bytes_eq, String.toList_ofList, encoded]

theorem length_encoded (cs : List Char) :
    (encoded cs).length = (String.ofList cs).utf8ByteSize := by
  rw [← bytes_ofList, bytes, ← String.size_toByteArray]
  rfl

/-- The bytes after the first of a character are above ASCII. -/
theorem le_of_mem_laterBytes {n : Nat} {b : UInt8} (h : b ∈ laterBytes n) : 0x80 ≤ b.toNat := by
  have hbyte (m : Nat) (hb : b = UInt8.ofNat (m % 64 + 128)) : 0x80 ≤ b.toNat := by
    rw [hb, UInt8.toNat_ofNat']
    omega
  unfold laterBytes at h
  split_ifs at h
  · cases h
  · exact hbyte n (List.mem_singleton.mp h)
  · rcases List.mem_cons.mp h with h | h
    · exact hbyte (n / 64) h
    · exact hbyte n (List.mem_singleton.mp h)
  · rcases List.mem_cons.mp h with h | h
    · exact hbyte (n / 4096) h
    · rcases List.mem_cons.mp h with h | h
      · exact hbyte (n / 64) h
      · exact hbyte n (List.mem_singleton.mp h)

/-- A character of ASCII is one byte, its own number; all bytes of another are above ASCII. -/
theorem ascii_or_wide (c : Char) :
    (c.toNat < 0x80 ∧ String.utf8EncodeChar c = [UInt8.ofNat c.toNat]) ∨
      (0x80 ≤ c.toNat ∧ ∀ b ∈ String.utf8EncodeChar c, 0x80 ≤ b.toNat) := by
  rw [utf8EncodeChar_eq]
  by_cases hascii : c.toNat < 0x80
  · have hlead : leadByte c.toNat = c.toNat := if_pos (by omega)
    have hlater : laterBytes c.toNat = [] := if_pos (by omega)
    exact .inl ⟨hascii, by rw [hlead, hlater]⟩
  · refine .inr ⟨by omega, fun b hb => ?_⟩
    rcases List.mem_cons.mp hb with rfl | hb
    · have hn : c.toNat < 0x110000 := by
        rcases c.valid with h | ⟨-, h⟩
        · exact Nat.lt_trans h (by decide)
        · exact h
      unfold leadByte
      split_ifs <;> simp only [UInt8.toNat_ofNat'] <;> omega
    · exact le_of_mem_laterBytes hb

theorem utf8EncodeChar_of_ascii {c : Char} (hc : c.toNat < 0x80) :
    String.utf8EncodeChar c = [UInt8.ofNat c.toNat] := by
  rcases ascii_or_wide c with ⟨-, h⟩ | ⟨h, -⟩
  · exact h
  · omega

/-- A byte of ASCII stands for one character, and in no other. -/
theorem mem_utf8EncodeChar_iff {c d : Char} (hd : d.toNat < 0x80) :
    UInt8.ofNat d.toNat ∈ String.utf8EncodeChar c ↔ c = d := by
  have hbyte {n : Nat} (hn : n < 0x80) : (UInt8.ofNat n).toNat = n :=
    UInt8.toNat_ofNat_of_lt' (Nat.lt_trans hn (by decide))
  constructor
  · intro hmem
    rcases ascii_or_wide c with ⟨hc, hone⟩ | ⟨-, hall⟩
    · rw [hone, List.mem_singleton] at hmem
      have hcode : c.toNat = d.toNat := by rw [← hbyte hc, ← hbyte hd, hmem]
      rw [← Char.ofNat_toNat c, hcode, Char.ofNat_toNat]
    · have hwide := hall _ hmem
      rw [hbyte hd] at hwide
      omega
  · rintro rfl
    rw [utf8EncodeChar_of_ascii hd]
    exact List.mem_singleton_self _

theorem utf8EncodeChar_ne_nil (c : Char) : String.utf8EncodeChar c ≠ [] := by
  rw [utf8EncodeChar_eq]
  exact List.cons_ne_nil _ _

theorem encoded_ne_nil {cs : List Char} (h : cs ≠ []) : encoded cs ≠ [] := by
  obtain ⟨c, cs, rfl⟩ := List.exists_cons_of_ne_nil h
  exact List.append_ne_nil_of_left_ne_nil (utf8EncodeChar_ne_nil c) _

/-- A character of ASCII is the first of a text if its byte is. -/
theorem head?_encoded_iff {cs : List Char} {d : Char} (hd : d.toNat < 0x80) :
    (encoded cs).head? = some (UInt8.ofNat d.toNat) ↔ cs.head? = some d := by
  cases cs with
  | nil => simp [encoded]
  | cons c cs =>
    rw [encoded_cons, List.head?_append_of_ne_nil _ (utf8EncodeChar_ne_nil c), List.head?_cons,
      Option.some_inj]
    constructor
    · exact fun h => (mem_utf8EncodeChar_iff hd).mp (List.mem_of_mem_head? h)
    · rintro rfl
      rw [utf8EncodeChar_of_ascii hd]
      rfl

/-! ## Keys -/

theorem endsKey_of_ascii {c : Char} (hc : c.toNat < 0x80) :
    endsKey (UInt8.ofNat c.toNat) = !isKeyChar c := by
  have hall : ∀ n ∈ List.range 0x80, endsKey (UInt8.ofNat n) = !isKeyChar (Char.ofNat n) := by
    decide +kernel
  have hbyte := hall c.toNat (List.mem_range.mpr hc)
  rwa [Char.ofNat_toNat] at hbyte

/-- No byte of a character of keys ends a key. -/
theorem endsKey_of_isKeyChar {c : Char} (h : isKeyChar c = true) :
    ∀ b ∈ String.utf8EncodeChar c, endsKey b = false := by
  intro b hb
  rcases ascii_or_wide c with ⟨hc, hone⟩ | ⟨-, hall⟩
  · rw [hone, List.mem_singleton] at hb
    rw [hb, endsKey_of_ascii hc, h]
    rfl
  · have hwide := hall b hb
    rw [Bool.eq_false_iff]
    intro hends
    simp only [endsKey, Bool.or_eq_true, decide_eq_true_eq, beq_iff_eq] at hends
    rcases hends with ((hends | rfl) | rfl) | rfl
    · have hlow : b.toNat ≤ 0x20 := UInt8.le_iff_toNat_le.mp hends
      omega
    all_goals exact absurd hwide (by decide)

/-- A character that is none of keys is a byte that ends a key. -/
theorem endsKey_of_not_isKeyChar {c : Char} (h : isKeyChar c = false) :
    ∃ b, String.utf8EncodeChar c = [b] ∧ endsKey b = true := by
  rcases ascii_or_wide c with ⟨hc, hone⟩ | ⟨hc, -⟩
  · exact ⟨_, hone, by rw [endsKey_of_ascii hc, h]; rfl⟩
  · -- above ASCII every character may stand in a key
    have hkey : isKeyChar c = true := by
      have hspace : ' ' < c := Nat.lt_of_lt_of_le (by decide) hc
      have hne {d : Char} (hd : d.toNat < 0x80) : c ≠ d := by
        rintro rfl
        omega
      simp [isKeyChar, hspace, hne (d := ':') (by decide), hne (d := '"') (by decide),
        hne (d := '\x7f') (by decide)]
    rw [h] at hkey
    cases hkey

/-- The key is as long in bytes as its characters are. -/
theorem keyLength_encoded (cs : List Char) :
    keyLength (encoded cs) = (encoded (cs.takeWhile isKeyChar)).length := by
  induction cs with
  | nil => rfl
  | cons c cs ih =>
    rw [encoded_cons, keyLength]
    cases hc : isKeyChar c with
    | true =>
      have hpast := List.findIdx_eq_length_of_false (endsKey_of_isKeyChar hc)
      rw [List.findIdx_append, hpast, if_neg (Nat.lt_irrefl _), List.takeWhile_cons_of_pos hc,
        encoded_cons, List.length_append, ← ih, keyLength, Nat.add_comm]
    | false =>
      obtain ⟨b, hbyte, hends⟩ := endsKey_of_not_isKeyChar hc
      rw [hbyte, List.takeWhile_cons_of_neg (by simp [hc])]
      simp [List.findIdx_cons, hends, encoded]

/-! ## Bodies -/

section Bodies

variable {bs : List UInt8} {i : Nat} {escaped : Bool}

theorem scanBody_of_le (h : bs.length ≤ i) : scanBody bs i escaped = (i, escaped) := by
  rw [scanBody, dif_neg (Nat.not_lt.mpr h)]

theorem scanBody_quote (h : bs[i]? = some 0x22) : scanBody bs i escaped = (i, escaped) := by
  obtain ⟨hi, hb⟩ := List.getElem?_eq_some_iff.mp h
  rw [scanBody, dif_pos hi, if_pos hb]

theorem scanBody_backslash (h : bs[i]? = some 0x5C) :
    scanBody bs i escaped = scanBody bs (i + 2) true := by
  obtain ⟨hi, hb⟩ := List.getElem?_eq_some_iff.mp h
  rw [scanBody, dif_pos hi, hb, if_neg (by decide), if_pos rfl]

theorem scanBody_plain {b : UInt8} (h : bs[i]? = some b) (hquote : b ≠ 0x22)
    (hbackslash : b ≠ 0x5C) : scanBody bs i escaped = scanBody bs (i + 1) escaped := by
  obtain ⟨hi, hb⟩ := List.getElem?_eq_some_iff.mp h
  rw [scanBody, dif_pos hi, hb, if_neg hquote, if_neg hbackslash]

end Bodies

/-- Bytes that are neither a quote nor a backslash are passed. -/
theorem scanBody_pass (before : List UInt8) {part : List UInt8} (after : List UInt8)
    (escaped : Bool) (h : ∀ b ∈ part, b ≠ 0x22 ∧ b ≠ 0x5C) :
    scanBody (before ++ (part ++ after)) before.length escaped
      = scanBody (before ++ (part ++ after)) (before ++ part).length escaped := by
  induction part generalizing before with
  | nil => rw [List.append_nil]
  | cons b part ih =>
    have hb := h b List.mem_cons_self
    have hstep := ih (before ++ [b]) fun d hd => h d (List.mem_cons_of_mem b hd)
    rw [List.append_assoc, List.append_assoc, List.singleton_append, List.singleton_append] at hstep
    rw [List.cons_append, scanBody_plain (b := b) (by simp) hb.1 hb.2, ← hstep, List.length_append,
      List.length_singleton]

/-- What is above ASCII is neither. -/
theorem ne_of_wide {b : UInt8} (h : 0x80 ≤ b.toNat) : b ≠ 0x22 ∧ b ≠ 0x5C := by
  constructor <;>
  · rintro rfl
    exact absurd h (by decide)

/-- The bytes of a character that is neither a quote nor a backslash are none. -/
theorem ne_of_mem_utf8EncodeChar {c : Char} (hquote : c ≠ '"') (hbackslash : c ≠ '\\') :
    ∀ b ∈ String.utf8EncodeChar c, b ≠ 0x22 ∧ b ≠ 0x5C := by
  intro b hb
  constructor
  · rintro rfl
    exact hquote ((mem_utf8EncodeChar_iff (d := '"') (by decide)).mp hb)
  · rintro rfl
    exact hbackslash ((mem_utf8EncodeChar_iff (d := '\\') (by decide)).mp hb)

/-- **A backslash takes the character after it,** however many bytes that has. -/
theorem scanBody_escaped (before after : List UInt8) (c : Char) (escaped : Bool) :
    scanBody (before ++ 0x5C :: (String.utf8EncodeChar c ++ after)) before.length escaped
      = scanBody (before ++ 0x5C :: (String.utf8EncodeChar c ++ after))
          (before.length + 1 + (String.utf8EncodeChar c).length) true := by
  rw [utf8EncodeChar_eq]
  have hlater : ∀ b ∈ laterBytes c.toNat, b ≠ 0x22 ∧ b ≠ 0x5C := fun b hb =>
    ne_of_wide (le_of_mem_laterBytes hb)
  -- what is left of the character is passed
  have hpass := scanBody_pass (before ++ [0x5C, UInt8.ofNat (leadByte c.toNat)]) after true hlater
  simp only [List.append_assoc, List.cons_append, List.nil_append, List.length_append,
    List.length_cons, List.length_nil] at hpass
  rw [scanBody_backslash (by simp), List.cons_append, hpass, List.length_cons]
  congr 1
  omega

/-- What the scan of a body over bytes does from a position on, by what the scan over characters
takes from there: it stops at the quote that ends the body, or not before the end of the text. -/
def Follows (bs : List UInt8) (start : Nat) (escaped : Bool) : Option (List Char × List Char) → Prop
  | some (body, _) => scanBody bs start escaped
      = (start + (encoded body).length, escaped || body.contains '\\')
  | none => bs.length ≤ (scanBody bs start escaped).1

/-- A part that both scans pass comes before what they take. -/
theorem Follows.cons {bs : List UInt8} {start : Nat} {escaped : Bool} (part : List Char)
    {taken : Option (List Char × List Char)}
    (hpass : scanBody bs start escaped
      = scanBody bs (start + (encoded part).length) (escaped || part.contains '\\'))
    (h : Follows bs (start + (encoded part).length) (escaped || part.contains '\\') taken) :
    Follows bs start escaped (taken.map fun r => (part ++ r.1, r.2)) := by
  cases taken with
  | none =>
    show bs.length ≤ (scanBody bs start escaped).1
    rw [hpass]
    exact h
  | some r =>
    have hstop : scanBody bs (start + (encoded part).length) (escaped || part.contains '\\')
        = (start + (encoded part).length + (encoded r.1).length,
          escaped || part.contains '\\' || r.1.contains '\\') := h
    show scanBody bs start escaped
      = (start + (encoded (part ++ r.1)).length, escaped || (part ++ r.1).contains '\\')
    rw [hpass, hstop, encoded_append, List.length_append, Nat.add_assoc, Bool.or_assoc,
      List.contains_append]

/-- **The scan of a body over bytes stops where the one over characters stops.** -/
theorem scanBody_encoded (before : List UInt8) (cs : List Char) (escaped : Bool) :
    Follows (before ++ encoded cs) before.length escaped (takeBody cs) := by
  fun_induction takeBody cs generalizing before escaped with
  | case1 =>
    show _ ≤ (scanBody _ _ _).1
    rw [scanBody_of_le (by simp [encoded])]
    simp [encoded]
  | case2 rest =>
    show scanBody _ _ _ = _
    rw [scanBody_quote (by simp [encoded_cons, utf8EncodeChar_of_ascii])]
    simp [encoded]
  | case3 =>
    show _ ≤ (scanBody _ _ _).1
    have hbytes : encoded ['\\'] = [0x5C] := rfl
    rw [hbytes, scanBody_backslash (by simp), scanBody_of_le (by simp)]
    simp
  | case4 c rest ih =>
    have hbytes : encoded ('\\' :: c :: rest) = encoded ['\\', c] ++ encoded rest :=
      encoded_append ['\\', c] rest
    have hseen : (escaped || ['\\', c].contains '\\') = true := by simp
    have hlength : (encoded ['\\', c]).length = 1 + (String.utf8EncodeChar c).length := by
      simp [utf8EncodeChar_of_ascii, encoded, Nat.add_comm]
    refine .cons ['\\', c] ?_ ?_
    · rw [hseen, hlength, ← Nat.add_assoc]
      exact scanBody_escaped before (encoded rest) c escaped
    · have hrest := ih (before ++ encoded ['\\', c]) true
      rwa [List.append_assoc, ← hbytes, List.length_append, ← hseen] at hrest
  | case5 c rest hquote hend hescape ih =>
    have hbytes : encoded (c :: rest) = encoded [c] ++ encoded rest := encoded_append [c] rest
    have hbackslash : c ≠ '\\' := by
      rintro rfl
      cases rest with
      | nil => exact hend rfl rfl
      | cons d rest => exact hescape d rest rfl rfl
    have hunseen : (escaped || [c].contains '\\') = escaped := by simp [Ne.symm hbackslash]
    have hone : encoded [c] = String.utf8EncodeChar c := List.append_nil _
    refine .cons [c] ?_ ?_
    · rw [hunseen, hone, ← List.length_append]
      exact scanBody_pass before (encoded rest) escaped (ne_of_mem_utf8EncodeChar hquote hbackslash)
    · have hrest := ih (before ++ encoded [c]) escaped
      rwa [List.append_assoc, ← hbytes, List.length_append, ← hunseen] at hrest

/-! ## Pairs -/

/-- The two bytes after a key are those of the characters after it. -/
theorem colon_quote_iff (key after : List Char) :
    (encoded (key ++ after))[(encoded key).length]? = some 0x3A ∧
        (encoded (key ++ after))[(encoded key).length + 1]? = some 0x22 ↔
      ∃ rest, after = ':' :: '"' :: rest := by
  have hat (j : Nat) :
      (encoded (key ++ after))[(encoded key).length + j]? = (encoded after)[j]? := by
    rw [encoded_append, List.getElem?_append_right (Nat.le_add_right _ _), Nat.add_sub_cancel_left]
  rw [hat 1, ← Nat.add_zero (encoded key).length, hat 0, ← List.head?_eq_getElem?]
  have hcolon : (encoded after).head? = some 0x3A ↔ after.head? = some ':' :=
    head?_encoded_iff (d := ':') (by decide)
  constructor
  · rintro ⟨hfirst, hsecond⟩
    obtain ⟨more, rfl⟩ := List.head?_eq_some_iff.mp (hcolon.mp hfirst)
    have hquote : (encoded more).head? = some 0x22 ↔ more.head? = some '"' :=
      head?_encoded_iff (d := '"') (by decide)
    have hhead : (encoded more).head? = some 0x22 := by
      rw [List.head?_eq_getElem?]
      exact hsecond
    obtain ⟨rest, rfl⟩ := List.head?_eq_some_iff.mp (hquote.mp hhead)
    exact ⟨rest, rfl⟩
  · rintro ⟨rest, rfl⟩
    exact ⟨rfl, rfl⟩

/-- A key ends before a colon and a quote. That there is room for them need not be said. -/
theorem keyEnd?_eq_some_iff {bs : List UInt8} {n : Nat} :
    keyEnd? bs = some n ↔
      keyLength bs = n ∧ n ≠ 0 ∧ bs[n]? = some 0x3A ∧ bs[n + 1]? = some 0x22 := by
  have hiff : keyEnd? bs = some n ↔ (keyLength bs ≠ 0 ∧ keyLength bs + 1 < bs.length ∧
      bs[keyLength bs]? = some 0x3A ∧ bs[keyLength bs + 1]? = some 0x22) ∧ keyLength bs = n := by
    simp [keyEnd?, and_assoc]
  rw [hiff]
  constructor
  · rintro ⟨⟨hpos, -, hcolon, hquote⟩, rfl⟩
    exact ⟨rfl, hpos, hcolon, hquote⟩
  · rintro ⟨rfl, hpos, hcolon, hquote⟩
    exact ⟨⟨hpos, (List.getElem?_eq_some_iff.mp hquote).1, hcolon, hquote⟩, rfl⟩

/-- A text is cut after a key with a colon and a quote after it. -/
theorem keyEnd?_encoded_iff {cs : List Char} {n : Nat} :
    keyEnd? (encoded cs) = some n ↔
      ∃ key rest, IsKey key ∧ cs = key ++ ':' :: '"' :: rest ∧ (encoded key).length = n := by
  rw [keyEnd?_eq_some_iff, keyLength_encoded]
  constructor
  · rintro ⟨rfl, hpos, hbytes⟩
    have hsplit : cs.takeWhile isKeyChar ++ cs.dropWhile isKeyChar = cs :=
      List.takeWhile_append_dropWhile
    have hne : cs.takeWhile isKeyChar ≠ [] := fun hnil => hpos (by rw [hnil]; rfl)
    have hiff := colon_quote_iff (cs.takeWhile isKeyChar) (cs.dropWhile isKeyChar)
    rw [hsplit] at hiff
    obtain ⟨rest, hrest⟩ := hiff.mp hbytes
    exact ⟨_, rest, isKey_of_all hne List.all_takeWhile, by rw [← hrest, hsplit], rfl⟩
  · rintro ⟨key, rest, hkey, rfl, rfl⟩
    have htake : (key ++ ':' :: '"' :: rest).takeWhile isKeyChar = key :=
      (Prod.mk.inj (splitKey_append hkey.chars ('"' :: rest))).1
    refine ⟨by rw [htake], ?_, (colon_quote_iff key _).mpr ⟨rest, rfl⟩⟩
    exact mt List.length_eq_zero_iff.mp (encoded_ne_nil hkey.ne_nil)

/-- What is taken as a body stands before a quote. -/
theorem eq_of_takeBody {cs body rest : List Char} (h : takeBody cs = some (body, rest)) :
    cs = body ++ '"' :: rest := by
  obtain ⟨units, rfl, hcs⟩ := units_of_takeBody h
  exact hcs

theorem length_encoded_opened (key : List Char) :
    (encoded (key ++ [':', '"'])).length = (encoded key).length + 2 := by
  rw [encoded_append, List.length_append]
  rfl

theorem length_encoded_closed (key body : List Char) :
    (encoded (key ++ [':', '"'] ++ body ++ ['"'])).length
      = (encoded key).length + 2 + (encoded body).length + 1 := by
  rw [encoded_append, encoded_append, List.length_append, List.length_append,
    length_encoded_opened]
  rfl

/-- A text is cut after the body that is taken as characters. -/
theorem bodyEnd?_encoded (key rest : List Char) :
    bodyEnd? (encoded (key ++ ':' :: '"' :: rest)) ((encoded key).length + 2) =
      (takeBody rest).map fun r =>
        ((encoded key).length + 2 + (encoded r.1).length, r.1.contains '\\') := by
  have hfollows : Follows (encoded (key ++ ':' :: '"' :: rest)) ((encoded key).length + 2) false
      (takeBody rest) := by
    have hscan := scanBody_encoded (encoded (key ++ [':', '"'])) rest false
    rwa [← encoded_append, List.append_assoc, length_encoded_opened] at hscan
  rw [bodyEnd?]
  cases hbody : takeBody rest with
  | none =>
    rw [hbody] at hfollows
    exact if_pos hfollows
  | some r =>
    obtain ⟨body, after⟩ := r
    rw [hbody] at hfollows
    have hstop : scanBody (encoded (key ++ ':' :: '"' :: rest)) ((encoded key).length + 2) false
        = ((encoded key).length + 2 + (encoded body).length, body.contains '\\') := hfollows
    have hinside : (encoded key).length + 2 + (encoded body).length
        < (encoded (key ++ ':' :: '"' :: rest)).length := by
      have htext : key ++ ':' :: '"' :: rest = key ++ [':', '"'] ++ body ++ ['"'] ++ after := by
        simp [eq_of_takeBody hbody]
      rw [htext, encoded_append, List.length_append, length_encoded_closed]
      omega
    rw [hstop]
    exact if_neg (Nat.not_le.mpr hinside)

/-- A pair is read after a key, as far as a body can be taken. -/
theorem readPair_of_key {cs key rest : List Char} (hkey : IsKey key)
    (h : skipSpaces cs = key ++ ':' :: '"' :: rest) :
    readPair cs = (takeBody rest).map fun r => (⟨key, unescape r.1⟩, r.2) := by
  obtain ⟨c, key, rfl⟩ := List.exists_cons_of_ne_nil hkey.ne_nil
  rw [readPair, h, splitKey_append hkey.chars]
  rfl

/-- No pair is read where no key ends. -/
theorem readPair_of_keyEnd?_eq_none {cs : List Char}
    (h : keyEnd? (encoded (skipSpaces cs)) = none) : readPair cs = none := by
  unfold readPair
  split
  · next c key rest hsplit =>
    obtain ⟨htake, hdrop⟩ := Prod.mk.inj hsplit
    have hkey : IsKey (c :: key) := ⟨List.cons_ne_nil c key,
      List.all_eq_true.mp (htake ▸ List.all_takeWhile)⟩
    have hsome := keyEnd?_encoded_iff.mpr ⟨c :: key, rest, hkey,
      by rw [← htake, ← hdrop, List.takeWhile_append_dropWhile], rfl⟩
    rw [h] at hsome
    cases hsome
  · rfl

/-! ## Texts -/

theorem cut?_ofList {cs : List Char} {start stop : Nat} (before part after : List Char)
    (h : cs = before ++ part ++ after) (hstart : (encoded before).length = start)
    (hstop : start + (encoded part).length = stop) :
    cut? (String.ofList cs) start stop = some (String.ofList part) := by
  subst h hstart hstop
  rw [String.ofList_append, String.ofList_append, length_encoded, length_encoded]
  exact cut?_append _ _ _

/-- The key is cut out of the text. -/
theorem cut?_key (key after : List Char) :
    cut? (String.ofList (key ++ after)) 0 (encoded key).length = some (String.ofList key) :=
  cut?_ofList [] key after rfl rfl (Nat.zero_add _)

section Pieces

variable {cs key rest body after : List Char} (htext : cs = key ++ ':' :: '"' :: rest)
  (hbody : takeBody rest = some (body, after))
include htext hbody

theorem eq_pieces : cs = key ++ [':', '"'] ++ body ++ ['"'] ++ after := by
  simp [htext, eq_of_takeBody hbody]

/-- The body is cut out of the text. -/
theorem cut?_body : cut? (String.ofList cs) ((encoded key).length + 2)
    ((encoded key).length + 2 + (encoded body).length) = some (String.ofList body) := by
  refine cut?_ofList (key ++ [':', '"']) body (['"'] ++ after) ?_ (length_encoded_opened key) rfl
  rw [eq_pieces htext hbody, List.append_assoc _ ['"']]

/-- What is left is cut out of the text. -/
theorem cut?_rest : cut? (String.ofList cs)
    ((encoded key).length + 2 + (encoded body).length + 1) (String.ofList cs).utf8ByteSize
      = some (String.ofList after) := by
  refine cut?_ofList (key ++ [':', '"'] ++ body ++ ['"']) after [] ?_
    (length_encoded_closed key body) ?_
  · rw [eq_pieces htext hbody, List.append_nil]
  · rw [← length_encoded, eq_pieces htext hbody, encoded_append _ after, List.length_append,
      length_encoded_closed]

end Pieces

/-- What a body with no backslash stands for is itself. -/
theorem unescape_of_not_mem {body : List Char} (h : '\\' ∉ body) : unescape body = body := by
  fun_induction unescape body with
  | case1 => rfl
  | case2 => exact absurd (List.mem_singleton_self _) h
  | case3 c rest ih => exact absurd List.mem_cons_self h
  | case4 c rest hend hescape ih => rw [ih fun hmem => h (List.mem_cons_of_mem c hmem)]

/-- **A step of the scan over bytes is a step of the scan over characters.** -/
theorem next_eq (text : String) :
    next text = some ((Tag.next text.toList).1, String.ofList (Tag.next text.toList).2) := by
  have hbytes : bytes (withoutSpaces text) = encoded (skipSpaces text.toList) := bytes_ofList _
  rw [next, hbytes]
  cases hend : keyEnd? (encoded (skipSpaces text.toList)) with
  | none => rw [next_of_none (readPair_of_keyEnd?_eq_none hend)]
  | some n =>
    obtain ⟨key, rest, hkey, htext, rfl⟩ := keyEnd?_encoded_iff.mp hend
    have hread := readPair_of_key hkey htext
    have hkeyCut : cut? (withoutSpaces text) 0 (encoded key).length = some (String.ofList key) := by
      rw [withoutSpaces, htext]
      exact cut?_key key _
    have hbodyEnd := bodyEnd?_encoded key rest
    rw [← htext] at hbodyEnd
    cases hbody : takeBody rest with
    | none =>
      rw [hbody] at hread hbodyEnd
      rw [next_of_none hread]
      simp only [hkeyCut, Option.bind_eq_bind, Option.bind_some, hbodyEnd, Option.map_none,
        Option.pure_def, String.ofList_nil]
    | some r =>
      obtain ⟨body, after⟩ := r
      rw [hbody] at hread hbodyEnd
      have hbodyCut : cut? (withoutSpaces text) _ _ = _ := cut?_body htext hbody
      have hrestCut : cut? (withoutSpaces text) _ (withoutSpaces text).utf8ByteSize = _ :=
        cut?_rest htext hbody
      have hvalue : (if body.contains '\\' then unescape body else body) = unescape body := by
        rw [ite_eq_left_iff]
        intro hplain
        exact (unescape_of_not_mem (by simpa using hplain)).symm
      rw [next_of_some hread]
      simp only [hkeyCut, Option.bind_eq_bind, Option.bind_some, hbodyEnd, Option.map_some,
        hbodyCut, hrestCut, Option.pure_def, String.toList_ofList, hvalue]

-- The backslash stands before a character of three bytes, of which the second and third are passed.
example : next " unit:\"10 \\€\" rest" = some (some ⟨"unit".toList, "10 €".toList⟩, " rest") := by
  rw [next_eq]
  decide +kernel

/-! ## Scans -/

/-- The pairs of a text, step by step until no further pair can be read. There is no result if a
character would be cut. -/
def pairs (text : String) : Option (List Pair) :=
  match _h : next text with
  | none => none
  | some (none, _) => some []
  | some (some pair, rest) => (pairs rest).map (pair :: ·)
termination_by text.toList.length
decreasing_by
  rw [next_eq, Option.some_inj, Prod.mk.injEq] at _h
  obtain ⟨hpair, rfl⟩ := _h
  rw [String.toList_ofList]
  exact next_length (Prod.ext hpair rfl)

/-- **The scan over bytes yields the pairs of the scan over characters.** -/
theorem pairs_eq (text : String) : pairs text = some (Tag.pairs text.toList) := by
  fun_induction pairs text with
  | case1 text h =>
    rw [next_eq] at h
    cases h
  | case2 text left h =>
    rw [next_eq] at h
    cases hread : readPair text.toList with
    | none => rw [pairs_of_none hread]
    | some r =>
      rw [next_of_some hread] at h
      cases h
  | case3 text pair left h ih =>
    rw [next_eq] at h
    cases hread : readPair text.toList with
    | none =>
      rw [next_of_none hread] at h
      cases h
    | some r =>
      rw [next_of_some hread] at h
      cases h
      rw [ih, pairs_of_some hread, String.toList_ofList, Option.map_some]

/-- What is cut out of a text lies between two boundaries. -/
theorem isBoundary_of_cut? {text part : String} {start stop : Nat}
    (h : cut? text start stop = some part) :
    start ≤ stop ∧ IsBoundary text start ∧ IsBoundary text stop := by
  unfold cut? at h
  split at h
  · assumption
  · cases h

/-- The backslash of a text at a position takes the character after it. -/
theorem scanBody_bytes (before after : String) (c : Char) (escaped : Bool) :
    scanBody (bytes (before ++ "\\" ++ c.toString ++ after)) before.utf8ByteSize escaped
      = scanBody (bytes (before ++ "\\" ++ c.toString ++ after))
          (before.utf8ByteSize + 1 + c.utf8Size) true := by
  have hbytes : bytes (before ++ "\\" ++ c.toString ++ after)
      = bytes before ++ 0x5C :: (String.utf8EncodeChar c ++ bytes after) := by
    simp [bytes_eq, utf8EncodeChar_of_ascii]
  have hlength : (bytes before).length = before.utf8ByteSize := String.size_toByteArray
  have hscan := scanBody_escaped (bytes before) (bytes after) c escaped
  rwa [← hbytes, hlength, String.length_utf8EncodeChar] at hscan

/-- **The scan over bytes is the scan over characters,** of every text.

After the spaces at its start, the text is only cut between two of its characters: at the end of a
key, and if a body follows, at its start, at its end and after the quote that ends it. The body is
its own value if no backslash was seen in it. So a step and a whole scan give what they give over
characters. A backslash takes all bytes of the character after it. -/
theorem next_over_bytes (text : String) :
    (∀ keyEnd, keyEnd? (bytes (withoutSpaces text)) = some keyEnd →
      IsBoundary (withoutSpaces text) keyEnd ∧
      ∀ bodyEnd escaped,
        bodyEnd? (bytes (withoutSpaces text)) (keyEnd + 2) = some (bodyEnd, escaped) →
        keyEnd + 2 ≤ bodyEnd ∧ bodyEnd + 1 ≤ (withoutSpaces text).utf8ByteSize ∧
        IsBoundary (withoutSpaces text) (keyEnd + 2) ∧
        IsBoundary (withoutSpaces text) bodyEnd ∧
        IsBoundary (withoutSpaces text) (bodyEnd + 1) ∧
        ∃ body, cut? (withoutSpaces text) (keyEnd + 2) bodyEnd = some body ∧
          (escaped = false → unescape body.toList = body.toList)) ∧
    next text = some ((Tag.next text.toList).1, String.ofList (Tag.next text.toList).2) ∧
    pairs text = some (Tag.pairs text.toList) ∧
    ∀ (before after : String) (c : Char) (escaped : Bool),
      scanBody (bytes (before ++ "\\" ++ c.toString ++ after)) before.utf8ByteSize escaped
        = scanBody (bytes (before ++ "\\" ++ c.toString ++ after))
            (before.utf8ByteSize + 1 + c.utf8Size) true := by
  refine ⟨fun keyEnd hend => ?_, next_eq text, pairs_eq text, scanBody_bytes⟩
  rw [withoutSpaces, bytes_ofList] at hend ⊢
  obtain ⟨key, rest, -, htext, rfl⟩ := keyEnd?_encoded_iff.mp hend
  have hkeyCut := cut?_key key (':' :: '"' :: rest)
  have hbodyEnd := bodyEnd?_encoded key rest
  rw [← htext] at hkeyCut hbodyEnd
  refine ⟨(isBoundary_of_cut? hkeyCut).2.2, fun bodyEnd escaped hstop => ?_⟩
  rw [hbodyEnd] at hstop
  obtain ⟨⟨body, after⟩, hbody, hr⟩ := Option.map_eq_some_iff.mp hstop
  cases hr
  have hbodyCut := cut?_body htext hbody
  obtain ⟨hle, hstart, hstop⟩ := isBoundary_of_cut? hbodyCut
  obtain ⟨hinside, hrest, -⟩ := isBoundary_of_cut? (cut?_rest htext hbody)
  refine ⟨hle, hinside, hstart, hstop, hrest, _, hbodyCut, fun hplain => ?_⟩
  rw [String.toList_ofList]
  exact unescape_of_not_mem (by simpa using hplain)

end RequestBinding.Tag.ByteScan

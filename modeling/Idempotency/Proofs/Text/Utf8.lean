import Idempotency.Text.Utf8

/-!
# `Idempotency.Proofs.Text.Utf8`: written text reads back

The bytes of a text read as its characters, each as it was and none gone astray
(`scan_encode`), so that they decode to the text (`decode?_encode`). The line
feed is a byte of its own: it stands in the bytes of a text only if the text has
the character (`lineFeed_mem_encode`). The highest bytes are in no text
(`toNat_lt_of_mem_encode`).

A character is written by its one to four bytes. The proof goes by their number,
since the first byte says how many follow.
-/

set_option autoImplicit false

namespace Idempotency.Text

variable {b₀ b₁ b₂ b₃ : UInt8} {n : Nat}

/-! ### Characters of one to four bytes -/

/-- A code point that is no half of a pair is that of its character. -/
theorem toNat_charOfNat (h : n < 0xD800 ∨ (0xDFFF < n ∧ n < 0x110000)) :
    (Char.ofNat n).toNat = n := by
  unfold Char.ofNat
  rw [dif_pos h]
  rfl

/-- A byte is in a range if its number is. -/
theorem between_of_toNat {low high : UInt8} {m : Nat} (h : b₀.toNat = m)
    (hlow : low.toNat ≤ m) (hhigh : m ≤ high.toNat) :
    decide (low ≤ b₀) = true ∧ decide (b₀ ≤ high) = true := by
  simp only [UInt8.le_iff_toNat_le, h, decide_eq_true_eq]
  exact ⟨hlow, hhigh⟩

/-- Six bits in a byte after the first make it one. -/
theorem isTail_of_toNat (h : b₀.toNat = n % 64 + 128) : isTail b₀ = true := by
  obtain ⟨hfrom, hto⟩ : decide (0x80 ≤ b₀) = true ∧ decide (b₀ ≤ 0xBF) = true :=
    between_of_toNat h (by show 128 ≤ _; omega) (by show _ ≤ 191; omega)
  rw [isTail, hfrom, hto]
  rfl

/-- They are read from it again. -/
theorem tailBits_of_toNat (h : b₀.toNat = n % 64 + 128) : tailBits b₀ = n % 64 := by
  unfold tailBits
  omega

/-- Two bytes with the bits of a code point are read as its character. -/
theorem twoBytes?_eq_some (h₀ : b₀.toNat = n / 64 % 32 + 192) (h₁ : b₁.toNat = n % 64 + 128)
    (hlow : 0x80 ≤ n) (hhigh : n ≤ 0x7FF) : twoBytes? b₀ b₁ = some (Char.ofNat n) := by
  obtain ⟨hfrom, hto⟩ : decide (0xC2 ≤ b₀) = true ∧ decide (b₀ ≤ 0xDF) = true :=
    between_of_toNat h₀ (by show 194 ≤ _; omega) (by show _ ≤ 223; omega)
  rw [twoBytes?, isTail_of_toNat h₁, tailBits_of_toNat h₁, hfrom, hto, h₀]
  rw [show (n / 64 % 32 + 192 - 192) * 64 + n % 64 = n by omega]
  rfl

/-- A first byte of three or four is none of two. -/
theorem twoBytes?_eq_none (h : 0xE0 ≤ b₀.toNat) : twoBytes? b₀ b₁ = none := by
  have hlead : ¬ b₀ ≤ 0xDF := by
    rw [UInt8.le_iff_toNat_le]
    show ¬ b₀.toNat ≤ 223
    omega
  simp [twoBytes?, hlead]

/-- So are three, if they are not half of a pair. -/
theorem threeBytes?_eq_some (h₀ : b₀.toNat = n / 4096 % 16 + 224)
    (h₁ : b₁.toNat = n / 64 % 64 + 128) (h₂ : b₂.toNat = n % 64 + 128)
    (hlow : 0x800 ≤ n) (hhigh : n ≤ 0xFFFF) (hvalid : n < 0xD800 ∨ 0xDFFF < n) :
    threeBytes? b₀ b₁ b₂ = some (Char.ofNat n) := by
  obtain ⟨hfrom, hto⟩ : decide (0xE0 ≤ b₀) = true ∧ decide (b₀ ≤ 0xEF) = true :=
    between_of_toNat h₀ (by show 224 ≤ _; omega) (by show _ ≤ 239; omega)
  have hvalue : (n / 4096 % 16 + 224 - 224) * 4096 + n / 64 % 64 * 64 + n % 64 = n := by omega
  have hsurrogate : (decide (0xD800 ≤ n) && decide (n ≤ 0xDFFF)) = false := by
    rw [Bool.and_eq_false_iff, decide_eq_false_iff_not, decide_eq_false_iff_not]
    omega
  simp only [threeBytes?, isTail_of_toNat h₁, isTail_of_toNat h₂, tailBits_of_toNat h₁,
    tailBits_of_toNat h₂, h₀, hvalue, hfrom, hto, hsurrogate, hlow, decide_true, Bool.and_self,
    Bool.not_false, if_true]

/-- A first byte of four is none of three. -/
theorem threeBytes?_eq_none (h : 0xF0 ≤ b₀.toNat) : threeBytes? b₀ b₁ b₂ = none := by
  have hlead : ¬ b₀ ≤ 0xEF := by
    rw [UInt8.le_iff_toNat_le]
    show ¬ b₀.toNat ≤ 239
    omega
  simp [threeBytes?, hlead]

/-- Four bytes with the bits of a code point are read as its character. -/
theorem fourBytes?_eq_some (h₀ : b₀.toNat = n / 262144 % 8 + 240)
    (h₁ : b₁.toNat = n / 4096 % 64 + 128) (h₂ : b₂.toNat = n / 64 % 64 + 128)
    (h₃ : b₃.toNat = n % 64 + 128) (hlow : 0x10000 ≤ n) (hhigh : n ≤ 0x10FFFF) :
    fourBytes? b₀ b₁ b₂ b₃ = some (Char.ofNat n) := by
  obtain ⟨hfrom, hto⟩ : decide (0xF0 ≤ b₀) = true ∧ decide (b₀ ≤ 0xF4) = true :=
    between_of_toNat h₀ (by show 240 ≤ _; omega) (by show _ ≤ 244; omega)
  have hvalue : (n / 262144 % 8 + 240 - 240) * 262144 + n / 4096 % 64 * 4096
      + n / 64 % 64 * 64 + n % 64 = n := by omega
  simp only [fourBytes?, isTail_of_toNat h₁, isTail_of_toNat h₂, isTail_of_toNat h₃,
    tailBits_of_toNat h₁, tailBits_of_toNat h₂, tailBits_of_toNat h₃, h₀, hvalue, hfrom, hto,
    hlow, hhigh, decide_true, Bool.and_self, if_true]

/-! ### Texts -/

/-- The number of a character is in one of two ranges: what lies between them is
for surrogates. -/
theorem toNat_valid (c : Char) : c.toNat < 0xD800 ∨ (0xDFFF < c.toNat ∧ c.toNat < 0x110000) :=
  c.valid

/-- A byte below 128 is scanned as a character. -/
theorem scan_one {rest : Bytes} (h : b₀.toNat < 128) :
    scan (b₀ :: rest) = .char (Char.ofNat b₀.toNat) :: scan rest := by
  rw [scan.eq_def]
  simp only [UInt8.lt_iff_toNat_lt, show (0x80 : UInt8).toNat = 128 from rfl, h, if_true]

/-- Other bytes are not. -/
theorem not_lt_of_le (h : 128 ≤ b₀.toNat) : ¬ b₀ < 0x80 := by
  rw [UInt8.lt_iff_toNat_lt]
  show ¬ b₀.toNat < 128
  omega

/-- Two bytes that are read as a character are scanned as it. -/
theorem scan_two {rest : Bytes} {c : Char} (h : 128 ≤ b₀.toNat)
    (h₂ : twoBytes? b₀ b₁ = some c) : scan (b₀ :: b₁ :: rest) = .char c :: scan rest := by
  rw [scan.eq_def]
  simp only [not_lt_of_le h, if_false, h₂]

/-- So are three. -/
theorem scan_three {rest : Bytes} {c : Char} (h : 0xE0 ≤ b₀.toNat)
    (h₃ : threeBytes? b₀ b₁ b₂ = some c) :
    scan (b₀ :: b₁ :: b₂ :: rest) = .char c :: scan rest := by
  rw [scan.eq_def]
  simp only [not_lt_of_le (Nat.le_trans (by decide) h), if_false, twoBytes?_eq_none h, h₃]

/-- And so are four. -/
theorem scan_four {rest : Bytes} {c : Char} (h : 0xF0 ≤ b₀.toNat)
    (h₄ : fourBytes? b₀ b₁ b₂ b₃ = some c) :
    scan (b₀ :: b₁ :: b₂ :: b₃ :: rest) = .char c :: scan rest := by
  rw [scan.eq_def]
  simp only [not_lt_of_le (Nat.le_trans (by decide) h), if_false,
    twoBytes?_eq_none (Nat.le_trans (by decide) h), threeBytes?_eq_none h, h₄]

/-- The bytes of a character, with anything after them, read as the character. -/
theorem scan_encodeChar (c : Char) (rest : Bytes) :
    scan (String.utf8EncodeChar c ++ rest) = .char c :: scan rest := by
  have hvalid := toNat_valid c
  have hc : Char.ofNat c.toNat = c := Char.ofNat_toNat c
  unfold String.utf8EncodeChar
  simp only [show c.val.toNat = c.toNat from rfl]
  generalize c.toNat = n at hvalid hc
  rw [← hc]
  have hbyte : ∀ {m : Nat}, m < 256 → (UInt8.ofNat m).toNat = m :=
    fun h => UInt8.toNat_ofNat_of_lt' h
  -- One case for each number of bytes.
  split
  · have hb := hbyte (m := n) (by omega)
    rw [List.cons_append, List.nil_append, scan_one (by omega), hb]
  · split
    · have h₀ := hbyte (m := n / 64 % 32 + 192) (by omega)
      have h₁ := hbyte (m := n % 64 + 128) (by omega)
      exact scan_two (by omega) (twoBytes?_eq_some h₀ h₁ (by omega) (by omega))
    · split
      · have h₀ := hbyte (m := n / 4096 % 16 + 224) (by omega)
        have h₁ := hbyte (m := n / 64 % 64 + 128) (by omega)
        have h₂ := hbyte (m := n % 64 + 128) (by omega)
        exact scan_three (by omega)
          (threeBytes?_eq_some h₀ h₁ h₂ (by omega) (by omega) (by omega))
      · have h₀ := hbyte (m := n / 262144 % 8 + 240) (by omega)
        have h₁ := hbyte (m := n / 4096 % 64 + 128) (by omega)
        have h₂ := hbyte (m := n / 64 % 64 + 128) (by omega)
        have h₃ := hbyte (m := n % 64 + 128) (by omega)
        exact scan_four (by omega) (fourBytes?_eq_some h₀ h₁ h₂ h₃ (by omega) (by omega))

/-- The bytes of a text read as its characters. -/
theorem scan_encode (cs : List Char) : scan (encode cs) = symbols cs := by
  induction cs with
  | nil => rfl
  | cons c cs ih =>
    rw [show encode (c :: cs) = String.utf8EncodeChar c ++ encode cs from rfl, scan_encodeChar, ih]
    rfl

/-- Where no byte went astray, the characters are those of the symbols. -/
theorem chars?_symbols (cs : List Char) : chars? (symbols cs) = some cs := by
  induction cs with
  | nil => rfl
  | cons c cs ih =>
    have ih' : (symbols cs).mapM Symbol.char? = some cs := ih
    rw [show symbols (c :: cs) = .char c :: symbols cs from rfl, chars?, List.mapM_cons, ih']
    rfl

/-- The bytes of a text decode to it. -/
theorem decode?_encode (cs : List Char) : decode? (encode cs) = some cs := by
  rw [decode?, scan_encode, chars?_symbols]

/-! ### The line feed -/

/-- The line feed is in the bytes of no other character. -/
theorem lineFeed_mem_encodeChar {c : Char} (h : 0x0A ∈ String.utf8EncodeChar c) : c = '\n' := by
  have hc : Char.ofNat c.toNat = c := Char.ofNat_toNat c
  have hbyte : ∀ {m : Nat}, m < 256 → (0x0A : UInt8) = UInt8.ofNat m → m = 10 := by
    intro m hm heq
    rw [← UInt8.toNat_ofNat_of_lt' hm, ← heq]
    rfl
  -- The bytes of characters that take several are all above it.
  have hlarge : ∀ {m : Nat}, m < 256 → 10 < m → (0x0A : UInt8) ≠ UInt8.ofNat m := by
    intro m hm hlt heq
    exact absurd (hbyte hm heq) (by omega)
  unfold String.utf8EncodeChar at h
  simp only [show c.val.toNat = c.toNat from rfl] at h
  generalize c.toNat = n at h hc
  split at h
  · have hn := hbyte (by omega) (List.mem_singleton.1 h)
    rw [← hc, hn]
  · split at h
    · simp only [List.mem_cons, List.not_mem_nil, or_false] at h
      rcases h with h | h
      · exact absurd h (hlarge (by omega) (by omega))
      · exact absurd h (hlarge (by omega) (by omega))
    · split at h
      · simp only [List.mem_cons, List.not_mem_nil, or_false] at h
        rcases h with h | h | h
        · exact absurd h (hlarge (by omega) (by omega))
        · exact absurd h (hlarge (by omega) (by omega))
        · exact absurd h (hlarge (by omega) (by omega))
      · simp only [List.mem_cons, List.not_mem_nil, or_false] at h
        rcases h with h | h | h | h
        · exact absurd h (hlarge (by omega) (by omega))
        · exact absurd h (hlarge (by omega) (by omega))
        · exact absurd h (hlarge (by omega) (by omega))
        · exact absurd h (hlarge (by omega) (by omega))

/-- The line feed is in the bytes of a text only if the text has it. -/
theorem lineFeed_mem_encode {cs : List Char} (h : 0x0A ∈ encode cs) : '\n' ∈ cs := by
  obtain ⟨c, hc, hbyte⟩ := List.mem_flatMap.1 h
  rw [← lineFeed_mem_encodeChar hbyte]
  exact hc

/-! ### Bytes that are not used -/

/-- The bytes of a character are below 248. -/
theorem toNat_lt_of_mem_encodeChar {c : Char} {b : UInt8} (h : b ∈ String.utf8EncodeChar c) :
    b.toNat < 248 := by
  have hc : c.toNat < 0x110000 := by
    rcases toNat_valid c with hlow | ⟨-, hhigh⟩
    · omega
    · exact hhigh
  have hsmall : ∀ {m : Nat}, m < 248 → b = UInt8.ofNat m → b.toNat < 248 := by
    intro m hm heq
    rw [heq, UInt8.toNat_ofNat_of_lt' (show m < 256 by omega)]
    exact hm
  unfold String.utf8EncodeChar at h
  simp only [show c.val.toNat = c.toNat from rfl] at h
  generalize c.toNat = n at h hc
  split at h
  · exact hsmall (by omega) (List.mem_singleton.1 h)
  · split at h
    · simp only [List.mem_cons, List.not_mem_nil, or_false] at h
      rcases h with h | h
      · exact hsmall (by omega) h
      · exact hsmall (by omega) h
    · split at h
      · simp only [List.mem_cons, List.not_mem_nil, or_false] at h
        rcases h with h | h | h
        · exact hsmall (by omega) h
        · exact hsmall (by omega) h
        · exact hsmall (by omega) h
      · simp only [List.mem_cons, List.not_mem_nil, or_false] at h
        rcases h with h | h | h | h
        · exact hsmall (by omega) h
        · exact hsmall (by omega) h
        · exact hsmall (by omega) h
        · exact hsmall (by omega) h

/-- No text has a byte from 248 on. -/
theorem toNat_lt_of_mem_encode {cs : List Char} {b : UInt8} (h : b ∈ encode cs) :
    b.toNat < 248 := by
  obtain ⟨c, -, hbyte⟩ := List.mem_flatMap.1 h
  exact toNat_lt_of_mem_encodeChar hbyte

/-- Texts with the same bytes are the same. -/
theorem encodeString_inj {a b : String} (h : encodeString a = encodeString b) : a = b := by
  have hchars : some a.toList = some b.toList := by
    rw [← decode?_encode a.toList, ← decode?_encode b.toList]
    exact congrArg decode? h
  exact String.toList_inj.1 (Option.some.inj hchars)

end Idempotency.Text

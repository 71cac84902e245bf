import Idempotency.Proofs.Text.Utf8

/-!
# `Idempotency.Proofs.Text.Cut`: the bytes of a text, cut somewhere

Bytes decode to a text exactly if they are its bytes (`decode?_eq_some_iff`). So a
part of the bytes of a text either does not decode, or it is the bytes of the part
of the text that it decodes to (`exists_append_of_encode`). A cut inside a
character is not made good by what follows, as long as that starts with a byte
below 128 (`decode?_append_eq_none`).
-/

set_option autoImplicit false

namespace Idempotency.Text

variable {b₀ b₁ b₂ b₃ : UInt8} {n : Nat} {bytes p q : Bytes} {c : Char} {cs : List Char}

/-- The bytes after the first one of a character are from 128 to 191. -/
theorem of_isTail (h : isTail b₀ = true) : 128 ≤ b₀.toNat ∧ b₀.toNat ≤ 191 := by
  simp only [isTail, Bool.and_eq_true, decide_eq_true_eq, UInt8.le_iff_toNat_le] at h
  exact h

/-- The byte of a number, where the number is that of a byte. -/
theorem ofNat_of_eq (b : UInt8) (h : n = b.toNat) : UInt8.ofNat n = b := by
  rw [h, UInt8.ofNat_toNat]

/-! ### A character is written by the bytes it was read from -/

/-- A byte below 128 is a character. -/
theorem encodeChar_one (h : b₀.toNat < 128) :
    String.utf8EncodeChar (Char.ofNat b₀.toNat) = [b₀] := by
  have hn := toNat_charOfNat (n := b₀.toNat) (by omega)
  unfold String.utf8EncodeChar
  simp only [show ∀ c : Char, c.val.toNat = c.toNat from fun _ => rfl, hn]
  rw [if_pos (by omega), UInt8.ofNat_toNat]

/-- Two bytes that are read as a character are its bytes. -/
theorem encodeChar_two (h : twoBytes? b₀ b₁ = some c) :
    String.utf8EncodeChar c = [b₀, b₁] := by
  unfold twoBytes? tailBits at h
  split at h
  · next hrange =>
    simp only [Bool.and_eq_true, decide_eq_true_eq, UInt8.le_iff_toNat_le] at hrange
    obtain ⟨⟨hlow, hhigh⟩, htail⟩ := hrange
    have hlow : 194 ≤ b₀.toNat := hlow
    have hhigh : b₀.toNat ≤ 223 := hhigh
    have htail := of_isTail htail
    obtain rfl := Option.some.inj h
    have hn := toNat_charOfNat (n := (b₀.toNat - 192) * 64 + (b₁.toNat - 128)) (by omega)
    unfold String.utf8EncodeChar
    simp only [show ∀ c : Char, c.val.toNat = c.toNat from fun _ => rfl, hn]
    rw [if_neg (by omega), if_pos (by omega), ofNat_of_eq b₀ (by omega),
      ofNat_of_eq b₁ (by omega)]
  · exact nomatch h

/-- So are three. -/
theorem encodeChar_three (h : threeBytes? b₀ b₁ b₂ = some c) :
    String.utf8EncodeChar c = [b₀, b₁, b₂] := by
  unfold threeBytes? tailBits at h
  simp only at h
  split at h
  · next hrange =>
    simp only [Bool.and_eq_true, Bool.not_eq_true', Bool.and_eq_false_iff, decide_eq_true_eq,
      decide_eq_false_iff_not, UInt8.le_iff_toNat_le] at hrange
    obtain ⟨⟨⟨⟨⟨hlow, hhigh⟩, htail₁⟩, htail₂⟩, hlong⟩, hvalid⟩ := hrange
    have hlow : 224 ≤ b₀.toNat := hlow
    have hhigh : b₀.toNat ≤ 239 := hhigh
    have htail₁ := of_isTail htail₁
    have htail₂ := of_isTail htail₂
    obtain rfl := Option.some.inj h
    have hn := toNat_charOfNat
      (n := (b₀.toNat - 224) * 4096 + (b₁.toNat - 128) * 64 + (b₂.toNat - 128)) (by omega)
    unfold String.utf8EncodeChar
    simp only [show ∀ c : Char, c.val.toNat = c.toNat from fun _ => rfl, hn]
    rw [if_neg (by omega), if_neg (by omega), if_pos (by omega),
      ofNat_of_eq b₀ (by omega), ofNat_of_eq b₁ (by omega),
      ofNat_of_eq b₂ (by omega)]
  · exact nomatch h

/-- And so are four. -/
theorem encodeChar_four (h : fourBytes? b₀ b₁ b₂ b₃ = some c) :
    String.utf8EncodeChar c = [b₀, b₁, b₂, b₃] := by
  unfold fourBytes? tailBits at h
  simp only at h
  split at h
  · next hrange =>
    simp only [Bool.and_eq_true, decide_eq_true_eq, UInt8.le_iff_toNat_le] at hrange
    obtain ⟨⟨⟨⟨⟨⟨hlow, hhigh⟩, htail₁⟩, htail₂⟩, htail₃⟩, hlong⟩, hvalid⟩ := hrange
    have hlow : 240 ≤ b₀.toNat := hlow
    have hhigh : b₀.toNat ≤ 244 := hhigh
    have htail₁ := of_isTail htail₁
    have htail₂ := of_isTail htail₂
    have htail₃ := of_isTail htail₃
    obtain rfl := Option.some.inj h
    have hn := toNat_charOfNat (n := (b₀.toNat - 240) * 262144 + (b₁.toNat - 128) * 4096
      + (b₂.toNat - 128) * 64 + (b₃.toNat - 128)) (by omega)
    unfold String.utf8EncodeChar
    simp only [show ∀ c : Char, c.val.toNat = c.toNat from fun _ => rfl, hn]
    rw [if_neg (by omega), if_neg (by omega), if_neg (by omega),
      ofNat_of_eq b₀ (by omega), ofNat_of_eq b₁ (by omega),
      ofNat_of_eq b₂ (by omega), ofNat_of_eq b₃ (by omega)]
  · exact nomatch h

/-! ### Texts -/

/-- Texts one behind the other have their bytes one behind the other. -/
theorem encode_append (cs ds : List Char) : encode (cs ++ ds) = encode cs ++ encode ds :=
  List.flatMap_append

/-- The bytes of the first character come first. -/
theorem encode_cons (c : Char) (cs : List Char) :
    encode (c :: cs) = String.utf8EncodeChar c ++ encode cs := rfl

/-- A text is its first character and the others. -/
theorem chars?_cons (c : Char) (symbols : List Symbol) :
    chars? (.char c :: symbols) = (chars? symbols).map (c :: ·) := by
  unfold chars?
  rw [List.mapM_cons]
  cases symbols.mapM Symbol.char? <;> rfl

/-- A byte that is part of no character spoils the text. -/
theorem chars?_stray (b : UInt8) (symbols : List Symbol) :
    chars? (.stray b :: symbols) = none := rfl

/-- Bytes that decode are the bytes of what they decode to. -/
theorem encode_of_decode? (h : decode? bytes = some cs) : bytes = encode cs := by
  -- Each symbol is a character, or the bytes do not decode.
  have hchar : ∀ {c : Char} {symbols : List Symbol} {cs : List Char},
      chars? (.char c :: symbols) = some cs →
        ∃ ds, chars? symbols = some ds ∧ cs = c :: ds := by
    intro c symbols cs h
    rw [chars?_cons] at h
    obtain ⟨ds, hds, rfl⟩ := Option.map_eq_some_iff.1 h
    exact ⟨ds, hds, rfl⟩
  unfold decode? at h
  induction bytes using scan.induct generalizing cs with
  | case1 =>
    cases h
    rfl
  | case2 b₀ rest hone ih =>
    rw [scan_one hone] at h
    obtain ⟨ds, hds, rfl⟩ := hchar h
    rw [encode_cons, encodeChar_one hone, ← ih hds]
    rfl
  | case4 b₀ hone b₁ rest c htwo ih =>
    rw [scan.eq_def] at h
    simp only [hone, if_false, htwo] at h
    obtain ⟨ds, hds, rfl⟩ := hchar h
    rw [encode_cons, encodeChar_two htwo, ← ih hds]
    rfl
  | case6 b₀ hone b₁ htwo b₂ rest c hthree ih =>
    rw [scan.eq_def] at h
    simp only [hone, if_false, htwo, hthree] at h
    obtain ⟨ds, hds, rfl⟩ := hchar h
    rw [encode_cons, encodeChar_three hthree, ← ih hds]
    rfl
  | case8 b₀ hone b₁ htwo b₂ hthree b₃ rest c hfour ih =>
    rw [scan.eq_def] at h
    simp only [hone, if_false, htwo, hthree, hfour] at h
    obtain ⟨ds, hds, rfl⟩ := hchar h
    rw [encode_cons, encodeChar_four hfour, ← ih hds]
    rfl
  | case3 b₀ hone =>
    simp [scan, hone, chars?_stray] at h
  | case5 b₀ hone b₁ htwo ih =>
    rw [scan.eq_def] at h
    simp [hone, htwo, chars?_stray] at h
  | case7 b₀ hone b₁ htwo b₂ hthree ih =>
    rw [scan.eq_def] at h
    simp [hone, htwo, hthree, chars?_stray] at h
  | case9 b₀ hone b₁ htwo b₂ hthree b₃ rest hfour ih =>
    rw [scan.eq_def] at h
    simp [hone, htwo, hthree, hfour, chars?_stray] at h

/-- Bytes decode to a text exactly if they are its bytes. -/
theorem decode?_eq_some_iff : decode? bytes = some cs ↔ bytes = encode cs :=
  ⟨encode_of_decode?, fun h => by rw [h, decode?_encode]⟩

/-! ### Parts of texts -/

/-- A byte below 128 in a character is all there is of it. -/
theorem encodeChar_of_mem {b : UInt8} (h : b ∈ String.utf8EncodeChar c) (hb : b.toNat < 128) :
    String.utf8EncodeChar c = [b] := by
  have hvalid := toNat_valid c
  unfold String.utf8EncodeChar at h ⊢
  simp only [show c.val.toNat = c.toNat from rfl] at h ⊢
  generalize c.toNat = n at h hvalid
  have hlarge : ∀ {m : Nat}, m < 256 → 128 ≤ m → b ≠ UInt8.ofNat m := by
    rintro m hm hle rfl
    rw [UInt8.toNat_ofNat_of_lt' hm] at hb
    omega
  split at h
  · next hone => rw [if_pos hone, List.mem_singleton.1 h]
  · split at h
    · simp only [List.mem_cons, List.not_mem_nil, or_false] at h
      rcases h with h | h
      · exact absurd h (hlarge (by omega) (by omega))
      · exact absurd h (hlarge (by omega) (by omega))
    · split at h
      · simp only [List.mem_cons, List.not_mem_nil, or_false] at h
        rcases h with h | h | h
        · exact absurd h (hlarge (by omega) (by omega))
        · exact absurd h (hlarge (by omega) (by omega))
        · exact absurd h (hlarge (by omega) (by omega))
      · simp only [List.mem_cons, List.not_mem_nil, or_false] at h
        rcases h with h | h | h | h
        · exact absurd h (hlarge (by omega) (by omega))
        · exact absurd h (hlarge (by omega) (by omega))
        · exact absurd h (hlarge (by omega) (by omega))
        · exact absurd h (hlarge (by omega) (by omega))

/-- What stands before a byte below 128 is the bytes of a text. -/
theorem exists_encode_before {b : UInt8} {more : Bytes} (hb : b.toNat < 128)
    (h : encode cs = p ++ b :: more) : ∃ ds, p = encode ds := by
  induction cs generalizing p with
  | nil =>
    have hlength := congrArg List.length h
    simp [encode] at hlength
  | cons c cs ih =>
    rw [encode_cons] at h
    rcases List.append_eq_append_iff.1 h with ⟨p', rfl, hrest⟩ | ⟨x, hchar, hrest⟩
    · obtain ⟨ds, rfl⟩ := ih hrest
      exact ⟨c :: ds, (encode_cons c ds).symm⟩
    · cases x with
      | nil => exact ⟨[c], by rw [encode_cons, hchar]; simp [encode]⟩
      | cons b' x =>
        -- The byte is in the character, which has no other then.
        obtain ⟨rfl, _⟩ := List.cons.inj hrest
        have hone := encodeChar_of_mem (c := c) (by rw [hchar]; simp) hb
        rw [hone] at hchar
        cases p with
        | nil => exact ⟨[], rfl⟩
        | cons a p =>
          have hlength := congrArg List.length hchar
          simp at hlength

/-- Bytes that do not decode do not decode with a byte below 128 and more after
them. -/
theorem decode?_append_eq_none {b : UInt8} {more : Bytes} (hb : b.toNat < 128)
    (h : decode? p = none) : decode? (p ++ b :: more) = none := by
  cases hdecode : decode? (p ++ b :: more) with
  | none => rfl
  | some cs =>
    obtain ⟨ds, hds⟩ := exists_encode_before hb (encode_of_decode? hdecode).symm
    rw [hds, decode?_encode] at h
    exact nomatch h

/-- The bytes of a text are scanned as its characters, whatever follows. -/
theorem scan_encode_append (cs : List Char) (rest : Bytes) :
    scan (encode cs ++ rest) = symbols cs ++ scan rest := by
  induction cs with
  | nil => rfl
  | cons c cs ih =>
    rw [encode_cons, List.append_assoc, scan_encodeChar, ih]
    rfl

/-- If the first part of a text decodes, it is the first part of the text. -/
theorem exists_append_of_encode (h : encode cs = p ++ q) {ds : List Char}
    (hp : decode? p = some ds) : ∃ es, cs = ds ++ es ∧ q = encode es := by
  obtain rfl := encode_of_decode? hp
  have hscan := scan_encode cs
  rw [h, scan_encode_append] at hscan
  obtain ⟨front, es, rfl, hfront, -⟩ := List.map_eq_append_iff.1 hscan.symm
  have hchars := congrArg chars? (show symbols front = symbols ds from hfront)
  rw [chars?_symbols, chars?_symbols] at hchars
  obtain rfl := Option.some.inj hchars
  rw [encode_append] at h
  exact ⟨es, rfl, (List.append_cancel_left h).symm⟩

end Idempotency.Text

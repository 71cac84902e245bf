import Idempotency.Proofs.Text.Utf8

/-!
# `Idempotency.Proofs.Text.Order`: the order of texts is that of their bytes

Texts compare by code point, character by character. Their bytes compare in the
same way (`encodeString_lt_iff`): the first byte of a character grows with the
number of its bytes, and within one number the bytes are the digits of the code
point, the highest first (`encodeChar_append_lt`). What follows the first
difference does not count, so a text that begins another needs no case of its
own.
-/

set_option autoImplicit false

namespace Idempotency.Text

variable {m n : Nat} {left right : Bytes}

/-- Bytes compare at the first that differ. -/
theorem byte_cons_lt (hm : m < 256) (hn : n < 256) (hle : m ≤ n) (hrest : m = n → left < right) :
    UInt8.ofNat m :: left < UInt8.ofNat n :: right := by
  rw [List.cons_lt_cons_iff]
  rcases Nat.lt_or_eq_of_le hle with hlt | rfl
  · left
    rw [UInt8.lt_iff_toNat_lt, UInt8.toNat_ofNat_of_lt' hm,
      UInt8.toNat_ofNat_of_lt' hn]
    exact hlt
  · exact .inr ⟨rfl, hrest rfl⟩

/-- The bytes of the smaller character come first, whatever follows. -/
theorem encodeChar_append_lt {c d : Char} (h : c.toNat < d.toNat) (left right : Bytes) :
    String.utf8EncodeChar c ++ left < String.utf8EncodeChar d ++ right := by
  have hd : d.toNat < 0x110000 := by
    rcases toNat_valid d with hlow | ⟨-, hhigh⟩
    · omega
    · exact hhigh
  unfold String.utf8EncodeChar
  simp only [show c.val.toNat = c.toNat from rfl, show d.val.toNat = d.toNat from rfl]
  generalize c.toNat = m at h
  generalize d.toNat = n at h hd
  -- The greater character takes at least as many bytes. If it takes more, the first byte decides.
  split
  · repeat' split
    all_goals exact byte_cons_lt (by omega) (by omega) (by omega) fun h₀ => by omega
  · split
    · repeat' split
      · omega
      · refine byte_cons_lt (by omega) (by omega) (by omega) fun h₀ => ?_
        exact byte_cons_lt (by omega) (by omega) (by omega) fun h₁ => by omega
      all_goals exact byte_cons_lt (by omega) (by omega) (by omega) fun h₀ => by omega
    · split
      · repeat' split
        iterate 2 omega
        · refine byte_cons_lt (by omega) (by omega) (by omega) fun h₀ => ?_
          refine byte_cons_lt (by omega) (by omega) (by omega) fun h₁ => ?_
          exact byte_cons_lt (by omega) (by omega) (by omega) fun h₂ => by omega
        · exact byte_cons_lt (by omega) (by omega) (by omega) fun h₀ => by omega
      · repeat' split
        iterate 3 omega
        refine byte_cons_lt (by omega) (by omega) (by omega) fun h₀ => ?_
        refine byte_cons_lt (by omega) (by omega) (by omega) fun h₁ => ?_
        refine byte_cons_lt (by omega) (by omega) (by omega) fun h₂ => ?_
        exact byte_cons_lt (by omega) (by omega) (by omega) fun h₃ => by omega

/-- The bytes of the smaller text come first. -/
theorem encode_lt {as bs : List Char} (h : as < bs) : encode as < encode bs := by
  induction as generalizing bs with
  | nil =>
    cases bs with
    | nil => exact absurd h (List.lt_irrefl [])
    | cons d ds =>
      obtain ⟨b, bytes, hb⟩ := List.exists_cons_of_ne_nil (String.utf8EncodeChar_ne_nil (c := d))
      rw [show encode (d :: ds) = String.utf8EncodeChar d ++ encode ds from rfl, hb]
      exact List.nil_lt_cons b (bytes ++ encode ds)
  | cons c cs ih =>
    cases bs with
    | nil => exact absurd h (List.not_lt_nil (c :: cs))
    | cons d ds =>
      rcases List.cons_lt_cons_iff.1 h with hlt | ⟨rfl, hrest⟩
      · exact encodeChar_append_lt hlt (encode cs) (encode ds)
      · exact List.append_left_lt (ih hrest)

/-- Texts compare as their bytes do. -/
theorem encodeString_lt_iff {a b : String} : encodeString a < encodeString b ↔ a < b := by
  refine ⟨fun hbytes => ?_, encode_lt⟩
  rcases Std.lt_trichotomy a b with hlt | rfl | hgt
  · exact hlt
  · exact absurd hbytes (List.lt_irrefl (encodeString a))
  · exact absurd hbytes (List.lt_asymm (encode_lt hgt))

end Idempotency.Text

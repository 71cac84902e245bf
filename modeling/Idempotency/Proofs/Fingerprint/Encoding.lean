import Idempotency.Proofs.Fingerprint

/-!
# `Idempotency.Proofs.Fingerprint.Encoding`: what is hashed, byte by byte

What is hashed of a list of texts is their number in eight bytes, and then their UTF-8
with separators between. The number alone does not tell lists apart, since it is cut to
eight bytes, and neither do the texts, since no text and one empty text are joined to
nothing. Together they do (`preimage_eq_iff`): only where there is nothing between
separators does the number have to decide, and there it is zero or one.

So two lists with the same fingerprint are the same list, or a collision of the hash.
`encoding_faithful` says so, and that a fingerprint is the digits of its digest.
-/

set_option autoImplicit false

namespace Idempotency

namespace Sha256

/-- The number that bytes stand for, the highest first. -/
def number (bytes : Bytes) : Nat := bytes.foldl (fun n b => n * 256 + b.toNat) 0

/-- Eight bytes hold a number up to multiples of `UInt64.size`. -/
theorem number_eightBytes (n : Nat) : number (eightBytes n) = n % UInt64.size := by
  have hbyte : ∀ m : Nat, (UInt8.ofNat m).toNat = m % 256 := fun m => UInt8.toNat_ofNat'
  simp only [number, eightBytes, List.map_cons, List.map_nil, List.foldl_cons, List.foldl_nil,
    hbyte, Nat.shiftRight_eq_div_pow, UInt64.size]
  omega

/-- A number is written as eight bytes, however large it is. -/
theorem length_eightBytes (n : Nat) : (eightBytes n).length = 8 := rfl

end Sha256

namespace Hex

/-- Whether the character is a digit that bytes are written in. -/
def isDigit (c : Char) : Bool := ('0' ≤ c && c ≤ '9') || ('a' ≤ c && c ≤ 'f')

/-- Each of the sixteen digits is a lower-case hexadecimal one. -/
theorem isDigit_digitChar : ∀ n < 16, isDigit (Nat.digitChar n) = true := by decide

/-- Bytes are written with such digits only. -/
theorem isDigit_of_mem_text {bytes : Bytes} {c : Char} (h : c ∈ text bytes) :
    isDigit c = true := by
  obtain ⟨b, -, hc⟩ := List.mem_flatMap.1 h
  have hb : b.toNat < 256 := b.toNat_lt
  simp only [byteText, List.mem_cons, List.not_mem_nil, or_false] at hc
  rcases hc with rfl | rfl
  · exact isDigit_digitChar _ (by omega)
  · exact isDigit_digitChar _ (by omega)

/-- Each byte takes two digits. -/
theorem length_text (bytes : Bytes) : (text bytes).length = 2 * bytes.length := by
  induction bytes with
  | nil => rfl
  | cons b bytes ih =>
    rw [show text (b :: bytes) = byteText b ++ text bytes from rfl, List.length_append, ih,
      List.length_cons]
    show 2 + 2 * bytes.length = _
    omega

end Hex

namespace Fingerprint

variable {values others : List String}

/-- The texts are joined by single separators. -/
theorem joined_eq_intercalate (values : List String) :
    joined values = [separator].intercalate (values.map Text.encodeString) := by
  induction values with
  | nil => rfl
  | cons value values ih =>
    cases values with
    | nil => simp [joined]
    | cons next values =>
      rw [joined_cons_cons, ih]
      simp only [List.map_cons, List.intercalate_cons_cons, List.append_assoc,
        List.singleton_append]

/-- What is hashed of no text is hashed of no other list: one text has another number,
and several have a separator. -/
theorem eq_nil_of_preimage (h : preimage [] = preimage values) : values = [] := by
  obtain ⟨hcount, hjoined⟩ := List.append_inj h rfl
  cases values with
  | nil => rfl
  | cons value values =>
    cases values with
    | nil => exact absurd hcount (show ¬ Sha256.eightBytes 0 = Sha256.eightBytes 1 by decide)
    | cons next values =>
      rw [joined_cons_cons] at hjoined
      exact absurd hjoined.symm (by simp [joined])

/-- What is hashed says which texts there are, and in which order. -/
theorem preimage_eq_iff : preimage values = preimage others ↔ values = others := by
  refine ⟨fun h => ?_, congrArg preimage⟩
  by_cases hvalues : values = []
  · subst hvalues
    exact (eq_nil_of_preimage h).symm
  · by_cases hothers : others = []
    · subst hothers
      exact eq_nil_of_preimage h.symm
    · exact preimage_inj hvalues hothers h

/-- Lists have the same fingerprint if they are the same, or if the hash collides on what
is hashed of them. -/
theorem ofValues_eq_iff : ofValues values = ofValues others
    ↔ values = others ∨ preimage values ≠ preimage others
      ∧ sha256 (preimage values) = sha256 (preimage others) := by
  constructor
  · intro h
    have hdigest : sha256 (preimage values) = sha256 (preimage others) :=
      Hex.text_inj (String.ofList_inj.1 h)
    by_cases hsame : values = others
    · exact .inl hsame
    · exact .inr ⟨fun hpreimage => hsame (preimage_eq_iff.1 hpreimage), hdigest⟩
  · rintro (rfl | ⟨-, hdigest⟩)
    · rfl
    · rw [ofValues, hdigest, ofValues]

/-- A fingerprint is faithful to its texts, up to the hash. What is hashed is their
number, in eight bytes with the highest first, and their UTF-8 with a separator between
each two. It says which texts there are, so that different lists with one fingerprint
are a collision of the hash. The fingerprint itself has sixty-four digits of lower case,
which read back as the thirty-two bytes of the digest. -/
theorem encoding_faithful (values others : List String) :
    (∃ count, preimage values
        = count ++ [separator].intercalate (values.map Text.encodeString)
      ∧ count.length = 8 ∧ Sha256.number count = values.length % UInt64.size)
    ∧ (preimage values = preimage others ↔ values = others)
    ∧ (ofValues values = ofValues others ↔ values = others ∨ preimage values ≠ preimage others
      ∧ sha256 (preimage values) = sha256 (preimage others))
    ∧ (ofValues values).length = 64
    ∧ (∀ c ∈ (ofValues values).toList, Hex.isDigit c = true)
    ∧ Hex.read? (ofValues values).toList = some (sha256 (preimage values))
    ∧ (sha256 (preimage values)).length = 32 := by
  have hdigits : (ofValues values).toList = Hex.text (sha256 (preimage values)) :=
    String.toList_ofList
  refine ⟨⟨Sha256.eightBytes values.length, ?_, Sha256.length_eightBytes _,
    Sha256.number_eightBytes _⟩, preimage_eq_iff, ofValues_eq_iff, ?_, ?_, ?_,
    Sha256.length_digest _⟩
  · rw [preimage, joined_eq_intercalate]
  · rw [← String.length_toList, hdigits, Hex.length_text, Sha256.length_digest]
  · intro c hc
    rw [hdigits] at hc
    exact Hex.isDigit_of_mem_text hc
  · rw [hdigits, Hex.read?_text]

end Fingerprint

end Idempotency

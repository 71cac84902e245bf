import Idempotency.Fingerprint
import Idempotency.Proofs.Text.Utf8

/-!
# `Idempotency.Proofs.Fingerprint`: fingerprints tell requests apart

What is hashed of a list of texts says which texts they are
(`preimage_inj`): the separator is in no text, so that texts can be taken off the
front one by one (`joined_inj`). The digits of a digest say which digest it is
(`Hex.read?_text`). So two requests have the same fingerprint exactly if they have the
same texts, unless the hash collides on them (`ofRequest_eq_iff`).
-/

set_option autoImplicit false

namespace Idempotency

namespace Hex

/-- Each of the sixteen digits reads back as its value. -/
theorem digit?_digitChar : ∀ n < 16, digit? (Nat.digitChar n) = some n := by decide

/-- The digits of bytes are read as these bytes. -/
theorem read?_text (bytes : Bytes) : read? (text bytes) = some bytes := by
  induction bytes with
  | nil => rfl
  | cons b bytes ih =>
    have hb : b.toNat < 256 := b.toNat_lt
    have hvalue : UInt8.ofNat (b.toNat / 16 * 16 + b.toNat % 16) = b := by
      rw [Nat.div_add_mod', UInt8.ofNat_toNat]
    show read? (Nat.digitChar (b.toNat / 16) :: Nat.digitChar (b.toNat % 16) :: text bytes) = _
    rw [read?, digit?_digitChar _ (by omega), digit?_digitChar _ (by omega), ih]
    show some (UInt8.ofNat (b.toNat / 16 * 16 + b.toNat % 16) :: bytes) = _
    rw [hvalue]

/-- Different bytes have different hexadecimal texts. -/
theorem text_inj {a b : Bytes} (h : text a = text b) : a = b := by
  have hread := congrArg read? h
  rw [read?_text, read?_text] at hread
  exact Option.some.inj hread

end Hex

namespace Fingerprint

variable {values others : List String}

/-- The byte that separates the values is in no text. -/
theorem separator_notMem (value : String) : separator ∉ Text.encodeString value := fun h =>
  absurd (Text.toNat_lt_of_mem_encode h) (by decide)

/-- Two values have the separator between them. -/
theorem joined_cons_cons (value next : String) (values : List String) :
    joined (value :: next :: values)
      = Text.encodeString value ++ separator :: joined (next :: values) := rfl

/-- What stands before the first separator ends there. -/
theorem append_separator_inj {a b x y : Bytes} (ha : separator ∉ a) (hb : separator ∉ b)
    (h : a ++ separator :: x = b ++ separator :: y) : a = b ∧ x = y := by
  induction a generalizing b with
  | nil =>
    cases b with
    | nil => exact ⟨rfl, (List.cons.inj h).2⟩
    | cons head b =>
      rw [(List.cons.inj h).1] at hb
      exact absurd List.mem_cons_self hb
  | cons head a ih =>
    cases b with
    | nil =>
      rw [(List.cons.inj h).1] at ha
      exact absurd List.mem_cons_self ha
    | cons head' b =>
      obtain ⟨hhead, hrest⟩ := List.cons.inj h
      obtain ⟨hsame, hafter⟩ := ih (fun hmem => ha (List.mem_cons_of_mem _ hmem))
        (fun hmem => hb (List.mem_cons_of_mem _ hmem)) hrest
      exact ⟨by rw [hhead, hsame], hafter⟩

/-- What is joined says which texts there are, if there are any. -/
theorem joined_inj (hvalues : values ≠ []) (hothers : others ≠ [])
    (h : joined values = joined others) : values = others := by
  induction values generalizing others with
  | nil => exact absurd rfl hvalues
  | cons value rest ih =>
    obtain ⟨other, rest', rfl⟩ := List.exists_cons_of_ne_nil hothers
    -- A separator ends the first text, or there is none and no other text.
    cases rest with
    | nil =>
      cases rest' with
      | nil => rw [Text.encodeString_inj h]
      | cons next' more' =>
        rw [joined_cons_cons] at h
        refine absurd ?_ (separator_notMem value)
        rw [show Text.encodeString value = _ from h]
        simp
    | cons next more =>
      cases rest' with
      | nil =>
        rw [joined_cons_cons] at h
        refine absurd ?_ (separator_notMem other)
        rw [show Text.encodeString other = _ from h.symm]
        simp
      | cons next' more' =>
        rw [joined_cons_cons, joined_cons_cons] at h
        obtain ⟨hvalue, hrest⟩ :=
          append_separator_inj (separator_notMem value) (separator_notMem other) h
        rw [Text.encodeString_inj hvalue, ih (List.cons_ne_nil _ _) (List.cons_ne_nil _ _) hrest]

/-- What is hashed says which texts there are, if there are any. -/
theorem preimage_inj (hvalues : values ≠ []) (hothers : others ≠ [])
    (h : preimage values = preimage others) : values = others :=
  joined_inj hvalues hothers (List.append_inj_right h rfl)

/-- The operation is always among the texts that are hashed. -/
theorem fields_ne_nil (operation : String) (parts : List Part) : fields operation parts ≠ [] :=
  List.cons_ne_nil _ _

/-- Requests have the same fingerprint exactly if they have the same texts, unless
the hash collides on what is hashed of them. -/
theorem ofRequest_eq_iff {operation operation' : String} {parts parts' : List Part}
    (hcollide : sha256 (preimage (fields operation parts))
        = sha256 (preimage (fields operation' parts')) →
      preimage (fields operation parts) = preimage (fields operation' parts')) :
    ofRequest operation parts = ofRequest operation' parts'
      ↔ fields operation parts = fields operation' parts' := by
  constructor
  · intro h
    have hdigest : sha256 (preimage (fields operation parts))
        = sha256 (preimage (fields operation' parts')) :=
      Hex.text_inj (String.ofList_inj.1 h)
    exact preimage_inj (fields_ne_nil _ _) (fields_ne_nil _ _) (hcollide hdigest)
  · intro h
    rw [ofRequest, h, ofRequest]

end Fingerprint

end Idempotency

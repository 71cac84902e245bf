import Idempotency.Proofs.Decimal.Shortest
import Idempotency.Proofs.Decimal.Whole

/-!
# `Idempotency.Proofs.Decimal.Layout`: the text of a double tells which one it is

Digits can be laid out in more than one way, with the point in its place or with an
exponent, and different digits can come to one text, as `12` and `120` over ten do. What
the text always keeps is the number (`spells_write`, `Spells.value_eq`).

The number of a finite double rounds to that double and to no other one, so no two of
them have one text (`text_inj`).
-/

set_option autoImplicit false

namespace Idempotency.Decimal

variable {l : Layout} {d : Digits} {cs ds : List Char} {c : Char} {x y : ℚ}

/-- The number that a run of digits stands for. -/
def natural (ds : List Char) : Nat := Nat.ofDigitChars 10 ds 0

/-- An exponent with its sign. -/
def exponentText (e : Int) : List Char :=
  (if 0 ≤ e then '+' else '-') :: decimal e.natAbs

/-- The text spells the number: with digits on both sides of a point, or with one digit
before it, and then an exponent. -/
inductive Spells : List Char → ℚ → Prop
  | plain {whole decimals : List Char} (hwhole : whole ≠ [])
    (hdigits : ∀ c ∈ whole ++ decimals, c.isDigit = true) :
    Spells (whole ++ '.' :: decimals)
      (natural (whole ++ decimals) * 10 ^ (-decimals.length : Int))
  | whole {first : Char} (hfirst : first.isDigit = true) (e : Int) :
    Spells (first :: 'e' :: exponentText e) (natural [first] * 10 ^ e)
  | scaled {first : Char} {decimals : List Char} (hfirst : first.isDigit = true)
    (hdigits : ∀ c ∈ decimals, c.isDigit = true) (e : Int) :
    Spells (first :: '.' :: decimals ++ 'e' :: exponentText e)
      (natural (first :: decimals) * 10 ^ (e - decimals.length))

/-! ### Reading the number off the text -/

/-- What stands before the first of the characters, and what stands after it. -/
def cut (c : Char) : List Char → List Char × List Char
  | [] => ([], [])
  | d :: cs => if d = c then ([], cs) else (d :: (cut c cs).1, (cut c cs).2)

/-- A text is cut at the first of the characters. -/
theorem cut_append (h : c ∉ cs) (ds : List Char) : cut c (cs ++ c :: ds) = (cs, ds) := by
  induction cs with
  | nil => simp [cut]
  | cons d cs ih =>
    have hd : ¬ d = c := fun heq => h (heq ▸ List.mem_cons_self)
    rw [List.cons_append, cut, if_neg hd, ih fun hmem => h (List.mem_cons_of_mem d hmem)]

/-- Without the character, all of the text stands before it. -/
theorem cut_of_not_mem (h : c ∉ cs) : cut c cs = (cs, []) := by
  induction cs with
  | nil => rfl
  | cons d cs ih =>
    have hd : ¬ d = c := fun heq => h (heq ▸ List.mem_cons_self)
    rw [cut, if_neg hd, ih fun hmem => h (List.mem_cons_of_mem d hmem)]

/-- An integer with its sign; no text is zero. -/
def signed : List Char → Int
  | '-' :: ds => -natural ds
  | '+' :: ds => natural ds
  | _ => 0

/-- The number that a text spells. -/
def valueOf (cs : List Char) : ℚ :=
  let mantissa := cut '.' (cut 'e' cs).1
  natural (mantissa.1 ++ mantissa.2) * 10 ^ (signed (cut 'e' cs).2 - mantissa.2.length)

/-- The digits of a number stand for it. -/
theorem natural_decimal (n : Nat) : natural (decimal n) = n := ofDigitChars_decimal n

/-- The text of an exponent stands for it. -/
theorem signed_exponentText (e : Int) : signed (exponentText e) = e := by
  unfold exponentText
  split
  · show ((natural (decimal e.natAbs) : Nat) : Int) = e
    rw [natural_decimal]
    omega
  · show -((natural (decimal e.natAbs) : Nat) : Int) = e
    rw [natural_decimal]
    omega

/-- What is no digit is in no run of digits. -/
theorem not_mem_of_digits (h : ∀ a ∈ cs, a.isDigit = true) (hc : c.isDigit = false) : c ∉ cs := by
  intro hmem
  rw [h c hmem] at hc
  cases hc

/-- A text spells one number only. -/
theorem Spells.value_eq (h : Spells cs x) : valueOf cs = x := by
  -- Neither mark is a digit, so the text is cut where it was put together.
  cases h with
  | @plain whole decimals hwhole hdigits =>
    have hpoint : '.' ∉ whole := not_mem_of_digits
      (fun a ha => hdigits a (List.mem_append_left _ ha)) (by decide)
    have hletter : 'e' ∉ whole ++ '.' :: decimals := by
      have hdigit := not_mem_of_digits (c := 'e') hdigits (by decide)
      simpa using hdigit
    rw [valueOf, cut_of_not_mem hletter, cut_append hpoint]
    simp [signed]
  | @whole first hfirst e =>
    have hfirst' : ∀ a ∈ [first], a.isDigit = true := by simpa using hfirst
    have hletter : 'e' ∉ [first] := not_mem_of_digits hfirst' (by decide)
    have hpoint : '.' ∉ [first] := not_mem_of_digits hfirst' (by decide)
    have hcut := cut_append hletter (exponentText e)
    rw [List.singleton_append] at hcut
    rw [valueOf, hcut, cut_of_not_mem hpoint, signed_exponentText]
    simp
  | @scaled first decimals hfirst hdigits e =>
    have hfirst' : ∀ a ∈ [first], a.isDigit = true := by simpa using hfirst
    have hpoint : '.' ∉ [first] := not_mem_of_digits hfirst' (by decide)
    have hletter : 'e' ∉ first :: '.' :: decimals := by
      have hdigit := not_mem_of_digits (c := 'e') hdigits (by decide)
      have hhead := not_mem_of_digits (c := 'e') hfirst' (by decide)
      simp only [List.mem_singleton] at hhead
      simp [hdigit, hhead]
    have hcut := cut_append hpoint decimals
    rw [List.singleton_append] at hcut
    rw [valueOf, cut_append hletter, hcut, signed_exponentText]
    rfl

/-! ### Writing -/

/-- Each zero after the digits makes the number ten times as large. -/
theorem natural_append_zeros (ds : List Char) (n : Nat) :
    natural (ds ++ zeros n) = 10 ^ n * natural ds := by
  rw [natural, Nat.ofDigitChars_append, zeros, Nat.ofDigitChars_replicate_zero, natural]

/-- Zeros before the digits do not count. -/
theorem natural_zeros_append (n : Nat) (ds : List Char) : natural (zeros n ++ ds) = natural ds := by
  rw [natural, Nat.ofDigitChars_append, zeros, Nat.ofDigitChars_replicate_zero, Nat.mul_zero,
    natural]

/-- Zeros are digits. -/
theorem isDigit_zeros {n : Nat} (h : c ∈ zeros n) : c.isDigit = true := by
  rw [List.eq_of_mem_replicate h]
  rfl

/-- Zeros after the digits fill up to the point. -/
theorem spells_filled (n e : Nat) :
    Spells (decimal n ++ zeros e ++ ['.', '0']) (n * 10 ^ (e : Int)) := by
  have hdigits : ∀ c ∈ decimal n ++ zeros e ++ ['0'], c.isDigit = true := by
    intro c hc
    simp only [List.mem_append, List.mem_singleton] at hc
    rcases hc with (hc | hc) | rfl
    · exact isDigit_of_mem_decimal hc
    · exact isDigit_zeros hc
    · rfl
  have hspells := Spells.plain (by simp [decimal_ne_nil]) hdigits
  have hvalue : natural (decimal n ++ zeros e ++ ['0']) = 10 * (10 ^ e * n) := by
    rw [show ['0'] = zeros 1 from rfl, natural_append_zeros, natural_append_zeros, natural_decimal,
      pow_one]
  rw [hvalue] at hspells
  convert hspells using 1
  rw [zpow_natCast]
  push_cast
  norm_num
  ring

/-- The point stands between the digits. -/
theorem spells_divided {n k : Nat} (hpos : 0 < k) (hlt : k ≤ (decimal n).length) :
    Spells ((decimal n).take k ++ '.' :: (decimal n).drop k)
      (n * 10 ^ ((k : Int) - (decimal n).length)) := by
  have hwhole : (decimal n).take k ≠ [] := by
    rw [Ne, List.take_eq_nil_iff, not_or]
    exact ⟨Nat.ne_of_gt hpos, decimal_ne_nil n⟩
  have hdigits : ∀ c ∈ (decimal n).take k ++ (decimal n).drop k, c.isDigit = true := by
    rw [List.take_append_drop]
    exact fun c hc => isDigit_of_mem_decimal hc
  have hspells := Spells.plain hwhole hdigits
  rw [List.take_append_drop, natural_decimal, List.length_drop] at hspells
  rwa [show (k : Int) - (decimal n).length = -(((decimal n).length - k : Nat) : Int) by omega]

/-- Zeros before the digits fill up from the point. -/
theorem spells_small (n k : Nat) :
    Spells ('0' :: '.' :: zeros k ++ decimal n)
      (n * 10 ^ (-((k : Int) + (decimal n).length))) := by
  have hdigits : ∀ c ∈ ['0'] ++ (zeros k ++ decimal n), c.isDigit = true := by
    intro c hc
    simp only [List.mem_append, List.mem_singleton] at hc
    rcases hc with rfl | hc | hc
    · rfl
    · exact isDigit_zeros hc
    · exact isDigit_of_mem_decimal hc
  have hspells := Spells.plain (by simp) hdigits
  have hvalue : natural (['0'] ++ (zeros k ++ decimal n)) = n := by
    rw [show ['0'] = zeros 1 from rfl, natural_zeros_append, natural_zeros_append, natural_decimal]
  rw [hvalue, List.length_append, zeros, List.length_replicate] at hspells
  exact_mod_cast hspells

/-- An exponent says where the point would be. -/
theorem spells_scaled (n : Nat) (e : Int) :
    Spells
      ((match decimal n with
        | first :: second :: rest => first :: '.' :: second :: rest
        | ds => ds) ++ 'e' :: exponentText e)
      (n * 10 ^ (e - ((decimal n).length - 1 : Int))) := by
  have hdigits : ∀ c ∈ decimal n, c.isDigit = true := fun c hc => isDigit_of_mem_decimal hc
  have hvalue := natural_decimal n
  have hne := decimal_ne_nil n
  generalize decimal n = ds at *
  match ds with
  | [] => exact absurd rfl hne
  | [first] =>
    have hspells := Spells.whole (hdigits first List.mem_cons_self) e
    rw [hvalue] at hspells
    simpa using hspells
  | first :: second :: rest =>
    have hspells := Spells.scaled (hdigits first List.mem_cons_self)
      (fun c hc => hdigits c (List.mem_cons_of_mem first hc)) e
    rw [hvalue] at hspells
    simpa using hspells

/-- However digits are laid out, the text spells their number. -/
theorem spells_write (l : Layout) (d : Digits) : Spells (l.write d) d.value := by
  have hpos : 0 < (decimal d.digits).length := List.length_pos_iff.2 (decimal_ne_nil d.digits)
  unfold Layout.write Digits.value
  simp only
  split
  · -- The point stands behind the digits, between them, or in front of them.
    split
    · next hexponent =>
      have hspells := spells_filled d.digits d.exponent.toNat
      rwa [Int.toNat_of_nonneg hexponent] at hspells
    split
    · next hexponent hleading =>
      have hspells := spells_divided (n := d.digits)
        (k := (d.exponent + (decimal d.digits).length - 1).toNat + 1) (by omega) (by omega)
      convert hspells using 3
      omega
    · next hexponent hleading =>
      have hspells := spells_small d.digits
        (-(d.exponent + (decimal d.digits).length - 1) - 1).toNat
      convert hspells using 3
      omega
  · have hspells := spells_scaled d.digits (d.exponent + (decimal d.digits).length - 1)
    rw [show d.exponent + (decimal d.digits).length - 1 - ((decimal d.digits).length - 1)
      = d.exponent by omega] at hspells
    exact hspells

/-! ### Characters -/

/-- The characters that numbers are written in. -/
def isNumeral (c : Char) : Bool := c.isDigit || c == '-' || c == '+' || c == '.' || c == 'e'

/-- Digits are characters of numbers. -/
theorem isNumeral_digit (h : c.isDigit = true) : isNumeral c = true := by simp [isNumeral, h]

/-- So are the characters of an exponent. -/
theorem isNumeral_exponentText {e : Int} (h : c ∈ exponentText e) : isNumeral c = true := by
  rcases List.mem_cons.1 h with rfl | h
  · split <;> decide
  · exact isNumeral_digit (isDigit_of_mem_decimal h)

/-- A text that spells a number has characters of numbers only. -/
theorem Spells.isNumeral_of_mem (h : Spells cs x) (hc : c ∈ cs) : isNumeral c = true := by
  cases h with
  | @plain whole decimals hwhole hdigits =>
    rcases List.mem_append.1 hc with hc | hc
    · exact isNumeral_digit (hdigits c (List.mem_append_left _ hc))
    · rcases List.mem_cons.1 hc with rfl | hc
      · rfl
      · exact isNumeral_digit (hdigits c (List.mem_append_right _ hc))
  | @whole first hfirst e =>
    simp only [List.mem_cons] at hc
    rcases hc with rfl | rfl | hc
    · exact isNumeral_digit hfirst
    · rfl
    · exact isNumeral_exponentText hc
  | @scaled first decimals hfirst hdigits e =>
    simp only [List.cons_append, List.mem_cons, List.mem_append] at hc
    rcases hc with rfl | rfl | hc | rfl | hc
    · exact isNumeral_digit hfirst
    · rfl
    · exact isNumeral_digit (hdigits c hc)
    · rfl
    · exact isNumeral_exponentText hc

/-- The text has a point or an exponent. -/
theorem Spells.marked (h : Spells cs x) : '.' ∈ cs ∨ 'e' ∈ cs := by
  cases h with
  | plain => exact .inl (by simp)
  | whole => exact .inr (by simp)
  | scaled => exact .inl (by simp)

/-- The text starts with a digit. -/
theorem Spells.exists_head (h : Spells cs x) : ∃ c ds, cs = c :: ds ∧ c.isDigit = true := by
  cases h with
  | @plain whole decimals hwhole hdigits =>
    obtain ⟨c, ds, rfl⟩ := List.exists_cons_of_ne_nil hwhole
    exact ⟨c, ds ++ '.' :: decimals, rfl, hdigits c (by simp)⟩
  | whole hfirst => exact ⟨_, _, rfl, hfirst⟩
  | scaled hfirst => exact ⟨_, _, rfl, hfirst⟩

/-! ### Doubles -/

/-- The text of a magnitude. -/
def Layout.magnitudeText (l : Layout) (m : Nat) : List Char :=
  if m = 0 then ['0', '.', '0'] else l.write (shortest m)

/-- A double is written as its sign, if it is negative, and the text of its magnitude. -/
theorem text_eq (l : Layout) (a : Double) :
    l.text a = (if a.isNegative then ['-'] else []) ++ l.magnitudeText a.magnitude := by
  unfold Layout.text Layout.magnitudeText
  by_cases hzero : a.magnitude = 0
  · simp only [hzero, if_true]
  · simp only [hzero, if_false]

/-- The text of a finite magnitude spells a number that rounds to it. -/
theorem exists_spells (l : Layout) {m : Nat} (h : m < Double.infinityBits) :
    ∃ x, Spells (l.magnitudeText m) x ∧ (Target.ofMagnitude m).Contains x := by
  unfold Layout.magnitudeText
  split
  · next hzero =>
    subst hzero
    have hspells := spells_filled 0 0
    rw [Nat.cast_zero, zero_mul] at hspells
    refine ⟨0, hspells, ?_⟩
    have hlow : (Target.ofMagnitude 0).lowEnd = 0 := by
      show ((0 : Nat) : ℚ) * _ = 0
      rw [Nat.cast_zero, zero_mul]
    have hhigh : 0 < upTo 0 := hlow ▸ lowEnd_lt_upTo 0
    have hclosed : (Target.ofMagnitude 0).closed = true := closed_ofMagnitude 0
    exact ⟨hlow.le, hhigh.le, by simp [hclosed], by simp [hclosed]⟩
  · exact ⟨_, spells_write l _, shortest_contains h⟩

/-- Finite magnitudes with one text are equal, since the text spells a number that
rounds to both. -/
theorem magnitudeText_inj {m n : Nat} (hm : m < Double.infinityBits) (hn : n < Double.infinityBits)
    (h : l.magnitudeText m = l.magnitudeText n) : m = n := by
  obtain ⟨x, hx, hmx⟩ := exists_spells l hm
  obtain ⟨y, hy, hny⟩ := exists_spells l hn
  have hxy : x = y := by rw [← hx.value_eq, h, hy.value_eq]
  exact eq_of_contains hmx (hxy ▸ hny)

/-- The sign and the magnitude make up a double. -/
theorem eq_of_magnitude {a b : Double} (hsign : a.isNegative = b.isNegative)
    (hmagnitude : a.magnitude = b.magnitude) : a = b := by
  have ha := a.bits.toNat_lt
  have hb := b.bits.toNat_lt
  have hbits : a.bits.toNat = b.bits.toNat := by
    simp only [Double.isNegative, Double.magnitude, decide_eq_decide, Double.signBit] at *
    omega
  obtain ⟨a⟩ := a
  obtain ⟨b⟩ := b
  exact congrArg Double.mk (UInt64.toNat_inj.1 hbits)

/-- Different finite doubles have different texts. -/
theorem text_inj {a b : Double} (ha : a.isFinite = true) (hb : b.isFinite = true)
    (h : l.text a = l.text b) : a = b := by
  have hma : a.magnitude < Double.infinityBits := by simpa [Double.isFinite] using ha
  have hmb : b.magnitude < Double.infinityBits := by simpa [Double.isFinite] using hb
  rw [text_eq, text_eq] at h
  obtain ⟨x, hx, -⟩ := exists_spells l hma
  obtain ⟨y, hy, -⟩ := exists_spells l hmb
  obtain ⟨c, cs, hc, hcdigit⟩ := hx.exists_head
  obtain ⟨d, ds, hd, hddigit⟩ := hy.exists_head
  -- A sign is no digit, so both texts have one or neither has.
  have hsign : a.isNegative = b.isNegative := by
    cases hna : a.isNegative <;> cases hnb : b.isNegative <;> simp only [hna, hnb] at h ⊢
    · rw [hc] at h
      obtain rfl := (List.cons.inj h).1
      exact absurd hcdigit (by decide)
    · rw [hd] at h
      obtain rfl := (List.cons.inj h).1
      exact absurd hddigit (by decide)
  rw [hsign] at h
  exact eq_of_magnitude hsign (magnitudeText_inj hma hmb (List.append_cancel_left h))

end Idempotency.Decimal

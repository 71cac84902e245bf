import Mathlib.Data.List.Forall2
import Idempotency.Proofs.Decimal.Whole
import Idempotency.Proofs.Fingerprint.Encoding
import Idempotency.Proofs.Text.LowerCase

/-!
# `Idempotency.Proofs.Fingerprint.Standard`: the standard form of a request

A request is told step by step: first its operation, and then its parts, each of which
adds one text in standard form (`fields_eq_foldl`). Blanks around a part do not show
(`Part.text_pad`), and a text in standard form stays as it is, also in lower case
(`Part.text_field_text`, `Part.text_normalized_text`). So a request may be told from what
was told of it before.

What is hashed says which texts there are, so a part that is left out always shows, and
two parts that change places show unless they have the same text. `standard_form` has all
of this together.
-/

set_option autoImplicit false

namespace Idempotency

namespace Text

variable {cs : List Char}

/-- A text without blanks is trimmed. -/
theorem trimmed_of_forall (h : ∀ c ∈ cs, isBlank c = false) : Trimmed cs :=
  ⟨fun c hc => h c (List.mem_of_head? hc), fun c hc => h c (List.mem_of_getLast? hc)⟩

/-- A text that has been trimmed has no blanks at its ends. -/
theorem trimmed_toList_trim (s : String) : Trimmed (trim s).toList := by
  rw [trim, String.toList_ofList]
  exact trimmed_trimChars _

/-- Lower case brings no blanks to the ends of a text. -/
theorem trimmed_toList_lower {s : String} (h : Trimmed s.toList) : Trimmed (lower s).toList := by
  rw [lower, String.toList_ofList]
  exact h.lowerChars

/-- There is nothing to trim from a text without blanks at its ends. -/
theorem trim_eq_self {s : String} (h : Trimmed s.toList) : trim s = s := by
  rw [trim, h.trimChars_eq, String.ofList_toList]

/-- A text in lower case stays as it is. -/
theorem lower_lower (s : String) : lower (lower s) = lower s := by
  rw [lower, lower, String.toList_ofList, lowerChars_lowerChars]

/-- Blanks around a text do not show once it is trimmed. -/
theorem trim_padded {before after : String} (hbefore : before.toList.all isBlank = true)
    (hafter : after.toList.all isBlank = true) (s : String) :
    trim (before ++ s ++ after) = trim s := by
  rw [trim, String.toList_append, String.toList_append,
    trimChars_padded (List.all_eq_true.1 hbefore) (List.all_eq_true.1 hafter), trim]

end Text

namespace Part

/-- The part with more around its text, if it has a text of its own. -/
def pad (before after : String) : Part → Part
  | .field value => .field (before ++ value ++ after)
  | .normalized value => .normalized (before ++ value ++ after)
  | .optional (some value) => .optional (some (before ++ value ++ after))
  | part => part

/-- The other part is the part, but for blanks around its text. -/
def Padded (part other : Part) : Prop :=
  ∃ before after : String, before.toList.all Text.isBlank = true
    ∧ after.toList.all Text.isBlank = true ∧ other = part.pad before after

/-- Blanks around a part do not show in its standard form. -/
theorem text_pad {before after : String} (hbefore : before.toList.all Text.isBlank = true)
    (hafter : after.toList.all Text.isBlank = true) (part : Part) :
    (part.pad before after).text = part.text := by
  cases part with
  | field value => exact Text.trim_padded hbefore hafter value
  | normalized value => exact congrArg Text.lower (Text.trim_padded hbefore hafter value)
  | flag value => rfl
  | number value => rfl
  | optional value =>
    cases value with
    | none => rfl
    | some value => exact Text.trim_padded hbefore hafter value

/-- There are no blanks in the text of a number. -/
theorem isBlank_of_mem_integer {i : Int} {c : Char} (h : c ∈ Decimal.integer i) :
    Text.isBlank c = false := by
  rcases Decimal.mem_integer h with rfl | hdigit
  · rfl
  · exact Decimal.isBlank_digit hdigit

/-- There is nothing to trim from a text in standard form. -/
theorem trimmed_text (part : Part) : Text.Trimmed part.text.toList := by
  cases part with
  | field value => exact Text.trimmed_toList_trim value
  | normalized value => exact Text.trimmed_toList_lower (Text.trimmed_toList_trim value)
  | flag value =>
    cases value with
    | true => exact ⟨by rintro c ⟨⟩; rfl, by rintro c ⟨⟩; rfl⟩
    | false => exact ⟨by rintro c ⟨⟩; rfl, by rintro c ⟨⟩; rfl⟩
  | number value =>
    rw [text, String.toList_ofList]
    exact Text.trimmed_of_forall fun _ => isBlank_of_mem_integer
  | optional value => exact Text.trimmed_toList_trim _

/-- A text in standard form stays as it is as a field. -/
theorem text_field_text (part : Part) : (field part.text).text = part.text :=
  Text.trim_eq_self part.trimmed_text

/-- A normalized text stays as it is when it is normalized again. -/
theorem text_normalized_text (value : String) :
    (normalized (normalized value).text).text = (normalized value).text := by
  show Text.lower (Text.trim (normalized value).text) = _
  rw [Text.trim_eq_self (trimmed_text (normalized value))]
  exact Text.lower_lower (Text.trim value)

/-- The text of a number says which number it is. -/
theorem text_number_inj {i k : Int} (h : (number i).text = (number k).text) : i = k :=
  Decimal.integer_inj (String.ofList_inj.1 h)

end Part

namespace Fingerprint

variable {operation : String} {parts others front between rest : List Part} {a b : Part}

/-- The texts of a request are collected part by part. -/
theorem fields_eq_foldl (operation : String) (parts : List Part) :
    fields operation parts
      = parts.foldl (fun values part => values ++ [part.text]) [operation] := by
  suffices hfrom : ∀ values : List String,
      parts.foldl (fun values part => values ++ [part.text]) values
        = values ++ parts.map Part.text from (hfrom [operation]).symm
  induction parts with
  | nil => exact fun values => (List.append_nil values).symm
  | cons part parts ih =>
    intro values
    rw [List.foldl_cons, ih, List.append_assoc]
    rfl

/-- There is one text for the operation and one for each part. -/
theorem length_fields (operation : String) (parts : List Part) :
    (fields operation parts).length = parts.length + 1 := by
  rw [fields, List.length_cons, List.length_map]

/-- Blanks around parts do not show. -/
theorem fields_padded (h : List.Forall₂ Part.Padded parts others) :
    fields operation others = fields operation parts := by
  have htexts : others.map Part.text = parts.map Part.text := by
    induction h with
    | nil => rfl
    | cons hpart _ ih =>
      obtain ⟨before, after, hbefore, hafter, rfl⟩ := hpart
      rw [List.map_cons, List.map_cons, Part.text_pad hbefore hafter, ih]
  rw [fields, htexts, fields]

/-- The fingerprint of a request is the digest of its texts, in digits. -/
theorem read?_ofRequest (operation : String) (parts : List Part) :
    Hex.read? (ofRequest operation parts).toList
      = some (sha256 (preimage (fields operation parts))) := by
  rw [ofRequest, ofValues, String.toList_ofList, Hex.read?_text]

/-- A part that is left out shows. -/
theorem preimage_ne_of_drop (operation : String) (front rest : List Part) (a : Part) :
    preimage (fields operation (front ++ a :: rest))
      ≠ preimage (fields operation (front ++ rest)) := by
  intro h
  have hlength := congrArg List.length (preimage_eq_iff.1 h)
  simp only [length_fields, List.length_append, List.length_cons] at hlength
  omega

/-- Parts that change places show, unless they have the same text. -/
theorem preimage_swap_iff (operation : String) (front between rest : List Part) (a b : Part) :
    preimage (fields operation (front ++ a :: (between ++ b :: rest)))
        = preimage (fields operation (front ++ b :: (between ++ a :: rest)))
      ↔ a.text = b.text := by
  rw [preimage_eq_iff]
  simp only [fields, List.map_append, List.map_cons, List.cons.injEq, true_and,
    List.append_cancel_left_eq]
  constructor
  · exact fun h => h.1
  · intro h
    rw [h]
    exact ⟨rfl, rfl, trivial⟩

/-- The standard form of a request. The parts are told one by one, and each adds one text
to the operation, which stays as it is. The fingerprint is that of these texts: its digits
are read as the digest of what is hashed of them.

- Blanks around parts do not show.
- A text in standard form stays as it is as a field, and a normalized text when it is
  normalized again.
- Different numbers have different texts.
- Requests are hashed alike only if they have the same texts. So other requests with the
  same fingerprint are a collision of the hash.
- A part that is left out, or added, always shows. Parts that change places show unless
  they have the same text. -/
theorem standard_form (operation : String) (parts : List Part) :
    (fields operation parts
          = parts.foldl (fun values part => values ++ [part.text]) [operation]
        ∧ (fields operation parts).length = parts.length + 1
        ∧ (fields operation parts).head? = some operation
        ∧ ofRequest operation parts = ofValues (fields operation parts)
        ∧ Hex.read? (ofRequest operation parts).toList
          = some (sha256 (preimage (fields operation parts))))
      ∧ (∀ others, List.Forall₂ Part.Padded parts others →
        fields operation others = fields operation parts)
      ∧ (∀ part : Part, (Part.field part.text).text = part.text)
      ∧ (∀ value, (Part.normalized (Part.normalized value).text).text
        = (Part.normalized value).text)
      ∧ (∀ i k, i ≠ k → (Part.number i).text ≠ (Part.number k).text)
      ∧ (∀ operation' others,
        (preimage (fields operation parts) = preimage (fields operation' others)
          ↔ fields operation parts = fields operation' others)
        ∧ (ofRequest operation parts = ofRequest operation' others
          ↔ fields operation parts = fields operation' others
            ∨ preimage (fields operation parts) ≠ preimage (fields operation' others)
              ∧ sha256 (preimage (fields operation parts))
                = sha256 (preimage (fields operation' others))))
      ∧ (∀ front a rest, parts = front ++ a :: rest →
        preimage (fields operation parts) ≠ preimage (fields operation (front ++ rest)))
      ∧ ∀ front a between b rest, parts = front ++ a :: (between ++ b :: rest) →
        (preimage (fields operation parts)
            = preimage (fields operation (front ++ b :: (between ++ a :: rest)))
          ↔ a.text = b.text) := by
  refine ⟨⟨fields_eq_foldl operation parts, length_fields operation parts, rfl, rfl,
    read?_ofRequest operation parts⟩, fun others => fields_padded, Part.text_field_text,
    Part.text_normalized_text, ?_, fun operation' others => ⟨preimage_eq_iff, ofValues_eq_iff⟩,
    ?_, ?_⟩
  · exact fun i k hne h => hne (Part.text_number_inj h)
  · rintro front a rest rfl
    exact preimage_ne_of_drop operation front rest a
  · rintro front a between b rest rfl
    exact preimage_swap_iff operation front between rest a b

/-- The blanks are a space, a line feed, a no-break space and an em space. The capital
sigma at the end of the word becomes the small sigma that ends words. -/
theorem standard_form_padded :
    fields "pay" [.field "\nuser 1\u00A0", .normalized "\u2003ΟΔΟΣ ", .number (-5), .optional none]
        = ["pay", "user 1", "οδος", "-5", ""]
      ∧ (Part.normalized "οδος").text = "οδος" := by
  have hpadded : List.Forall₂ Part.Padded
      [.field "user 1", .normalized "ΟΔΟΣ", .number (-5), .optional none]
      [.field "\nuser 1\u00A0", .normalized "\u2003ΟΔΟΣ ", .number (-5), .optional none] :=
    .cons ⟨"\n", "\u00A0", by decide, by decide, rfl⟩
      (.cons ⟨"\u2003", " ", by decide, by decide, rfl⟩
        (.cons ⟨"", "", rfl, rfl, rfl⟩ (.cons ⟨"", "", rfl, rfl, rfl⟩ .nil)))
  have hlower : (Part.normalized "ΟΔΟΣ").text = "οδος" := by decide +kernel
  obtain ⟨-, hfields, -, hnormalized, -⟩ := standard_form "pay"
    [.field "user 1", .normalized "ΟΔΟΣ", .number (-5), .optional none]
  refine ⟨(hfields _ hpadded).trans (by decide +kernel), ?_⟩
  have hagain := hnormalized "ΟΔΟΣ"
  rwa [hlower] at hagain

end Fingerprint

end Idempotency

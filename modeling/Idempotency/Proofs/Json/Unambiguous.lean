import Idempotency.Proofs.Decimal.Layout
import Idempotency.Proofs.Json.Same
import Idempotency.Proofs.Json.Reader

/-!
# `Idempotency.Proofs.Json.Unambiguous`: a text is the text of one value

Where the text of a value is followed by the end of what it stands in, the text says which
value it is, and where the value ends (`separable_text`). No reader is asked: values may be
nested to any depth, and of doubles the shortest digits are enough (`Number.text_inj`).

Numbers end where their characters do, strings at the closing mark. A list or an object is
taken apart item by item: after an item there is a comma or the closing bracket, and none
of them starts a value (`commaSeparated_inj`).
-/

set_option autoImplicit false

namespace Idempotency.Json

open Idempotency.Text (Symbol symbols)
open Idempotency.Decimal (isNumeral)

variable {c : Char} {xs ys r s : List Char}

/-- Written with this value in front, a text says that it is this value and what comes
after it. -/
def Separable {β : Type} (text : β → List Char) (x : β) : Prop :=
  ∀ (y : β) (r s : List Char), AtEnd (symbols r) → AtEnd (symbols s) →
    text x ++ r = text y ++ s → x = y ∧ r = s

/-! ### Numbers -/

/-- Runs of characters of one kind end where another kind starts. -/
theorem append_inj_of_run {kind : Char → Bool} (hxs : ∀ c ∈ xs, kind c = true)
    (hys : ∀ c ∈ ys, kind c = true) (hr : ∀ c more, r = c :: more → kind c = false)
    (hs : ∀ c more, s = c :: more → kind c = false) (h : xs ++ r = ys ++ s) : xs = ys ∧ r = s := by
  have htake : ∀ {xs r : List Char}, (∀ c ∈ xs, kind c = true) →
      (∀ c more, r = c :: more → kind c = false) → (xs ++ r).takeWhile kind = xs := by
    intro xs r hxs hr
    rw [List.takeWhile_append_of_pos hxs]
    cases r with
    | nil => simp
    | cons c more => simp [hr c more rfl]
  have hrun : xs = ys := by rw [← htake hxs hr, h, htake hys hs]
  subst hrun
  exact ⟨rfl, List.append_cancel_left h⟩

/-- What may follow a value is no part of a number. -/
theorem isNumeral_of_atEnd (hend : AtEnd (symbols r)) (c : Char) (more : List Char)
    (hr : r = c :: more) : isNumeral c = false := by
  subst hr
  rcases hend (.char c) (symbols more) rfl with h | h | h <;> cases h <;> rfl

/-- The text of a double is a sign or none, and the spelling of a number. -/
theorem exists_spelling {x : Double} (finite : x.isFinite = true) :
    ∃ (sign cs : List Char) (v : ℚ), (Number.double x finite).text = sign ++ cs
      ∧ (∀ c ∈ sign, c = '-') ∧ Decimal.Spells cs v := by
  have hfinite : x.magnitude < Double.infinityBits := by simpa [Double.isFinite] using finite
  obtain ⟨v, hspells, -⟩ := Decimal.exists_spells doubleLayout hfinite
  refine ⟨_, _, v, Decimal.text_eq doubleLayout x, fun c hc => ?_, hspells⟩
  split at hc
  · exact List.mem_singleton.1 hc
  · cases hc

/-- A number is written with such characters only. -/
theorem isNumeral_of_mem_text {n : Number} (hc : c ∈ n.text) : isNumeral c = true := by
  cases n with
  | integer i =>
    rcases Decimal.mem_integer hc with rfl | hdigit
    · rfl
    · exact Decimal.isNumeral_digit hdigit
  | double x finite =>
    obtain ⟨sign, cs, v, htext, hsign, hspells⟩ := exists_spelling finite
    rw [htext] at hc
    rcases List.mem_append.1 hc with hc | hc
    · rw [hsign c hc]
      rfl
    · exact hspells.isNumeral_of_mem hc

/-- Only doubles have a point or an exponent. -/
theorem integer_text_ne (i : Int) {x : Double} (finite : x.isFinite = true) :
    (Number.integer i).text ≠ (Number.double x finite).text := by
  intro h
  obtain ⟨sign, cs, v, htext, -, hspells⟩ := exists_spelling finite
  have hmem : ∀ c ∈ cs, c = '-' ∨ c.isDigit = true := fun c hc =>
    Decimal.mem_integer (h ▸ htext ▸ List.mem_append_right sign hc)
  rcases hspells.marked with hmark | hmark
  · exact absurd (hmem '.' hmark) (by decide)
  · exact absurd (hmem 'e' hmark) (by decide)

/-- A number is written with at least one of them. -/
theorem Number.text_ne_nil (n : Number) : n.text ≠ [] := by
  cases n with
  | integer i =>
    show Decimal.integer i ≠ []
    unfold Decimal.integer
    split
    · exact List.cons_ne_nil _ _
    · exact Decimal.decimal_ne_nil _
  | double x finite =>
    obtain ⟨sign, cs, v, htext, -, hspells⟩ := exists_spelling finite
    obtain ⟨c, ds, rfl, -⟩ := hspells.exists_head
    rw [htext]
    simp

/-- Different numbers are written differently. -/
theorem Number.text_inj {n m : Number} (h : n.text = m.text) : n = m := by
  cases n with
  | integer i =>
    cases m with
    | integer k => exact congrArg Number.integer (Decimal.integer_inj h)
    | double y finite => exact absurd h (integer_text_ne i finite)
  | double x finite =>
    cases m with
    | integer k => exact absurd h.symm (integer_text_ne k finite)
    | double y finite' =>
      obtain rfl := Decimal.text_inj finite finite' h
      rfl

/-- A number ends where its characters do, and the characters say which it is. -/
theorem separable_number (n : Number) : Separable Number.text n := by
  intro m r s hr hs h
  obtain ⟨htext, hrest⟩ := append_inj_of_run (fun c hc => isNumeral_of_mem_text (n := n) hc)
    (fun c hc => isNumeral_of_mem_text (n := m) hc) (isNumeral_of_atEnd hr)
    (isNumeral_of_atEnd hs) h
  exact ⟨Number.text_inj htext, hrest⟩

/-! ### Strings -/

/-- Different characters make different symbols. -/
theorem symbols_inj {cs ds : List Char} (h : symbols cs = symbols ds) : cs = ds :=
  List.map_injective_iff.2 (fun _ _ => Symbol.char.inj) h

/-- A string between quotation marks ends at the closing one. -/
theorem quote_append_inj (h : quote xs ++ r = quote ys ++ s) : xs = ys ∧ r = s := by
  have hread : ∀ cs rest : List Char,
      front (symbols (quote cs ++ rest)) = .ok (.string (String.ofList cs), symbols rest) := by
    intro cs rest
    rw [symbols, List.map_append]
    exact front_quote cs (symbols rest)
  have hsame := hread xs r
  rw [h, hread ys s] at hsame
  obtain ⟨hstring, hrest⟩ := Prod.mk.inj (Except.ok.inj hsame)
  exact ⟨(String.ofList_inj.1 (Found.string.inj hstring)).symm, (symbols_inj hrest).symm⟩

/-! ### Lists and objects -/

section Many
variable {β : Type} {text : β → List Char} {close : Char} {items others : List β}

/-- Items after the first, each after a comma, are told apart up to the closing bracket. -/
theorem more_inj (hclose : ∀ rest, AtEnd (symbols (close :: rest))) (hcomma : close ≠ ',')
    (hitems : ∀ x ∈ items, Separable text x)
    (h : items.flatMap (fun x => ',' :: text x) ++ close :: r
      = others.flatMap (fun x => ',' :: text x) ++ close :: s) : items = others ∧ r = s := by
  induction items generalizing others with
  | nil =>
    cases others with
    | nil => exact ⟨rfl, (List.cons.inj h).2⟩
    | cons y others => exact absurd (List.cons.inj h).1 hcomma
  | cons x items ih =>
    cases others with
    | nil => exact absurd (List.cons.inj h).1.symm hcomma
    | cons y others =>
      simp only [List.flatMap_cons, List.cons_append, List.append_assoc, List.cons.injEq,
        true_and] at h
      obtain ⟨rfl, hrest⟩ := hitems x List.mem_cons_self y _ _
        (atEnd_rest text items (hclose r)) (atEnd_rest text others (hclose s)) h
      obtain ⟨rfl, rfl⟩ := ih (fun z hz => hitems z (List.mem_cons_of_mem x hz)) hrest
      exact ⟨rfl, rfl⟩

/-- Items with commas between them are told apart up to the closing bracket. -/
theorem commaSeparated_inj (hclose : ∀ rest, AtEnd (symbols (close :: rest)))
    (hcomma : close ≠ ',') (hstart : ∀ (x : β) (more : List Char), text x ≠ close :: more)
    (hne : ∀ x, text x ≠ []) (hitems : ∀ x ∈ items, Separable text x)
    (h : commaSeparated (items.map text) ++ close :: r
      = commaSeparated (others.map text) ++ close :: s) : items = others ∧ r = s := by
  -- A text that is not empty starts with another character than the closing bracket.
  have hfirst : ∀ (y : β) (others : List β) (rest s : List Char),
      close :: rest ≠ commaSeparated ((y :: others).map text) ++ close :: s := by
    intro y others rest s heq
    obtain ⟨c, more, hy⟩ := List.exists_cons_of_ne_nil (hne y)
    rw [List.map_cons, commaSeparated_cons, hy] at heq
    exact hstart y more ((List.cons.inj heq).1 ▸ hy)
  cases items with
  | nil =>
    cases others with
    | nil => exact ⟨rfl, (List.cons.inj h).2⟩
    | cons y others => exact absurd h (hfirst y others r s)
  | cons x items =>
    cases others with
    | nil => exact absurd h.symm (hfirst x items s r)
    | cons y others =>
      rw [List.map_cons, List.map_cons, commaSeparated_cons, commaSeparated_cons, List.flatMap_map,
        List.flatMap_map, List.append_assoc, List.append_assoc] at h
      obtain ⟨rfl, hrest⟩ := hitems x List.mem_cons_self y _ _
        (atEnd_rest text items (hclose r)) (atEnd_rest text others (hclose s)) h
      obtain ⟨rfl, rfl⟩ := more_inj hclose hcomma
        (fun z hz => hitems z (List.mem_cons_of_mem x hz)) hrest
      exact ⟨rfl, rfl⟩

end Many

/-- A name says where it ends, and then its value does. -/
theorem separable_member {entry : String × Json} (hvalue : Separable text entry.2) :
    Separable (fun entry : String × Json => member entry.1 entry.2.text) entry := by
  intro other r s hr hs h
  simp only [member, List.append_assoc, List.cons_append] at h
  obtain ⟨hname, hrest⟩ := quote_append_inj h
  obtain ⟨hsame, hafter⟩ := hvalue other.2 r s hr hs (List.cons.inj hrest).2
  exact ⟨Prod.ext (String.toList_inj.1 hname) hsame, hafter⟩

/-! ### Values -/

/-- The items of a list are written one by one. -/
theorem itemTexts_eq_map (items : List Json) : itemTexts items = items.map text := by
  induction items with
  | nil => rfl
  | cons item items ih => rw [itemTexts, ih, List.map_cons]

/-- The members of an object are written one by one, each with its name. -/
theorem memberTexts_eq_map (members : List (String × Json)) :
    memberTexts members = members.map fun entry => member entry.1 entry.2.text := by
  induction members with
  | nil => rfl
  | cons entry members ih => rw [memberTexts, ih, List.map_cons]

/-- The shapes of values, which their first characters tell. -/
inductive Shape
  | null
  | truth
  | number
  | string
  | list
  | object

/-- The shape of a value. -/
def shape : Json → Shape
  | .null => .null
  | .bool _ => .truth
  | .number _ => .number
  | .string _ => .string
  | .array _ => .list
  | .object _ => .object

/-- The shape of the values that start with a character. -/
def shapeOf? (c : Char) : Option Shape :=
  if isNumeral c then some .number
  else
    match c with
    | 'n' => some .null
    | 't' => some .truth
    | 'f' => some .truth
    | '"' => some .string
    | '[' => some .list
    | '\x7b' => some .object
    | _ => none

/-- A text starts with a character of the shape of its value. -/
theorem exists_head (value : Json) :
    ∃ c more, value.text = c :: more ∧ shapeOf? c = some value.shape := by
  cases value with
  | null => exact ⟨_, _, rfl, rfl⟩
  | bool b =>
    cases b with
    | false => exact ⟨_, _, rfl, rfl⟩
    | true => exact ⟨_, _, rfl, rfl⟩
  | number n =>
    obtain ⟨c, more, htext⟩ := List.exists_cons_of_ne_nil n.text_ne_nil
    have hc : isNumeral c = true := isNumeral_of_mem_text (n := n) (htext ▸ List.mem_cons_self)
    exact ⟨c, more, htext, by simp [shapeOf?, hc, shape]⟩
  | string s => exact ⟨_, _, rfl, rfl⟩
  | array items => exact ⟨_, _, rfl, rfl⟩
  | object members => exact ⟨_, _, rfl, rfl⟩

/-- Each value has a text. -/
theorem text_ne_nil (value : Json) : value.text ≠ [] := by
  obtain ⟨c, more, htext, -⟩ := value.exists_head
  exact htext ▸ List.cons_ne_nil c more

/-- No value starts with the bracket that closes a list. -/
theorem text_ne_bracket (value : Json) (more : List Char) : value.text ≠ ']' :: more := by
  intro hbracket
  obtain ⟨c, more', htext, hshape⟩ := value.exists_head
  rw [htext] at hbracket
  rw [(List.cons.inj hbracket).1] at hshape
  cases hshape

/-- Texts that start alike are of values of one shape. -/
theorem shape_eq {a b : Json} (h : a.text ++ r = b.text ++ s) : a.shape = b.shape := by
  obtain ⟨c, more, ha, hca⟩ := a.exists_head
  obtain ⟨d, more', hb, hdb⟩ := b.exists_head
  rw [ha, hb] at h
  rw [(List.cons.inj h).1, hdb] at hca
  exact (Option.some.inj hca).symm

/-- The text of a value says which value it is, and where it ends. -/
theorem separable_text (value : Json) : Separable text value := by
  -- The other value has the same shape, and then the same content by what is inside.
  induction value using induct with
  | null =>
    intro other r s hr hs h
    have hshape := shape_eq h
    cases other with
    | null => exact ⟨rfl, List.append_cancel_left h⟩
    | _ => cases hshape
  | bool b =>
    intro other r s hr hs h
    have hshape := shape_eq h
    cases other with
    | bool b' =>
      -- The two words start with different letters.
      cases b <;> cases b' <;> simp_all [text, boolText]
    | _ => cases hshape
  | number n =>
    intro other r s hr hs h
    have hshape := shape_eq h
    cases other with
    | number m =>
      obtain ⟨rfl, rfl⟩ := separable_number n m r s hr hs h
      exact ⟨rfl, rfl⟩
    | _ => cases hshape
  | string cs =>
    intro other r s hr hs h
    have hshape := shape_eq h
    cases other with
    | string ds =>
      obtain ⟨hstring, hrest⟩ := quote_append_inj h
      exact ⟨congrArg Json.string (String.toList_inj.1 hstring), hrest⟩
    | _ => cases hshape
  | array items ih =>
    intro other r s hr hs h
    have hshape := shape_eq h
    cases other with
    | array others =>
      -- Without the opening brackets the texts are those of the items and what follows.
      simp only [text, bracketed, itemTexts_eq_map, List.cons_append, List.append_assoc,
        List.cons.injEq, true_and, List.nil_append] at h
      obtain ⟨rfl, rfl⟩ := commaSeparated_inj (fun rest => atEnd_bracket (symbols rest)) (by decide)
        text_ne_bracket text_ne_nil ih h
      exact ⟨rfl, rfl⟩
    | _ => cases hshape
  | object members ih =>
    intro other r s hr hs h
    have hshape := shape_eq h
    cases other with
    | object others =>
      simp only [text, braced, memberTexts_eq_map, List.cons_append, List.append_assoc,
        List.cons.injEq, true_and, List.nil_append] at h
      obtain ⟨rfl, rfl⟩ := commaSeparated_inj (fun rest => atEnd_brace (symbols rest)) (by decide)
        (fun entry more heq => absurd (List.cons.inj heq).1 (by decide))
        (fun entry => List.cons_ne_nil _ _)
        (fun entry hentry => separable_member (ih entry hentry)) h
      exact ⟨rfl, rfl⟩
    | _ => cases hshape

/-- Different values are written differently. -/
theorem text_inj {a b : Json} (h : a.text = b.text) : a = b :=
  (separable_text a b [] [] atEnd_nil atEnd_nil (by rw [List.append_nil, List.append_nil, h])).1

end Idempotency.Json

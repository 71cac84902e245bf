import Idempotency.Json.Writer
import Idempotency.Proofs.SortedMap

/-!
# `Idempotency.Proofs.Json.Same`: when two values are the same

Two values are the same (`Json.Same`) if they are of one kind and hold the same: lists, item
by item, and objects, name by name. In which order an object lists its members is of no
account, here or further inside. Numbers are the same only if they are of one kind, so an
integer is not the same as the double of its value.

Values are the same exactly if their normalized forms are equal (`same_iff`).
-/

set_option autoImplicit false

namespace Idempotency.Json

variable {a b : Json} {members others : List (String × Json)} {name : String}

/-- What an object has under a name; of two members with one name it is the later one. -/
def memberOf (members : List (String × Json)) (name : String) : Option Json :=
  SortedMap.lookupEntry name members.reverse

/-- The values are the same, whatever the order in which objects list their members. -/
inductive Same : Json → Json → Prop
  | null : Same .null .null
  | bool (b : Bool) : Same (.bool b) (.bool b)
  | number (n : Number) : Same (.number n) (.number n)
  | string (s : String) : Same (.string s) (.string s)
  | array {items others : List Json} (hlength : items.length = others.length)
    (hitems : ∀ (i : Nat) (item other : Json), items[i]? = some item → others[i]? = some other →
      Same item other) : Same (.array items) (.array others)
  | object {members others : List (String × Json)}
    (hnames : ∀ name, (memberOf members name).isSome = (memberOf others name).isSome)
    (hvalues : ∀ name value other, memberOf members name = some value →
      memberOf others name = some other → Same value other) :
    Same (.object members) (.object others)

/-- What holds of a list if it holds of its items, and of an object if it holds of the
values of its members, and of what has nothing inside, holds of every value. -/
@[elab_as_elim]
theorem induct {P : Json → Prop} (null : P .null) (bool : ∀ b, P (.bool b))
    (number : ∀ n, P (.number n)) (string : ∀ s, P (.string s))
    (array : ∀ items, (∀ item ∈ items, P item) → P (.array items))
    (object : ∀ members, (∀ member ∈ members, P member.2) → P (.object members))
    (value : Json) : P value :=
  match value with
  | .null => null
  | .bool b => bool b
  | .number n => number n
  | .string s => string s
  | .array items => array items fun item _ => induct null bool number string array object item
  | .object members => object members fun member hmember =>
      have : sizeOf member.2 < sizeOf members := by
        have hlt := List.sizeOf_lt_of_mem hmember
        have hmember : sizeOf member = 1 + sizeOf member.1 + sizeOf member.2 := rfl
        omega
      induct null bool number string array object member.2
termination_by sizeOf value

/-! ### Normalized forms -/

/-- The items of a list are normalized one by one. -/
theorem normalizeItems_eq_map (items : List Json) : normalizeItems items = items.map normalize := by
  induction items with
  | nil => rfl
  | cons item items ih => rw [normalizeItems, ih, List.map_cons]

/-- The values of the members are normalized one by one, under their names. -/
theorem normalizeMembers_eq_map (members : List (String × Json)) :
    normalizeMembers members = members.map fun member => (member.1, member.2.normalize) := by
  induction members with
  | nil => rfl
  | cons member members ih => rw [normalizeMembers, ih, List.map_cons]

/-- A normalized object has, under each name, what the object has there in its
normalized form. -/
theorem find?_normalizeMembers (members : List (String × Json)) (name : String) :
    (SortedMap.ofList (normalizeMembers members)).find? name
      = (memberOf members name).map normalize := by
  rw [SortedMap.find?_ofList, normalizeMembers_eq_map, ← List.map_reverse,
    SortedMap.lookupEntry_map, memberOf]

/-- Values that are the same have one normalized form. -/
theorem Same.normalize_eq (h : Same a b) : a.normalize = b.normalize := by
  induction h with
  | null => rfl
  | bool => rfl
  | number => rfl
  | string => rfl
  | @array items others hlength hitems ih =>
    rw [normalize, normalize, normalizeItems_eq_map, normalizeItems_eq_map]
    refine congrArg Json.array (List.ext_getElem? fun i => ?_)
    rw [List.getElem?_map, List.getElem?_map]
    -- The lists are of one length, so both have an item here or neither has.
    cases hitem : items[i]? with
    | none =>
      have hbeyond : others.length ≤ i := hlength ▸ List.getElem?_eq_none_iff.1 hitem
      rw [List.getElem?_eq_none hbeyond]
    | some item =>
      have hinside : i < others.length := hlength ▸ (List.getElem?_eq_some_iff.1 hitem).1
      rw [List.getElem?_eq_getElem hinside]
      exact congrArg some (ih i item _ hitem (List.getElem?_eq_getElem hinside))
  | @object members others hnames hvalues ih =>
    rw [normalize, normalize]
    refine congrArg (fun m : SortedMap Json => Json.object m.entries)
      (SortedMap.ext_find? fun name => ?_)
    rw [find?_normalizeMembers, find?_normalizeMembers]
    -- Both objects have something under the name, or neither has.
    have hname := hnames name
    cases hvalue : memberOf members name with
    | none =>
      rw [hvalue, Option.isSome_none, eq_comm, Option.isSome_eq_false_iff,
        Option.isNone_iff_eq_none] at hname
      rw [hname]
    | some value =>
      rw [hvalue, Option.isSome_some, eq_comm, Option.isSome_iff_exists] at hname
      obtain ⟨other, hother⟩ := hname
      rw [hother]
      exact congrArg some (ih name value other hvalue hother)

/-- Values with one normalized form are the same. -/
theorem same_of_normalize_eq (h : a.normalize = b.normalize) : Same a b := by
  -- Normalizing keeps the constructor, so the other value has the same one.
  induction a using induct generalizing b with
  | null =>
    cases b with
    | null => exact .null
    | _ => simp [normalize] at h
  | bool =>
    cases b with
    | bool => cases h; exact .bool _
    | _ => simp [normalize] at h
  | number =>
    cases b with
    | number => cases h; exact .number _
    | _ => simp [normalize] at h
  | string =>
    cases b with
    | string => cases h; exact .string _
    | _ => simp [normalize] at h
  | array items ih =>
    cases b with
    | array others =>
      rw [normalize, normalize, normalizeItems_eq_map, normalizeItems_eq_map, Json.array.injEq] at h
      have hlength := congrArg List.length h
      rw [List.length_map, List.length_map] at hlength
      refine .array hlength fun i item other hitem hother => ?_
      refine ih item (List.mem_of_getElem? hitem) ?_
      have hi := congrArg (·[i]?) h
      simpa [hitem, hother] using hi
    | _ => simp [normalize] at h
  | object members ih =>
    cases b with
    | object others =>
      rw [normalize, normalize, Json.object.injEq] at h
      have hfind : ∀ name,
          (memberOf members name).map normalize = (memberOf others name).map normalize := by
        intro name
        rw [← find?_normalizeMembers, ← find?_normalizeMembers, SortedMap.find?, SortedMap.find?, h]
      refine .object (fun name => ?_) fun name value other hvalue hother => ?_
      · simpa using congrArg Option.isSome (hfind name)
      · -- What is under a name is the value of a member, and smaller than the object.
        have hmember := List.mem_reverse.1 (SortedMap.mem_of_lookupEntry hvalue)
        refine ih (name, value) hmember ?_
        simpa [hvalue, hother] using hfind name
    | _ => simp [normalize] at h

/-- Values are the same exactly if their normalized forms are equal. -/
theorem same_iff : Same a b ↔ a.normalize = b.normalize :=
  ⟨Same.normalize_eq, same_of_normalize_eq⟩

/-- An object may list its members in any order. -/
theorem same_of_perm (h : (members.map (·.1)).Nodup) (hperm : members.Perm others) :
    Same (.object members) (.object others) := by
  rw [same_iff, normalize, normalize]
  refine congrArg (fun m : SortedMap Json => Json.object m.entries) ?_
  rw [normalizeMembers_eq_map, normalizeMembers_eq_map]
  refine SortedMap.ofList_eq_of_perm ?_ (hperm.map _)
  rwa [List.map_map]

end Idempotency.Json

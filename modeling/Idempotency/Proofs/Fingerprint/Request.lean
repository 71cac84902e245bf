import Idempotency.Payload.Codec
import Idempotency.Proofs.Fingerprint.Encoding
import Idempotency.Proofs.Json.Unambiguous

/-!
# `Idempotency.Proofs.Fingerprint.Request`: a fingerprint identifies a JSON request

What is hashed of a request is the name of its operation and its JSON text. The encoding
keeps the two apart (`preimage_eq_iff`), and the text of a value is the text of no other
value (`Json.text_inj`). Before it is written a value is normalized, which brings together
those values, and only those, that are the same up to the order of members
(`Json.same_iff`). So the bytes that are hashed are equal exactly for one operation and
values that are the same (`hashed_eq_iff`).
-/

set_option autoImplicit false

namespace Idempotency.Fingerprint

open Json (Same)

variable {operation other : String} {value value' : Json} {body body' : List Char}

/-- The bytes that are hashed of an operation and a value. -/
def hashed (operation : String) (value : Json) : Bytes :=
  preimage [operation, String.ofList value.normalize.text]

/-- The fingerprint of an operation and a value is the digest of these bytes. -/
theorem ofWritten_json (operation : String) (value : Json) :
    ofWritten Codec.json.write operation value
      = .ok (String.ofList (Hex.text (sha256 (hashed operation value)))) := rfl

/-- What is hashed says which operation it is, and which text the request has. -/
theorem preimage_pair_eq_iff :
    preimage [operation, String.ofList body] = preimage [other, String.ofList body']
      ↔ operation = other ∧ body = body' := by
  rw [preimage_eq_iff]
  simp only [List.cons.injEq, and_true, String.ofList_inj]

/-- Values are written alike exactly if they are the same. -/
theorem text_normalize_eq_iff :
    value.normalize.text = value'.normalize.text ↔ Same value value' := by
  rw [Json.same_iff]
  exact ⟨Json.text_inj, congrArg Json.text⟩

/-- What is hashed is the same exactly for the same operation and the same value, where
the order of members does not count. -/
theorem hashed_eq_iff :
    hashed operation value = hashed other value' ↔ operation = other ∧ Same value value' := by
  rw [hashed, hashed, preimage_pair_eq_iff, text_normalize_eq_iff]

/-- Text that moves from the body to the operation leaves a trace. -/
theorem preimage_ne_of_moved {moved : String} (hmoved : moved ≠ "") (operation : String)
    (body : List Char) :
    preimage [operation ++ moved, String.ofList body]
      ≠ preimage [operation, String.ofList (moved.toList ++ body)] := by
  rw [Ne, preimage_pair_eq_iff]
  rintro ⟨-, hbody⟩
  have hlength := congrArg List.length hbody
  rw [List.length_append, String.length_toList] at hlength
  refine hmoved (String.length_eq_zero_iff.1 ?_)
  omega

/-- A request that is written has the fingerprint of its text, and one that is not has
none, but the reason why it is not written. -/
theorem ofWritten_cases {α : Type} (write : α → Except Json.Error (List Char)) (operation : String)
    (request : α) :
    (∃ body, write request = .ok body
        ∧ ofWritten write operation request = .ok (ofText operation body))
      ∨ ∃ e, write request = .error e
        ∧ ofWritten write operation request
          = .error (.codec ("failed to encode request for fingerprint: " ++ e.message)) := by
  unfold ofWritten
  cases write request with
  | ok body => exact .inl ⟨body, rfl, rfl⟩
  | error e => exact .inr ⟨e, rfl, rfl⟩

/-- The fingerprint of a JSON request identifies it, up to the hash.

- What is hashed of two requests is the same exactly if they have one operation and values
  that are the same: number by number with its kind, list by list in order, object by object
  with whatever order of members. The fingerprint is the digest of that, so values that are
  the same have one fingerprint, and members of different names may change places.
- Text that moves from the body to the operation changes what is hashed, whatever is written
  there.
- Of any kind of request, one that can be written has the fingerprint of its text. One that
  cannot is refused with the reason, and has none. -/
theorem request_identified (operation other : String) (value value' : Json) :
    (hashed operation value = hashed other value' ↔ operation = other ∧ Same value value')
      ∧ (ofWritten Codec.json.write operation value
        = .ok (String.ofList (Hex.text (sha256 (hashed operation value)))))
      ∧ (Same value value' →
        ofWritten Codec.json.write operation value = ofWritten Codec.json.write operation value')
      ∧ (∀ members others : List (String × Json), (members.map (·.1)).Nodup →
        members.Perm others → Same (.object members) (.object others))
      ∧ (∀ (moved : String) (body : List Char), moved ≠ "" →
        preimage [operation ++ moved, String.ofList body]
          ≠ preimage [operation, String.ofList (moved.toList ++ body)])
      ∧ ∀ {α : Type} (write : α → Except Json.Error (List Char)) (request : α),
        (∃ body, write request = .ok body
            ∧ ofWritten write operation request = .ok (ofText operation body))
          ∨ ∃ e, write request = .error e
            ∧ ofWritten write operation request
              = .error (.codec ("failed to encode request for fingerprint: " ++ e.message)) := by
  refine ⟨hashed_eq_iff, ofWritten_json operation value, fun hsame => ?_,
    fun _ _ hnodup hperm => Json.same_of_perm hnodup hperm,
    fun _ body hmoved => preimage_ne_of_moved hmoved operation body,
    fun write request => ofWritten_cases write operation request⟩
  rw [ofWritten_json, ofWritten_json, hashed_eq_iff.2 ⟨rfl, hsame⟩]

/-- One and a half for chats, and two, as a whole number, for audits. -/
def shares : List (String × Json) :=
  [("chat", .number (.double ⟨0x3FF8000000000000⟩ rfl)), ("audit", .number (.integer 2))]

/-- Two shares may change places. The whole number may not become a double, and the end of
the operation may not go over to the body. A map from pairs is not written. -/
theorem request_identified_reordered :
    ofWritten Codec.json.write "grant" (.object shares)
        = ofWritten Codec.json.write "grant" (.object shares.reverse)
      ∧ hashed "grant" (.number (.integer 2))
        ≠ hashed "grant" (.number (.double ⟨0x4000000000000000⟩ rfl))
      ∧ preimage ["grant" ++ "2", String.ofList []] ≠ preimage ["grant", String.ofList ['2']]
      ∧ ofWritten Codec.pairMap.write "grant" [((1, 2), "chat")]
        = .error (.codec "failed to encode request for fingerprint: key must be a string") := by
  obtain ⟨-, -, hdigest, hperm, hmoved, -⟩ :=
    request_identified "grant" "grant" (.object shares) (.object shares.reverse)
  obtain ⟨hhashed, -, -, -, -, hwrite⟩ := request_identified "grant" "grant"
    (.number (.integer 2)) (.number (.double ⟨0x4000000000000000⟩ rfl))
  refine ⟨hdigest (hperm shares shares.reverse (by decide) (List.reverse_perm shares).symm),
    fun heq => ?_, hmoved "2" [] (by decide), ?_⟩
  · obtain ⟨-, hsame⟩ := hhashed.1 heq
    cases hsame
  · rcases hwrite Codec.pairMap.write [((1, 2), "chat")] with
      ⟨body, hwritten, -⟩ | ⟨e, he, hrefused⟩
    · cases hwritten
    · cases he
      exact hrefused

end Idempotency.Fingerprint

import Idempotency.Proofs.Disk.Place

/-!
# `Idempotency.Proofs.Disk.Extension`: a path with another extension leads elsewhere

Giving the path of a file another extension changes its last name and nothing before
it. So the two paths lead to the same place only if they are the same, which happens
when the path has the extension already (`Path.withExtension_eq_self`).
-/

set_option autoImplicit false

namespace Idempotency.Path

variable {p : Path} {extension : String}

/-- A path that can name a file ends in a name. -/
theorem exists_concat (h : p.isDirectory = false) :
    ∃ front name, p = ⟨front ++ [name]⟩ ∧ isVoid name = false := by
  obtain ⟨pieces⟩ := p
  unfold isDirectory at h
  cases hlast : pieces.getLast? with
  | none =>
    rw [show (Path.mk pieces).pieces.getLast? = none from hlast] at h
    exact nomatch h
  | some name =>
    rw [show (Path.mk pieces).pieces.getLast? = some name from hlast] at h
    obtain ⟨front, hpieces⟩ := List.getLast?_eq_some_iff.1 hlast
    exact ⟨front, name, congrArg Path.mk hpieces, h⟩

/-- Another extension replaces the last name. -/
theorem withExtension_concat {front : List String} {name : String} (h : isVoid name = false)
    (extension : String) :
    (Path.mk (front ++ [name])).withExtension extension
      = ⟨front ++ [String.ofList (extended name.toList extension.toList)]⟩ := by
  have hlast : (Path.mk (front ++ [name])).fromLast = name :: front.reverse := by
    rw [fromLast, List.reverse_append, List.reverse_singleton, List.singleton_append,
      List.dropWhile_cons, h]
    rfl
  rw [withExtension, hlast]
  simp only [List.reverse_reverse]

/-- There is something before the extension of a name. -/
theorem stem_ne_nil {name : List Char} (h : name ≠ []) : stem name ≠ [] := by
  unfold stem
  split
  · exact h
  · next hne => exact hne

/-- A name with an extension says something. -/
theorem isVoid_extended {name : List Char} (h : name ≠ []) (extension : List Char) :
    isVoid (String.ofList (extended name extension)) = false := by
  unfold extended
  split
  · decide
  · have hlength : 2 ≤ (stem name ++ '.' :: extension).length := by
      have hstem := List.length_pos_iff.2 (stem_ne_nil h)
      simp only [List.length_append, List.length_cons]
      omega
    have hne : ∀ short : String, short.toList.length < 2 →
        (String.ofList (stem name ++ '.' :: extension) == short) = false := by
      intro short hshort
      refine beq_false_of_ne ?_
      rintro rfl
      rw [String.toList_ofList] at hshort
      omega
    rw [isVoid, hne "" (by decide), hne "." (by decide)]
    rfl

/-- A name that says something is one step from where the names before it lead. -/
theorem place_concat {front : List String} {name : String} (h : isVoid name = false) :
    (Path.mk (front ++ [name])).place
      = descend (descend [] (front.filter (!isVoid ·))) [name] := by
  have hkept : [name].filter (!isVoid ·) = [name] := List.filter_eq_self.2 fun a ha => by
    rw [List.mem_singleton.1 ha, h]
    rfl
  rw [place, parts, List.filter_append, hkept, descend_append]

/-- With another extension, the path of a file can still name one. -/
theorem isDirectory_withExtension (hfile : p.isDirectory = false) (extension : String) :
    (p.withExtension extension).isDirectory = false := by
  obtain ⟨front, name, rfl, hname⟩ := exists_concat hfile
  have hne : name.toList ≠ [] := by
    intro hnil
    rw [String.toList_eq_nil_iff.1 hnil] at hname
    exact nomatch hname
  rw [withExtension_concat hname, isDirectory, List.getLast?_concat]
  exact isVoid_extended hne extension.toList

/-- With another extension a path leads to another place, unless it has the extension
already. -/
theorem withExtension_eq_self (hfile : p.isDirectory = false)
    (h : (p.withExtension extension).place = p.place) : p.withExtension extension = p := by
  obtain ⟨front, name, rfl, hname⟩ := exists_concat hfile
  have hne : name.toList ≠ [] := by
    intro hnil
    rw [String.toList_eq_nil_iff.1 hnil] at hname
    exact nomatch hname
  have hextended := isVoid_extended hne extension.toList
  rw [withExtension_concat hname] at h ⊢
  rw [place_concat hname, place_concat hextended] at h
  congr 3
  -- Two names lead to the same place only if they are the same: a name goes one down,
  -- two dots go one up.
  have hlength := congrArg List.length h
  simp only [descend] at h hlength
  split at h
  · next hup =>
    split at h
    · next hup' => rw [hup, hup']
    · next hup' =>
      rw [if_pos hup, if_neg hup', List.length_dropLast, List.length_append,
        List.length_singleton] at hlength
      omega
  · next hup =>
    split at h
    · next hup' =>
      rw [if_neg hup, if_pos hup', List.length_dropLast, List.length_append,
        List.length_singleton] at hlength
      omega
    · exact List.singleton_inj.1 (List.append_cancel_left h)

end Idempotency.Path

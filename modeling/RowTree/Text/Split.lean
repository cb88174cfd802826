/-!
# Cutting a text

`cut` takes a text apart at its first separator, `split` at every one.
-/

namespace RowTree.Text

/-- The text before the first separator, and the text after it if there is one. -/
def cut (separates : Char → Bool) (text : List Char) : List Char × Option (List Char) :=
  match text.dropWhile (!separates ·) with
  | [] => (text, none)
  | _ :: rest => (text.takeWhile (!separates ·), some rest)

/-- The parts between separators. There is one more than there are separators. -/
def split (separates : Char → Bool) : List Char → List (List Char)
  | [] => [[]]
  | c :: rest =>
    if separates c then [] :: split separates rest
    else
      match split separates rest with
      | part :: parts => (c :: part) :: parts
      | [] => [[c]]

theorem cut_of_absent {separates : Char → Bool} {text : List Char}
    (h : ∀ c ∈ text, separates c = false) : cut separates text = (text, none) := by
  have hNone : text.dropWhile (!separates ·) = [] := by
    rw [← List.append_nil text]
    exact List.dropWhile_append_of_pos fun c hc => by simp [h c hc]
  rw [cut, hNone]

theorem cut_eq_some_iff {separates : Char → Bool} {text left right : List Char} :
    cut separates text = (left, some right) ↔
      ∃ c, separates c = true ∧ text = left ++ c :: right ∧ ∀ x ∈ left, separates x = false := by
  constructor
  · intro h
    have hWhole : text.takeWhile (!separates ·) ++ text.dropWhile (!separates ·) = text :=
      List.takeWhile_append_dropWhile
    have hHead := List.head?_dropWhile_not (!separates ·) text
    unfold cut at h
    split at h
    · cases h
    · rename_i c rest hDrop
      cases h
      rw [hDrop] at hWhole hHead
      refine ⟨c, by simpa using hHead, hWhole.symm, fun x hx => ?_⟩
      simpa using List.all_eq_true.mp List.all_takeWhile x hx
  · rintro ⟨c, hSeparates, rfl, hLeft⟩
    have hPast : ∀ x ∈ left, (!separates x) = true := fun x hx => by simp [hLeft x hx]
    have hRest : (c :: right).dropWhile (!separates ·) = c :: right := by simp [hSeparates]
    have hNone : (c :: right).takeWhile (!separates ·) = [] := by simp [hSeparates]
    rw [cut, List.dropWhile_append_of_pos hPast, List.takeWhile_append_of_pos hPast, hRest, hNone,
      List.append_nil]

theorem split_ne_nil (separates : Char → Bool) (text : List Char) :
    split separates text ≠ [] := by
  cases text with
  | nil => simp [split]
  | cons c rest =>
    rw [split]
    split
    · simp
    · split <;> simp

end RowTree.Text

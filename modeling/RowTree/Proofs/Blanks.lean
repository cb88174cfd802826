import RowTree.Text.Blank
import Mathlib.Data.List.Basic
import Mathlib.Data.List.TakeWhile

/-!
# Blanks at the ends of a text

Blanks, and texts that begin or end with one or do not. A text is in one way only blanks before a
text that does not begin with one, and in one way only a word before a text that does.
-/

namespace RowTree.FilterText

open Text

variable {text x y : List Char}

def Blanks (text : List Char) : Prop := text ≠ [] ∧ ∀ c ∈ text, isBlank c = true

/-- The text begins, and not with a blank. -/
def Starts (text : List Char) : Prop := ∃ c rest, text = c :: rest ∧ isBlank c = false

def BeginsBlank (text : List Char) : Prop := ∃ c rest, text = c :: rest ∧ isBlank c = true

/-- The text ends, and not with a blank. -/
def Ends (text : List Char) : Prop := ∃ c, text.getLast? = some c ∧ isBlank c = false

theorem dropBlank_of_starts (h : Starts text) : dropBlank text = text := by
  obtain ⟨c, rest, rfl, hSolid⟩ := h
  exact List.dropWhile_cons_of_neg (Bool.eq_false_iff.mp hSolid)

theorem dropBlank_blanks_append {blanks : List Char} (hBlanks : ∀ c ∈ blanks, isBlank c = true)
    (h : Starts text) : dropBlank (blanks ++ text) = text := by
  rw [dropBlank, List.dropWhile_append_of_pos hBlanks]
  exact dropBlank_of_starts h

theorem blanks_append_inj {blanks blanks' other : List Char}
    (hBlanks : ∀ c ∈ blanks, isBlank c = true) (hBlanks' : ∀ c ∈ blanks', isBlank c = true)
    (h : Starts text) (h' : Starts other) (hText : blanks ++ text = blanks' ++ other) :
    blanks = blanks' ∧ text = other := by
  have hDrop := congrArg dropBlank hText
  rw [dropBlank_blanks_append hBlanks h, dropBlank_blanks_append hBlanks' h'] at hDrop
  subst hDrop
  exact ⟨List.append_cancel_right hText, rfl⟩

theorem Blanks.begin {blanks : List Char} (h : Blanks blanks) (rest : List Char) :
    BeginsBlank (blanks ++ rest) := by
  obtain ⟨c, others, rfl⟩ := List.exists_cons_of_ne_nil h.1
  exact ⟨c, others ++ rest, rfl, h.2 c List.mem_cons_self⟩

theorem blanks_append {blanks more : List Char} (h : ∀ c ∈ blanks, isBlank c = true)
    (hMore : Blanks more) : Blanks (blanks ++ more) :=
  ⟨List.append_ne_nil_of_right_ne_nil _ hMore.1, List.forall_mem_append.mpr ⟨h, hMore.2⟩⟩

theorem Starts.solid {c : Char} {rest : List Char} (h : Starts (c :: rest)) :
    isBlank c = false := by
  obtain ⟨_, _, hText, hSolid⟩ := h
  cases hText
  exact hSolid

theorem starts_dropBlank (h : dropBlank text ≠ []) : Starts (dropBlank text) :=
  ⟨_, _, (List.cons_head_tail h).symm, List.head_dropWhile_not isBlank h⟩

theorem exists_blanks {c : Char} (h : isBlank c = true) (rest : List Char) :
    ∃ blanks, Blanks blanks ∧ c :: rest = blanks ++ dropBlank (c :: rest) := by
  refine ⟨(c :: rest).takeWhile isBlank, ⟨?_, fun _ => List.mem_takeWhile_imp⟩,
    List.takeWhile_append_dropWhile.symm⟩
  rw [List.takeWhile_cons_of_pos h]
  exact List.cons_ne_nil _ _

theorem exists_dropBlank (text : List Char) :
    ∃ front, text = front ++ dropBlank text ∧ ∀ c ∈ front, isBlank c = true :=
  ⟨text.takeWhile isBlank, List.takeWhile_append_dropWhile.symm,
    fun _ hc => List.mem_takeWhile_imp hc⟩

theorem dropBlank_append (h : dropBlank x ≠ []) (rest : List Char) :
    dropBlank (x ++ rest) = dropBlank x ++ rest := by
  rw [dropBlank, List.dropWhile_append, if_neg (by simpa [dropBlank] using h)]
  rfl

/-- Blanks at the start of a text, and what comes after them if anything does. -/
theorem exists_blanks_starts (text : List Char) : ∃ blanks rest, text = blanks ++ rest ∧
    (∀ c ∈ blanks, isBlank c = true) ∧ (rest = [] ∨ Starts rest) := by
  obtain ⟨front, hText, hBlanks⟩ := exists_dropBlank text
  refine ⟨front, dropBlank text, hText, hBlanks, ?_⟩
  by_cases h : dropBlank text = []
  · exact .inl h
  · exact .inr (starts_dropBlank h)

theorem takeWhile_solid_append {word : List Char} (hWord : ∀ c ∈ word, isBlank c = false)
    (h : BeginsBlank text) : (word ++ text).takeWhile (!isBlank ·) = word := by
  obtain ⟨c, rest, rfl, hBlank⟩ := h
  rw [List.takeWhile_append_of_pos (by simpa using hWord),
    List.takeWhile_cons_of_neg (by simp [hBlank]), List.append_nil]

theorem solid_append_inj {word word' other : List Char} (hWord : ∀ c ∈ word, isBlank c = false)
    (hWord' : ∀ c ∈ word', isBlank c = false) (h : BeginsBlank text) (h' : BeginsBlank other)
    (hText : word ++ text = word' ++ other) : word = word' ∧ text = other := by
  have hTake := congrArg (List.takeWhile (!isBlank ·)) hText
  rw [takeWhile_solid_append hWord h, takeWhile_solid_append hWord' h'] at hTake
  subst hTake
  exact ⟨rfl, List.append_cancel_left hText⟩

/-- A word at the start of a text, and what comes after it if anything does. -/
theorem exists_solid_begins (text : List Char) : ∃ word rest, text = word ++ rest ∧
    (∀ c ∈ word, isBlank c = false) ∧ (rest = [] ∨ BeginsBlank rest) := by
  refine ⟨text.takeWhile (!isBlank ·), text.dropWhile (!isBlank ·),
    List.takeWhile_append_dropWhile.symm, fun c hc => by simpa using List.mem_takeWhile_imp hc, ?_⟩
  cases hRest : text.dropWhile (!isBlank ·) with
  | nil => exact .inl rfl
  | cons c rest =>
    have hHead := List.head_dropWhile_not (p := (!isBlank ·)) (l := text) (by simp [hRest])
    simp only [hRest, List.head_cons, Bool.not_eq_false'] at hHead
    exact .inr ⟨c, rest, rfl, hHead⟩

theorem isPrefix_dropBlankEnd (text : List Char) : dropBlankEnd text <+: text := by
  rw [dropBlankEnd, ← List.reverse_suffix, List.reverse_reverse]
  exact List.dropWhile_suffix _

theorem mem_of_mem_trim {c : Char} (h : c ∈ trim text) : c ∈ text :=
  (List.dropWhile_suffix _).subset ((isPrefix_dropBlankEnd _).subset h)

theorem Starts.of_isPrefix {front : List Char} (h : Starts text) (hFront : front <+: text)
    (hSome : front ≠ []) : Starts front := by
  obtain ⟨c, rest, rfl⟩ := List.exists_cons_of_ne_nil hSome
  obtain ⟨_, rfl⟩ := hFront
  exact ⟨c, rest, rfl, Starts.solid h⟩

theorem starts_trim (h : trim text ≠ []) : Starts (trim text) := by
  have hSome : dropBlank text ≠ [] := by
    intro hNil
    apply h
    rw [trim, hNil]
    rfl
  exact (starts_dropBlank hSome).of_isPrefix (isPrefix_dropBlankEnd _) h

theorem exists_dropBlankEnd (text : List Char) :
    ∃ back, text = dropBlankEnd text ++ back ∧ ∀ c ∈ back, isBlank c = true := by
  obtain ⟨front, hText, hBlank⟩ := exists_dropBlank text.reverse
  refine ⟨front.reverse, ?_, fun c hc => hBlank c (List.mem_reverse.mp hc)⟩
  rw [dropBlankEnd, ← List.reverse_append, ← hText, List.reverse_reverse]

theorem dropBlankEnd_append (h : dropBlankEnd y ≠ []) (front : List Char) :
    dropBlankEnd (front ++ y) = front ++ dropBlankEnd y := by
  have hSome : dropBlank y.reverse ≠ [] := by simpa [dropBlankEnd] using h
  rw [dropBlankEnd, List.reverse_append, dropBlank_append hSome, List.reverse_append,
    List.reverse_reverse]
  rfl

theorem solid_of_getLast?_dropBlankEnd {c : Char} (h : (dropBlankEnd text).getLast? = some c) :
    isBlank c = false := by
  rw [dropBlankEnd, List.getLast?_reverse] at h
  have hSome : dropBlank text.reverse ≠ [] := by
    intro hNil
    rw [hNil] at h
    cases h
  obtain ⟨d, rest, hStart, hSolid⟩ := starts_dropBlank hSome
  rw [hStart, List.head?_cons, Option.some.injEq] at h
  exact h ▸ hSolid

theorem ends_trim (h : trim text ≠ []) : Ends (trim text) :=
  ⟨_, List.getLast?_eq_some_getLast h,
    solid_of_getLast?_dropBlankEnd (List.getLast?_eq_some_getLast h)⟩

theorem Ends.of_isSuffix {back : List Char} (h : Ends text) (hBack : back <:+ text)
    (hSome : back ≠ []) : Ends back := by
  obtain ⟨c, hLast, hSolid⟩ := h
  obtain ⟨front, rfl⟩ := hBack
  rw [List.getLast?_append_of_ne_nil _ hSome] at hLast
  exact ⟨c, hLast, hSolid⟩

theorem Ends.dropBlank_ne_nil (h : Ends text) : dropBlank text ≠ [] := by
  obtain ⟨c, hLast, hSolid⟩ := h
  intro hNil
  have hBlank := List.dropWhile_eq_nil_iff.mp hNil c (List.mem_of_getLast? hLast)
  exact Bool.eq_false_iff.mp hSolid hBlank

theorem Ends.dropBlank (h : Ends text) : Ends (dropBlank text) :=
  h.of_isSuffix (List.dropWhile_suffix _) h.dropBlank_ne_nil

theorem Ends.dropBlankEnd_eq (h : Ends text) : dropBlankEnd text = text := by
  obtain ⟨c, hLast, hSolid⟩ := h
  obtain ⟨front, rfl⟩ := List.getLast?_eq_some_iff.mp hLast
  have hKeep : Text.dropBlank (c :: front.reverse) = c :: front.reverse :=
    List.dropWhile_cons_of_neg (Bool.eq_false_iff.mp hSolid)
  rw [dropBlankEnd, List.reverse_append, List.reverse_singleton, List.singleton_append, hKeep,
    List.reverse_cons, List.reverse_reverse]

theorem Ends.not_blanks {blanks : List Char} (h : Ends text)
    (hBlanks : ∀ c ∈ blanks, isBlank c = true) : ¬ text <+: blanks := by
  intro hPrefix
  obtain ⟨c, hLast, hSolid⟩ := h
  exact Bool.eq_false_iff.mp hSolid (hBlanks c (hPrefix.subset (List.mem_of_getLast? hLast)))

end RowTree.FilterText

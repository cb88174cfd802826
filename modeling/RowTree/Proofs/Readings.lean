import RowTree.Proofs.Placeholders
import Mathlib.Data.List.TakeWhile

/-!
# Reading a text back

When the bound text and the parameters tell what was written. A part of a statement delimits
itself if they tell the part and what comes after it, as long as that goes on in one of the ways
in which it may. Names and constants do so by their quotes, whatever characters they have, and
numbers by their digits.
-/

namespace RowTree.Sql

def doubled (quote : Char) (text : List Char) : List Char :=
  text.flatMap fun c => if c = quote then [c, c] else [c]

theorem toList_quoted (quote : Char) (text : String) :
    (quoted quote text).toList = quote :: (doubled quote text.toList ++ [quote]) :=
  String.toList_ofList

theorem doubled_cons (quote c : Char) (text : List Char) :
    doubled quote (c :: text) = (if c = quote then [c, c] else [c]) ++ doubled quote text :=
  List.flatMap_cons

theorem doubled_of_clear {quote : Char} {text : List Char} (h : quote ∉ text) :
    doubled quote text = text := by
  induction text with
  | nil => rfl
  | cons c text ih =>
    rw [doubled_cons, if_neg (List.ne_of_not_mem_cons h).symm,
      ih (List.not_mem_of_not_mem_cons h), List.singleton_append]

/-- A quote that no other one follows closes the text. -/
theorem ne_doubled_cons {quote c : Char} {text u v : List Char} (hu : u.head? ≠ some quote) :
    quote :: u ≠ doubled quote (c :: text) ++ v := by
  intro h
  rw [doubled_cons] at h
  split at h
  · rename_i hQuote
    obtain ⟨-, rfl⟩ := List.cons.inj h
    exact hu (congrArg some hQuote)
  · rename_i hOther
    exact hOther (List.cons.inj h).1.symm

/-- Two texts between quotes with the same characters are the same, if no quote comes next. -/
theorem doubled_append_inj {quote : Char} {s t u v : List Char} (hu : u.head? ≠ some quote)
    (hv : v.head? ≠ some quote)
    (h : doubled quote s ++ quote :: u = doubled quote t ++ quote :: v) : s = t ∧ u = v := by
  induction s generalizing t with
  | nil =>
    cases t with
    | nil => exact ⟨rfl, (List.cons.inj h).2⟩
    | cons d t => exact absurd h (ne_doubled_cons hu)
  | cons c s ih =>
    cases t with
    | nil => exact absurd h.symm (ne_doubled_cons hv)
    | cons d t =>
      have hFirst : c = d := by
        have hHeads := congrArg List.head? h
        rw [doubled_cons, doubled_cons] at hHeads
        split at hHeads <;> split at hHeads <;> exact Option.some.inj hHeads
      subst hFirst
      rw [doubled_cons, doubled_cons, List.append_assoc, List.append_assoc,
        List.append_cancel_left_eq] at h
      obtain ⟨rfl, hRest⟩ := ih h
      exact ⟨rfl, hRest⟩

def DigitFree (text : List Char) : Prop := ∀ c ∈ text.head?, c.isDigit = false

theorem takeWhile_repr_append (n : Nat) {text : List Char} (h : DigitFree text) :
    (n.repr.toList ++ text).takeWhile Char.isDigit = n.repr.toList := by
  have hDigits : ∀ c ∈ n.repr.toList, c.isDigit = true := by
    rw [Nat.toList_repr]
    exact fun c hc => Nat.isDigit_of_mem_toDigits (by decide) (by decide) hc
  rw [List.takeWhile_append_of_pos hDigits]
  cases text with
  | nil => simp
  | cons c rest => rw [List.takeWhile_cons_of_neg (by simp [h c rfl]), List.append_nil]

theorem eq_of_toList_repr_eq {m n : Nat} (h : m.repr.toList = n.repr.toList) : m = n := by
  rw [Nat.toList_repr, Nat.toList_repr] at h
  rw [← Nat.ofDigitChars_toDigits (n := m) (by decide : 1 < 10) (Nat.le_refl _), h,
    Nat.ofDigitChars_toDigits (by decide) (Nat.le_refl _)]

theorem repr_append_inj {m n : Nat} {u v : List Char} (hu : DigitFree u) (hv : DigitFree v)
    (h : m.repr.toList ++ u = n.repr.toList ++ v) : m = n ∧ u = v := by
  have hDigits := congrArg (List.takeWhile Char.isDigit) h
  rw [takeWhile_repr_append m hu, takeWhile_repr_append n hv] at hDigits
  refine ⟨eq_of_toList_repr_eq hDigits, ?_⟩
  rwa [hDigits, List.append_cancel_left_eq] at h

variable (dialect : Dialect)

/-- The characters of the bound text. -/
def chars (bound : Nat) (ps : List Piece) : List Char := (boundText dialect bound ps).toList

section Chars

variable (bound : Nat) (text : String) (v : Value) (ps qs : List Piece)

@[simp] theorem chars_nil : chars dialect bound [] = [] := rfl

@[simp] theorem chars_plain :
    chars dialect bound (.plain text :: ps) = text.toList ++ chars dialect bound ps :=
  String.toList_append

theorem chars_name : chars dialect bound (.name text :: ps) = dialect.nameQuote ::
    (doubled dialect.nameQuote text.toList ++ dialect.nameQuote :: chars dialect bound ps) := by
  rw [chars, boundText_name, String.toList_append, toList_quoted, List.cons_append,
    List.append_assoc]
  rfl

theorem chars_constant : chars dialect bound (.constant text :: ps) =
    '\'' :: (doubled '\'' text.toList ++ '\'' :: chars dialect bound ps) := by
  rw [chars, boundText_constant, String.toList_append, toList_quoted, List.cons_append,
    List.append_assoc]
  rfl

theorem chars_param : chars dialect bound (.param v :: ps) =
    (dialect.placeholder (bound + 1)).toList ++ chars dialect (bound + 1) ps :=
  String.toList_append

theorem chars_append : chars dialect bound (ps ++ qs) =
    chars dialect bound ps ++ chars dialect (bound + (paramsOf ps).length) qs := by
  rw [chars, boundText_append, String.toList_append]
  rfl

end Chars

/-- From some number of parameters on the two have the same bound text, and they have the same
parameters. -/
def Coincide (ps qs : List Piece) : Prop :=
  ∃ bound, chars dialect bound ps = chars dialect bound qs ∧ paramsOf ps = paramsOf qs

/-- The text of the pieces goes on in such a way. -/
def Follows (next : List Char → Prop) (ps : List Piece) : Prop :=
  ∀ bound, next (chars dialect bound ps)

variable {dialect} {ps qs : List Piece}

theorem Follows.imp {next next' : List Char → Prop} (h : Follows dialect next ps)
    (hNext : ∀ text, next text → next' text) : Follows dialect next' ps :=
  fun bound => hNext _ (h bound)

theorem Coincide.of_append (rs : List Piece) (h : Coincide dialect (rs ++ ps) (rs ++ qs)) :
    Coincide dialect ps qs := by
  obtain ⟨bound, hText, hParams⟩ := h
  rw [chars_append, chars_append, List.append_cancel_left_eq] at hText
  rw [paramsOf_append, paramsOf_append, List.append_cancel_left_eq] at hParams
  exact ⟨bound + (paramsOf rs).length, hText, hParams⟩

theorem Coincide.plain {text : String}
    (h : Coincide dialect (.plain text :: ps) (.plain text :: qs)) : Coincide dialect ps qs :=
  h.of_append [.plain text]

theorem Coincide.param {v w : Value} (h : Coincide dialect (.param v :: ps) (.param w :: qs)) :
    v = w ∧ Coincide dialect ps qs := by
  obtain ⟨bound, hText, hParams⟩ := h
  rw [chars_param, chars_param, List.append_cancel_left_eq] at hText
  obtain ⟨hValue, hParams⟩ := List.cons.inj hParams
  exact ⟨hValue, bound + 1, hText, hParams⟩

theorem Coincide.name {text other : String}
    (h : Coincide dialect (.name text :: ps) (.name other :: qs))
    (hps : Follows dialect (·.head? ≠ some dialect.nameQuote) ps)
    (hqs : Follows dialect (·.head? ≠ some dialect.nameQuote) qs) :
    text = other ∧ Coincide dialect ps qs := by
  obtain ⟨bound, hText, hParams⟩ := h
  rw [chars_name, chars_name] at hText
  obtain ⟨hName, hText⟩ := doubled_append_inj (hps bound) (hqs bound) (List.cons.inj hText).2
  exact ⟨String.toList_inj.mp hName, bound, hText, hParams⟩

theorem Coincide.constant {text other : String}
    (h : Coincide dialect (.constant text :: ps) (.constant other :: qs))
    (hps : Follows dialect (·.head? ≠ some '\'') ps)
    (hqs : Follows dialect (·.head? ≠ some '\'') qs) :
    text = other ∧ Coincide dialect ps qs := by
  obtain ⟨bound, hText, hParams⟩ := h
  rw [chars_constant, chars_constant] at hText
  obtain ⟨hName, hText⟩ := doubled_append_inj (hps bound) (hqs bound) (List.cons.inj hText).2
  exact ⟨String.toList_inj.mp hName, bound, hText, hParams⟩

/-- A number in a plain text, after the same words. -/
theorem Coincide.number {words : String} {m n : Nat}
    (h : Coincide dialect (.plain (words ++ m.repr) :: ps) (.plain (words ++ n.repr) :: qs))
    (hps : Follows dialect DigitFree ps) (hqs : Follows dialect DigitFree qs) :
    m = n ∧ Coincide dialect ps qs := by
  obtain ⟨bound, hText, hParams⟩ := h
  rw [chars_plain, chars_plain, String.toList_append, String.toList_append, List.append_assoc,
    List.append_assoc, List.append_cancel_left_eq] at hText
  obtain ⟨hNumber, hText⟩ := repr_append_inj (hps bound) (hqs bound) hText
  exact ⟨hNumber, bound, hText, hParams⟩

theorem Coincide.symm (h : Coincide dialect ps qs) : Coincide dialect qs ps := by
  obtain ⟨bound, hText, hParams⟩ := h
  exact ⟨bound, hText.symm, hParams.symm⟩

/-- What is true of the text of the one is true of some text of the other. -/
theorem Coincide.exists (h : Coincide dialect ps qs) {next : List Char → Prop}
    (hps : Follows dialect next ps) : ∃ bound, next (chars dialect bound qs) := by
  obtain ⟨bound, hText, _⟩ := h
  exact ⟨bound, hText ▸ hps bound⟩

/-- The text ends here or goes on with one of the words. -/
def Onward (words : List String) (text : List Char) : Prop :=
  text = [] ∨ ∃ w ∈ words, w.toList <+: text

theorem Onward.head {words : List String} {text : List Char} (h : Onward words text)
    {p : Char → Bool} (hWords : words.all (fun w => w.toList.head?.any p) = true) :
    ∀ c ∈ text.head?, p c = true := by
  rcases h with rfl | ⟨w, hw, rest, rfl⟩
  · exact fun _ hc => nomatch hc
  · intro c hc
    have hFirst := List.all_eq_true.mp hWords w hw
    obtain ⟨d, hd, hp⟩ := (Option.any_eq_true _ _).mp hFirst
    rw [List.head?_append, hd] at hc
    cases hc
    exact hp

/-- The text and no word begin alike. -/
def Apart (words : List String) (text : String) : Prop :=
  text.toList ≠ [] ∧ ∀ w ∈ words, ¬ w.toList <+: text.toList ∧ ¬ text.toList <+: w.toList

instance (words : List String) (text : String) : Decidable (Apart words text) :=
  inferInstanceAs (Decidable (_ ∧ _))

theorem Apart.not_onward {words : List String} {text : String} (h : Apart words text)
    (rest : List Char) : ¬ Onward words (text.toList ++ rest) := by
  rintro (hNil | ⟨w, hw, hPrefix⟩)
  · exact h.1 (List.append_eq_nil_iff.mp hNil).1
  · exact (List.prefix_or_prefix_of_prefix hPrefix (List.prefix_append _ rest)).elim
      (h.2 w hw).1 (h.2 w hw).2

theorem Apart.not_onward_plain {words : List String} {text : String} (h : Apart words text)
    (bound : Nat) : ¬ Onward words (chars dialect bound (.plain text :: ps)) := by
  rw [chars_plain]
  exact h.not_onward _

/-- No word begins with another one. -/
def PrefixFree (words : List String) : Prop :=
  ∀ v ∈ words, ∀ w ∈ words, v.toList <+: w.toList → v = w

instance (words : List String) : Decidable (PrefixFree words) :=
  inferInstanceAs (Decidable (∀ v ∈ words, ∀ w ∈ words, v.toList <+: w.toList → v = w))

theorem Coincide.word {words : List String} (hFree : PrefixFree words) {v w : String}
    (hv : v ∈ words) (hw : w ∈ words)
    (h : Coincide dialect (.plain v :: ps) (.plain w :: qs)) : v = w ∧ Coincide dialect ps qs := by
  have hWord : v = w := by
    obtain ⟨bound, hText, -⟩ := h
    rw [chars_plain, chars_plain] at hText
    have hPrefix : v.toList <+: w.toList ++ chars dialect bound qs := ⟨_, hText⟩
    rcases List.prefix_or_prefix_of_prefix hPrefix (List.prefix_append _ _) with h | h
    · exact hFree v hv w hw h
    · exact (hFree w hw v hv h).symm
  subst hWord
  exact ⟨rfl, h.plain⟩

section Follows

variable {words more : List String}

theorem Follows.nil : Follows dialect (Onward words) [] := fun _ => .inl rfl

theorem Follows.word {w : String} (hw : w ∈ words) :
    Follows dialect (Onward words) (.plain w :: ps) := by
  intro bound
  rw [chars_plain]
  exact .inr ⟨w, hw, List.prefix_append _ _⟩

theorem Follows.begun {w : String} (hw : w ∈ words) (more : String) :
    Follows dialect (Onward words) (.plain (w ++ more) :: ps) := by
  intro bound
  rw [chars_plain, String.toList_append, List.append_assoc]
  exact .inr ⟨w, hw, List.prefix_append _ _⟩

theorem Onward.mono {text : List Char} (h : Onward words text) (hSubset : words ⊆ more) :
    Onward more text :=
  h.imp_right fun ⟨w, hw, hPrefix⟩ => ⟨w, hSubset hw, hPrefix⟩

theorem Follows.mono (h : Follows dialect (Onward words) ps) (hSubset : words ⊆ more) :
    Follows dialect (Onward more) ps :=
  h.imp fun _ hText => hText.mono hSubset

theorem Follows.no_quote (h : Follows dialect (Onward words) ps) {quote : Char}
    (hWords : words.all (fun w => w.toList.head?.any (· != quote)) = true) :
    Follows dialect (·.head? ≠ some quote) ps := by
  intro bound hHead
  have hFirst := (h bound).head hWords quote hHead
  rw [bne_self_eq_false] at hFirst
  exact Bool.noConfusion hFirst

theorem Follows.digitFree (h : Follows dialect (Onward words) ps)
    (hWords : words.all (fun w => w.toList.head?.any (!·.isDigit)) = true) :
    Follows dialect DigitFree ps := by
  intro bound c hc
  simpa using (h bound).head hWords c hc

end Follows

/-- Two parts with the same text and parameters up to what follows them are the same, and so is
what follows, as long as one of the words comes next or nothing does. -/
def SelfDelimiting {α : Type} (dialect : Dialect) (pieces : α → List Piece) (valid : α → Prop)
    (words : List String) : Prop :=
  ∀ ⦃x y ps qs⦄, valid x → valid y → Follows dialect (Onward words) ps →
    Follows dialect (Onward words) qs →
    Coincide dialect (pieces x ++ ps) (pieces y ++ qs) → x = y ∧ Coincide dialect ps qs

section Lists

variable {α : Type} {pieces : α → List Piece} {valid : α → Prop} {words itemWords : List String}

/-- Parts one after the other, when none of them begins as what follows the last one may. -/
theorem SelfDelimiting.flatMap (hItem : SelfDelimiting dialect pieces valid itemWords)
    (hMore : ∀ x ps, valid x → Follows dialect (Onward itemWords) (pieces x ++ ps))
    (hWords : words ⊆ itemWords)
    (hFirst : ∀ x ps bound, valid x → ¬ Onward words (chars dialect bound (pieces x ++ ps))) :
    SelfDelimiting dialect (List.flatMap pieces) (∀ x ∈ ·, valid x) words := by
  have hFollows {xs : List α} {ps : List Piece} (hxs : ∀ x ∈ xs, valid x)
      (hps : Follows dialect (Onward words) ps) :
      Follows dialect (Onward itemWords) (xs.flatMap pieces ++ ps) := by
    cases xs with
    | nil => exact hps.mono hWords
    | cons x rest =>
      rw [List.flatMap_cons, List.append_assoc]
      exact hMore x _ (hxs x List.mem_cons_self)
  intro xs ys ps qs hxs hys hps hqs h
  induction xs generalizing ys with
  | nil =>
    cases ys with
    | nil => exact ⟨rfl, h⟩
    | cons y ys =>
      obtain ⟨bound, hText⟩ := h.exists hps
      rw [List.flatMap_cons, List.append_assoc] at hText
      exact absurd hText (hFirst y _ bound (hys y List.mem_cons_self))
  | cons x xs ih =>
    cases ys with
    | nil =>
      obtain ⟨bound, hText⟩ := h.symm.exists hqs
      rw [List.flatMap_cons, List.append_assoc] at hText
      exact absurd hText (hFirst x _ bound (hxs x List.mem_cons_self))
    | cons y ys =>
      rw [List.forall_mem_cons] at hxs hys
      rw [List.flatMap_cons, List.flatMap_cons, List.append_assoc, List.append_assoc] at h
      obtain ⟨rfl, hRest⟩ := hItem hxs.1 hys.1 (hFollows hxs.2 hps) (hFollows hys.2 hqs) h
      obtain ⟨rfl, hAfter⟩ := ih hxs.2 hys.2 hRest
      exact ⟨rfl, hAfter⟩

theorem separated_cons (sep : String) (part : List Piece) (parts : List (List Piece)) :
    separated sep (part :: parts) = part ++ parts.flatMap fun more => .plain sep :: more := by
  induction parts generalizing part with
  | nil => simp [separated]
  | cons next rest ih =>
    have hRest := ih next
    rw [separated] at hRest ⊢
    rw [List.intercalate_cons_cons, hRest]
    simp

theorem separated_map_cons (sep : String) (x : α) (xs : List α) :
    separated sep ((x :: xs).map pieces) =
      pieces x ++ xs.flatMap fun y => .plain sep :: pieces y := by
  rw [List.map_cons, separated_cons, List.flatMap_map]

/-- Parts with a separator between them, with which nothing begins that follows the last one. -/
theorem SelfDelimiting.separated (hItem : SelfDelimiting dialect pieces valid itemWords)
    (words : List String) (sep : String) (hSep : sep ∈ itemWords) (hWords : words ⊆ itemWords)
    (hEnd : Apart words sep) :
    SelfDelimiting dialect (fun xs => separated sep (xs.map pieces))
      (fun xs => xs ≠ [] ∧ ∀ x ∈ xs, valid x) words := by
  have hOne : SelfDelimiting dialect (fun x => .plain sep :: pieces x) valid itemWords :=
    fun _ _ _ _ hx hy hps hqs h => hItem hx hy hps hqs h.plain
  have hMany := hOne.flatMap (fun _ _ _ => Follows.word hSep) hWords
    (fun _ _ bound _ => hEnd.not_onward_plain bound)
  have hFollows {xs : List α} {ps : List Piece} (hps : Follows dialect (Onward words) ps) :
      Follows dialect (Onward itemWords) ((xs.flatMap fun x => .plain sep :: pieces x) ++ ps) := by
    cases xs with
    | nil => exact hps.mono hWords
    | cons x rest => exact Follows.word hSep
  intro xs ys ps qs hxs hys hps hqs h
  obtain ⟨x, xs, rfl⟩ := List.exists_cons_of_ne_nil hxs.1
  obtain ⟨y, ys, rfl⟩ := List.exists_cons_of_ne_nil hys.1
  simp only [separated_map_cons, List.append_assoc] at h
  have hx := List.forall_mem_cons.mp hxs.2
  have hy := List.forall_mem_cons.mp hys.2
  obtain ⟨rfl, hRest⟩ := hItem hx.1 hy.1 (hFollows hps) (hFollows hqs) h
  obtain ⟨rfl, hAfter⟩ := hMany hx.2 hy.2 hps hqs hRest
  exact ⟨rfl, hAfter⟩

theorem not_onward_separated (hFirst : ∀ x ps bound, valid x →
      ¬ Onward words (chars dialect bound (pieces x ++ ps))) {sep : String} {xs : List α}
    (hxs : xs ≠ [] ∧ ∀ x ∈ xs, valid x) (ps : List Piece) (bound : Nat) :
    ¬ Onward words (chars dialect bound (separated sep (xs.map pieces) ++ ps)) := by
  obtain ⟨x, rest, rfl⟩ := List.exists_cons_of_ne_nil hxs.1
  rw [separated_map_cons, List.append_assoc]
  exact hFirst x _ bound (hxs.2 x List.mem_cons_self)

/-- One part may have no pieces, if no other one begins as what follows it may. -/
theorem SelfDelimiting.orEmpty (empty : α) (hEmpty : pieces empty = [])
    (hOther : SelfDelimiting dialect pieces (fun x => x ≠ empty ∧ valid x) words)
    (hFirst : ∀ x, x ≠ empty → valid x →
      ∀ ps bound, ¬ Onward words (chars dialect bound (pieces x ++ ps))) :
    SelfDelimiting dialect pieces valid words := by
  intro x y ps qs hx hy hps hqs h
  by_cases hX : x = empty <;> by_cases hY : y = empty
  · subst hX hY
    exact ⟨rfl, h.of_append _⟩
  · subst hX
    rw [hEmpty] at h
    obtain ⟨bound, hText⟩ := h.exists hps
    exact absurd hText (hFirst y hY hy qs bound)
  · subst hY
    rw [hEmpty] at h
    obtain ⟨bound, hText⟩ := h.symm.exists hqs
    exact absurd hText (hFirst x hX hx ps bound)
  · exact hOther ⟨hX, hx⟩ ⟨hY, hy⟩ hps hqs h

end Lists

end RowTree.Sql

import RowTree.FilterText.Clause
import Mathlib.Data.List.Infix

/-!
# Wildcards in searches

A search puts its text as it is between wildcards of LIKE. So it finds what has a part that is
like the text, whose own percent signs and underscores are wildcards as well. What it finds is
exactly what has the text itself in it if and only if the text has none of the two.
-/

namespace RowTree.Sql

variable {pattern text needle part : List Char} {c : Char}

def isWildcard (c : Char) : Bool := c == '%' || c == '_'

/-- A percent sign stands for any run of characters, an underscore for any one, and every other
character for itself. -/
inductive Likes : List Char → List Char → Prop
  | nil : Likes [] []
  | run {pattern text : List Char} (skipped : List Char) (rest : Likes pattern text) :
      Likes ('%' :: pattern) (skipped ++ text)
  | one {pattern text : List Char} (c : Char) (rest : Likes pattern text) :
      Likes ('_' :: pattern) (c :: text)
  | same {c : Char} {pattern text : List Char} (plain : isWildcard c = false)
      (rest : Likes pattern text) : Likes (c :: pattern) (c :: text)

def isLike : List Char → List Char → Bool
  | [], text => text.isEmpty
  | c :: pattern, text =>
    if c = '%' then text.tails.any (isLike pattern)
    else
      match text with
      | [] => false
      | d :: rest => (c == '_' || c == d) && isLike pattern rest

theorem likes_nil_iff : Likes [] text ↔ text = [] := by
  constructor
  · intro h
    cases h
    rfl
  · rintro rfl
    exact .nil

theorem likes_run_iff :
    Likes ('%' :: pattern) text ↔ ∃ rest, rest <:+ text ∧ Likes pattern rest := by
  constructor
  · intro h
    cases h with
    | run skipped rest => exact ⟨_, List.suffix_append _ _, rest⟩
    | same plain _ => cases plain
  · rintro ⟨rest, ⟨skipped, rfl⟩, h⟩
    exact .run skipped h

theorem likes_one_iff :
    Likes ('_' :: pattern) text ↔ ∃ c rest, text = c :: rest ∧ Likes pattern rest := by
  constructor
  · intro h
    cases h with
    | one c rest => exact ⟨c, _, rfl, rest⟩
    | same plain _ => cases plain
  · rintro ⟨c, rest, rfl, h⟩
    exact .one c h

theorem likes_same_iff (hPlain : isWildcard c = false) :
    Likes (c :: pattern) text ↔ ∃ rest, text = c :: rest ∧ Likes pattern rest := by
  constructor
  · intro h
    cases h with
    | run _ _ => cases hPlain
    | one _ _ => cases hPlain
    | same _ rest => exact ⟨_, rfl, rest⟩
  · rintro ⟨rest, rfl, h⟩
    exact .same hPlain h

theorem isLike_iff : isLike pattern text = true ↔ Likes pattern text := by
  induction pattern generalizing text with
  | nil => rw [isLike, likes_nil_iff, List.isEmpty_iff]
  | cons c pattern ih =>
    rw [isLike.eq_def]
    dsimp only
    by_cases hRun : c = '%'
    · subst hRun
      simp [likes_run_iff, ih]
    · rw [if_neg hRun]
      by_cases hOne : c = '_'
      · subst hOne
        cases text <;> simp [likes_one_iff, ih]
      · have hPlain : isWildcard c = false := by simp [isWildcard, hRun, hOne]
        cases text with
        | nil => simp [likes_same_iff hPlain]
        | cons d rest => simp [likes_same_iff hPlain, ih, hOne, @eq_comm _ d c]

instance (pattern text : List Char) : Decidable (Likes pattern text) :=
  decidable_of_iff _ isLike_iff

theorem likes_append_iff {before after : List Char} : Likes (before ++ after) text ↔
    ∃ s t, text = s ++ t ∧ Likes before s ∧ Likes after t := by
  constructor
  · intro h
    induction before generalizing text with
    | nil => exact ⟨[], text, rfl, .nil, h⟩
    | cons c before ih =>
      cases h with
      | run skipped rest =>
        obtain ⟨s, t, rfl, hs, ht⟩ := ih rest
        exact ⟨skipped ++ s, t, (List.append_assoc _ _ _).symm, .run skipped hs, ht⟩
      | one c rest =>
        obtain ⟨s, t, rfl, hs, ht⟩ := ih rest
        exact ⟨c :: s, t, rfl, .one c hs, ht⟩
      | same plain rest =>
        obtain ⟨s, t, rfl, hs, ht⟩ := ih rest
        exact ⟨c :: s, t, rfl, .same plain hs, ht⟩
  · rintro ⟨s, t, rfl, hs, ht⟩
    induction hs with
    | nil => exact ht
    | run skipped _ ih =>
      rw [List.append_assoc]
      exact .run skipped ih
    | one c _ ih => exact .one c ih
    | same plain _ ih => exact .same plain ih

theorem likes_any (text : List Char) : Likes ['%'] text := by
  rw [← List.append_nil text]
  exact .run text .nil

theorem likes_before_iff :
    Likes (needle ++ ['%']) text ↔ ∃ part, part <+: text ∧ Likes needle part := by
  rw [likes_append_iff]
  constructor
  · rintro ⟨part, rest, rfl, hPart, _⟩
    exact ⟨part, List.prefix_append _ _, hPart⟩
  · rintro ⟨part, ⟨rest, rfl⟩, hPart⟩
    exact ⟨part, rest, rfl, hPart, likes_any rest⟩

theorem likes_around_iff :
    Likes ('%' :: (needle ++ ['%'])) text ↔ ∃ part, part <:+: text ∧ Likes needle part := by
  rw [likes_run_iff]
  constructor
  · rintro ⟨rest, hRest, h⟩
    obtain ⟨part, hPart, hLikes⟩ := likes_before_iff.mp h
    exact ⟨part, hPart.isInfix.trans hRest.isInfix, hLikes⟩
  · rintro ⟨part, ⟨skipped, after, rfl⟩, hLikes⟩
    rw [List.append_assoc]
    exact ⟨part ++ after, List.suffix_append _ _,
      likes_before_iff.mpr ⟨part, List.prefix_append _ _, hLikes⟩⟩

def Plain (needle : List Char) : Prop := ∀ c ∈ needle, isWildcard c = false

theorem Plain.likes_iff (h : Plain needle) : Likes needle part ↔ part = needle := by
  induction needle generalizing part with
  | nil => exact likes_nil_iff
  | cons c needle ih =>
    obtain ⟨hc, hRest⟩ := List.forall_mem_cons.mp h
    rw [likes_same_iff hc]
    constructor
    · rintro ⟨rest, rfl, hLikes⟩
      rw [(ih hRest).mp hLikes]
    · rintro rfl
      exact ⟨needle, rfl, (ih hRest).mpr rfl⟩

theorem likes_self (needle : List Char) : Likes needle needle := by
  induction needle with
  | nil => exact .nil
  | cons c needle ih =>
    by_cases hRun : c = '%'
    · subst hRun
      exact .run ['%'] ih
    · by_cases hOne : c = '_'
      · subst hOne
        exact .one '_' ih
      · exact .same (by simp [isWildcard, hRun, hOne]) ih

/-- Another character in the place of each wildcard. -/
def masked (needle : List Char) : List Char := needle.map fun c => if isWildcard c then '?' else c

theorem likes_masked (needle : List Char) : Likes needle (masked needle) := by
  induction needle with
  | nil => exact .nil
  | cons c needle ih =>
    by_cases hRun : c = '%'
    · subst hRun
      exact .run ['?'] ih
    · by_cases hOne : c = '_'
      · subst hOne
        exact .one '?' ih
      · have hPlain : isWildcard c = false := by simp [isWildcard, hRun, hOne]
        rw [masked, List.map_cons, hPlain]
        exact .same hPlain ih

theorem plain_of_masked_eq (h : masked needle = needle) : Plain needle := by
  intro c hc
  have hSame := List.map_inj_left.mp (h.trans (List.map_id needle).symm) c hc
  by_contra hWild
  rw [Bool.not_eq_false] at hWild
  rw [hWild, if_pos rfl] at hSame
  subst hSame
  cases hWild

/-- For any way in which a part can stand in a text: the parts that are like the needle are the
needle alone exactly if it is without wildcards. -/
theorem finds_itself_iff {r : List Char → List Char → Prop} (hRefl : ∀ s, r s s)
    (hSame : ∀ {s t}, r s t → s.length = t.length → s = t) :
    (∀ text, (∃ part, r part text ∧ Likes needle part) ↔ r needle text) ↔ Plain needle := by
  constructor
  · intro h
    have hFound : r needle (masked needle) :=
      (h _).mp ⟨masked needle, hRefl _, likes_masked needle⟩
    exact plain_of_masked_eq (hSame hFound (List.length_map _).symm).symm
  · intro hPlain text
    simp only [hPlain.likes_iff, exists_eq_right]

/-- The condition holds of a subject that has the text as its value. -/
def Expr.Finds : Expr → String → Prop
  | .like _ pattern, text => Likes pattern.toList text.toList
  | _, _ => False

/-- The condition searches for the needle in those parts of a text that are placed by `r`. -/
structure SearchesFor (needle : String) (r : List Char → List Char → Prop) (condition : Expr) :
    Prop where
  finds_iff : ∀ text : String,
    condition.Finds text ↔ ∃ part, r part text.toList ∧ Likes needle.toList part
  finds_itself : ∀ text : String, r needle.toList text.toList → condition.Finds text
  /-- Nothing else is found exactly if the needle is without wildcards. -/
  exact_iff : (∀ text : String, condition.Finds text ↔ r needle.toList text.toList) ↔
    Plain needle.toList

theorem forall_string_iff {p : List Char → Prop} :
    (∀ text : String, p text.toList) ↔ ∀ text, p text := by
  constructor
  · intro h text
    have hText := h (String.ofList text)
    rwa [String.toList_ofList] at hText
  · exact fun h text => h text.toList

theorem searchesFor_of_finds {needle : String} {r : List Char → List Char → Prop}
    {condition : Expr} (hRefl : ∀ s, r s s)
    (hSame : ∀ {s t}, r s t → s.length = t.length → s = t)
    (hFinds : ∀ text : String,
      condition.Finds text ↔ ∃ part, r part text.toList ∧ Likes needle.toList part) :
    SearchesFor needle r condition where
  finds_iff := hFinds
  finds_itself text h := (hFinds text).mpr ⟨needle.toList, h, likes_self _⟩
  exact_iff := by
    simp only [hFinds]
    exact forall_string_iff.trans (finds_itself_iff hRefl hSame)

/-- A search finds the texts that have in its place a part that is like the needle, among them all
that have the needle itself there. It finds no other texts if and only if there is no wildcard in
the needle. -/
theorem search_finds_text_iff (subject : Expr) (needle : String) :
    SearchesFor needle (· <:+: ·) (subject.contains needle) ∧
    SearchesFor needle (· <+: ·) (subject.beginsWith needle) ∧
    SearchesFor needle (· <:+ ·) (subject.endsWith needle) := by
  refine ⟨?_, ?_, ?_⟩
  · refine searchesFor_of_finds List.infix_refl (fun h => h.eq_of_length) fun text => ?_
    rw [← likes_around_iff, Expr.contains, Expr.Finds]
    simp
  · refine searchesFor_of_finds List.prefix_refl (fun h => h.eq_of_length) fun text => ?_
    rw [← likes_before_iff, Expr.beginsWith, Expr.Finds]
    simp
  · refine searchesFor_of_finds List.suffix_refl (fun h => h.eq_of_length) fun text => ?_
    rw [← likes_run_iff, Expr.endsWith, Expr.Finds]
    simp

open Schema in
def discount : Field := { name := "Discount", column := some ⟨"Discount", "discount"⟩ }

/-- A search for `5%` finds what has a 5 in it, one for `_id` at the beginning finds all that has
`id` after its first character, and one for `a_` at the end all that has an a before its last. -/
theorem wildcards_found :
    FilterText.readClause [discount] "Discount Contains 5%".toList =
      .ok ((Expr.columnOf 0 "discount").contains "5%") ∧
    (Expr.columnOf 0 "discount").contains "5%" = .like (.columnOf 0 "discount") "%5%%" ∧
    ((Expr.columnOf 0 "discount").contains "5%").Finds "15 euros" ∧
    ¬"5%".toList <:+: "15 euros".toList ∧
    ((Expr.bareColumn "name").beginsWith "_id").Finds "widow" ∧
    ¬"_id".toList <+: "widow".toList ∧
    ((Expr.bareColumn "name").endsWith "a_").Finds "Adam and Alan" ∧
    ¬"a_".toList <:+ "Adam and Alan".toList := by
  refine ⟨rfl, rfl, ?_, by decide, ?_, by decide, ?_, by decide⟩
  all_goals
    change Likes _ _
    decide

end RowTree.Sql

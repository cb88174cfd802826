import RowTree.Proofs.Binding

/-!
# Names of models

Which texts are names of models, said as a grammar: a code name, or the code name of an application
and that of a model with a point between them. A code name is made of ASCII characters, of two at
least. Because there is no point in a code name, a text is read in one way at most, and a name that
was read is written as that text.
-/

namespace RowTree.Schema

open Text Compile Outcome

/-- What a code name may begin with. -/
inductive NameStart : Char → Prop
  | small {c : Char} (from_a : 'a' ≤ c) (to_z : c ≤ 'z') : NameStart c
  | capital {c : Char} (from_a : 'A' ≤ c) (to_z : c ≤ 'Z') : NameStart c
  | underscore : NameStart '_'

/-- What may come behind the beginning. -/
inductive NamePart : Char → Prop
  | start {c : Char} (h : NameStart c) : NamePart c
  | digit {c : Char} (from_zero : '0' ≤ c) (to_nine : c ≤ '9') : NamePart c

inductive CodeName : String → Prop
  | spelled {first : Char} {rest : List Char} (start : NameStart first) (more : rest ≠ [])
      (parts : ∀ c ∈ rest, NamePart c) : CodeName (String.ofList (first :: rest))

/-- The text that stands for the name. -/
inductive Names : String → ModelName → Prop
  | alone {model : String} (h : CodeName model) : Names model ⟨none, model⟩
  | within {app model : String} (hApp : CodeName app) (hModel : CodeName model) :
      Names (app ++ "." ++ model) ⟨some app, model⟩

theorem isNameStart_iff {c : Char} : isNameStart c = true ↔ NameStart c := by
  have hSmall : c.isLower = true ↔ 'a' ≤ c ∧ c ≤ 'z' :=
    Bool.and_eq_true_iff.trans (and_congr decide_eq_true_iff decide_eq_true_iff)
  have hCapital : c.isUpper = true ↔ 'A' ≤ c ∧ c ≤ 'Z' := ⟨of_decide_eq_true, decide_eq_true⟩
  have hParts : isNameStart c = (c.isUpper || c.isLower || c == '_') := rfl
  rw [hParts, Bool.or_eq_true, Bool.or_eq_true, hSmall, hCapital, beq_iff_eq]
  constructor
  · rintro ((⟨hFrom, hTo⟩ | ⟨hFrom, hTo⟩) | rfl)
    · exact .capital hFrom hTo
    · exact .small hFrom hTo
    · exact .underscore
  · rintro (⟨hFrom, hTo⟩ | ⟨hFrom, hTo⟩ | _)
    · exact .inl (.inr ⟨hFrom, hTo⟩)
    · exact .inl (.inl ⟨hFrom, hTo⟩)
    · exact .inr rfl

theorem isNamePart_iff {c : Char} : isNamePart c = true ↔ NamePart c := by
  have hDigit : c.isDigit = true ↔ '0' ≤ c ∧ c ≤ '9' :=
    Bool.and_eq_true_iff.trans (and_congr decide_eq_true_iff decide_eq_true_iff)
  have hParts : isNamePart c = (isNameStart c || c.isDigit) := Bool.or_right_comm _ _ _
  rw [hParts, Bool.or_eq_true, isNameStart_iff, hDigit]
  constructor
  · rintro (hStart | ⟨hFrom, hTo⟩)
    · exact .start hStart
    · exact .digit hFrom hTo
  · rintro (hStart | ⟨hFrom, hTo⟩)
    · exact .inl hStart
    · exact .inr ⟨hFrom, hTo⟩

theorem isCodeName_iff {name : String} : isCodeName name = true ↔ CodeName name := by
  constructor
  · intro h
    unfold isCodeName at h
    split at h
    · rename_i first second rest hName
      obtain ⟨hFirst, hRest⟩ := Bool.and_eq_true_iff.mp h
      have hParts : ∀ c ∈ second :: rest, NamePart c := fun c hc =>
        isNamePart_iff.mp (List.all_eq_true.mp hRest c hc)
      have hSpelled := CodeName.spelled (isNameStart_iff.mp hFirst) (List.cons_ne_nil _ _) hParts
      rwa [← hName, String.ofList_toList] at hSpelled
    · cases h
  · rintro ⟨hStart, hMore, hParts⟩
    obtain ⟨second, rest, rfl⟩ := List.exists_cons_of_ne_nil hMore
    rw [isCodeName, String.toList_ofList]
    refine Bool.and_eq_true_iff.mpr ⟨isNameStart_iff.mpr hStart, List.all_eq_true.mpr ?_⟩
    exact fun c hc => isNamePart_iff.mpr (hParts c hc)

theorem checkName_eq_ok_iff_codeName {model name : String} :
    checkName model name = .ok () ↔ CodeName name :=
  checkName_eq_ok_iff.trans isCodeName_iff

theorem NamePart.ne_point {c : Char} (h : NamePart c) : (c == '.') = false := by
  refine beq_eq_false_iff_ne.mpr ?_
  rintro rfl
  exact absurd (isNamePart_iff.mpr h) (by decide)

theorem CodeName.no_point {name : String} (h : CodeName name) :
    ∀ c ∈ name.toList, (c == '.') = false := by
  obtain ⟨hStart, _, hParts⟩ := h
  rw [String.toList_ofList]
  exact List.forall_mem_cons.mpr
    ⟨(NamePart.start hStart).ne_point, fun c hc => (hParts c hc).ne_point⟩

theorem names_of_ofText {text : String} {name : ModelName} (h : ModelName.ofText text = .ok name) :
    Names text name := by
  unfold ModelName.ofText at h
  split at h
  · rename_i app model hCut
    obtain ⟨c, hPoint, hText, _⟩ := cut_eq_some_iff.mp hCut
    obtain ⟨_, hApp, h⟩ := bind_eq_ok.mp h
    obtain ⟨_, hModel, h⟩ := bind_eq_ok.mp h
    cases h
    have hJoined : text = String.ofList app ++ "." ++ String.ofList model := by
      rw [String.ext_iff, hText, beq_iff_eq.mp hPoint]
      simp
    rw [hJoined]
    exact .within (checkName_eq_ok_iff_codeName.mp hApp) (checkName_eq_ok_iff_codeName.mp hModel)
  · obtain ⟨_, hModel, h⟩ := bind_eq_ok.mp h
    cases h
    exact .alone (checkName_eq_ok_iff_codeName.mp hModel)

theorem ofText_of_names {text : String} {name : ModelName} (h : Names text name) :
    ModelName.ofText text = .ok name := by
  cases h with
  | alone h =>
    rw [ModelName.ofText, cut_of_absent h.no_point]
    exact bind_eq_ok.mpr ⟨(), checkName_eq_ok_iff_codeName.mpr h, rfl⟩
  | @within app model hApp hModel =>
    have hCut : cut (· == '.') (app ++ "." ++ model).toList =
        (app.toList, some model.toList) :=
      cut_eq_some_iff.mpr ⟨'.', rfl, by simp, hApp.no_point⟩
    simp only [ModelName.ofText, hCut, String.ofList_toList]
    exact bind_eq_ok.mpr ⟨(), checkName_eq_ok_iff_codeName.mpr hApp,
      bind_eq_ok.mpr ⟨(), checkName_eq_ok_iff_codeName.mpr hModel, rfl⟩⟩

theorem Names.text_eq {text : String} {name : ModelName} (h : Names text name) :
    name.text = text := by
  cases h <;> rfl

/-- A text is read as the name of a model exactly if it is a code name, or if it is two of them with
a point between. The name is written as the text that it was read from, and no other text is read
as this name. -/
theorem model_name_grammar (text : String) :
    ((∃ name, ModelName.ofText text = .ok name) ↔
      CodeName text ∨
        ∃ app model, CodeName app ∧ CodeName model ∧ text = app ++ "." ++ model) ∧
    ∀ name, ModelName.ofText text = .ok name →
      name.text = text ∧ ∀ other, ModelName.ofText other = .ok name → other = text := by
  refine ⟨⟨?_, ?_⟩, ?_⟩
  · rintro ⟨name, h⟩
    cases names_of_ofText h with
    | alone hModel => exact .inl hModel
    | within hApp hModel => exact .inr ⟨_, _, hApp, hModel, rfl⟩
  · rintro (h | ⟨app, model, hApp, hModel, rfl⟩)
    · exact ⟨_, ofText_of_names (.alone h)⟩
    · exact ⟨_, ofText_of_names (.within hApp hModel)⟩
  · intro name h
    have hText := (names_of_ofText h).text_eq
    exact ⟨hText, fun other hOther => (names_of_ofText hOther).text_eq.symm.trans hText⟩

theorem crm_person_named :
    ModelName.ofText "crm.Person" = .ok ⟨some "crm", "Person"⟩ ∧
    ModelName.text ⟨some "crm", "Person"⟩ = "crm.Person" ∧
    ∀ other, ModelName.ofText other = .ok ⟨some "crm", "Person"⟩ → other = "crm.Person" := by
  have h : ModelName.ofText "crm.Person" = .ok ⟨some "crm", "Person"⟩ := rfl
  exact ⟨h, (model_name_grammar "crm.Person").2 _ h⟩

end RowTree.Schema

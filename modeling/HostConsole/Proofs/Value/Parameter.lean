/-
Declared parameters and the words read against them. The name of a declared parameter is an identifier, and reading
words against parameters gives either the values of all of them or the first word that does not read.
-/
import Mathlib.Data.List.TakeWhile
import Mathlib.Tactic
import HostConsole.Value.Parameter

namespace HostConsole.Parameter

/-! ## Names -/

/-- `[A-Za-z_]` -/
def IsLetter (c : Char) : Prop :=
  ('A' ≤ c ∧ c ≤ 'Z') ∨ ('a' ≤ c ∧ c ≤ 'z') ∨ c = '_'

/-- `[A-Za-z_][A-Za-z0-9_]*` -/
def IsIdentifier (name : String) : Prop :=
  ∃ first rest, name.toList = first :: rest ∧ IsLetter first ∧ ∀ c ∈ rest, IsLetter c ∨ ('0' ≤ c ∧ c ≤ '9')

theorem isNameStart_iff {c : Char} : isNameStart c = true ↔ IsLetter c := by
  have halpha : c.isAlpha = (decide ('A' ≤ c ∧ c ≤ 'Z') || (decide ('a' ≤ c) && decide (c ≤ 'z'))) := rfl
  simp only [isNameStart, halpha, Bool.or_eq_true, Bool.and_eq_true, decide_eq_true_eq, IsLetter, or_assoc]

theorem isNameChar_iff {c : Char} : isNameChar c = true ↔ IsLetter c ∨ ('0' ≤ c ∧ c ≤ '9') := by
  have hdigit : c.isDigit = (decide ('0' ≤ c) && decide (c ≤ '9')) := rfl
  rw [← isNameStart_iff]
  simp only [isNameChar, isNameStart, Char.isAlphanum, hdigit, Bool.or_eq_true, Bool.and_eq_true, decide_eq_true_eq]
  tauto

theorem isIdentifier_of_split {declaration name : String} {tag : Option String}
    (h : split? declaration = some (name, tag)) : IsIdentifier name := by
  set run := (declaration.toList.dropWhile Text.isBlank).takeWhile isNameChar with hrun
  have hname : run.head?.any isNameStart = true ∧ name = String.ofList run := by
    simp only [split?, ← hrun] at h
    split_ifs at h with hs
    · refine ⟨hs, ?_⟩
      split at h
      · simp_all
      · split_ifs at h
        simp_all
      · cases h
  obtain ⟨hs, rfl⟩ := hname
  cases hcons : run with
  | nil => simp [hcons] at hs
  | cons first rest =>
    rw [hcons] at hs
    refine ⟨first, rest, String.toList_ofList, isNameStart_iff.1 (by simpa using hs), fun c hc => ?_⟩
    have hmem : c ∈ run := by rw [hcons]; exact List.mem_cons_of_mem _ hc
    exact isNameChar_iff.1 (List.mem_takeWhile_imp hmem)

/-- the name of a declared parameter is an identifier -/
theorem isIdentifier_of_declaration {declaration : String} {parameter : Parameter}
    (h : ofDeclaration declaration = .ok parameter) : IsIdentifier parameter.name := by
  unfold ofDeclaration at h
  split at h
  · cases h
  · rename_i name hs
    cases h
    exact isIdentifier_of_split hs
  · rename_i name tag hs
    cases ht : typeOfTag tag with
    | error e => rw [ht] at h; cases h
    | ok type =>
      rw [ht] at h
      cases h
      exact isIdentifier_of_split hs

/-! ## Words read against parameters -/

/-- all words read, in order -/
theorem bindFrom_ok_iff {position : ℕ} {words : List String} {parameters : List Parameter} {values : List Value} :
    bindFrom position words parameters = .ok values ↔
      List.zipWith (fun word parameter => parameter.type.read? word) words parameters = values.map some := by
  induction words generalizing position parameters values with
  | nil => cases values <;> simp [bindFrom]
  | cons word words ih =>
    cases parameters with
    | nil => cases values <;> simp [bindFrom]
    | cons parameter parameters =>
      rw [bindFrom, List.zipWith_cons_cons]
      cases parameter.type.read? word with
      | none => cases values <;> simp
      | some value =>
        cases hrest : bindFrom (position + 1) words parameters with
        | error bad =>
          have hno : ∀ rest, List.zipWith (fun word (p : Parameter) => p.type.read? word) words parameters ≠
              List.map some rest := by
            intro rest hz
            rw [ih.2 hz] at hrest
            cases hrest
          cases values with
          | nil => simp [Except.map]
          | cons v rest => simpa [Except.map] using fun _ => hno rest
        | ok rest =>
          rw [ih.1 hrest]
          cases values with
          | nil => simp [Except.map]
          | cons v values => simp [Except.map, List.map_inj_right]

/-- the word at a place is the first that does not read against its parameter -/
structure FirstUnread (words : List String) (parameters : List Parameter) (i : ℕ) (word : String)
    (parameter : Parameter) : Prop where
  wordAt : words[i]? = some word
  parameterAt : parameters[i]? = some parameter
  unread : parameter.type.read? word = none
  before : ∀ j < i, ∀ earlier declared, words[j]? = some earlier → parameters[j]? = some declared →
    declared.type.read? earlier ≠ none

theorem firstUnread_succ {first : String} {words : List String} {declared : Parameter} {parameters : List Parameter}
    {i : ℕ} {word : String} {parameter : Parameter} :
    FirstUnread (first :: words) (declared :: parameters) (i + 1) word parameter ↔
      declared.type.read? first ≠ none ∧ FirstUnread words parameters i word parameter := by
  constructor
  · rintro ⟨hw, hp, hu, hb⟩
    refine ⟨hb 0 (by omega) first declared rfl rfl, by simpa using hw, by simpa using hp, hu, ?_⟩
    intro j hj earlier other he ho
    exact hb (j + 1) (by omega) earlier other (by simpa using he) (by simpa using ho)
  · rintro ⟨hfirst, hw, hp, hu, hb⟩
    refine ⟨by simpa using hw, by simpa using hp, hu, ?_⟩
    intro j hj earlier other he ho
    cases j with
    | zero =>
      simp only [List.getElem?_cons_zero, Option.some.injEq] at he ho
      rwa [← he, ← ho]
    | succ j => exact hb j (by omega) earlier other (by simpa using he) (by simpa using ho)

/-- what is reported is the first word that does not read, with its place and the type expected there -/
theorem bindFrom_error_iff {position : ℕ} {words : List String} {parameters : List Parameter} {bad : BadArgument} :
    bindFrom position words parameters = .error bad ↔
      ∃ i parameter, FirstUnread words parameters i bad.word parameter ∧
        bad.position = position + i ∧ bad.expected = parameter.type := by
  induction words generalizing position parameters with
  | nil =>
    simp only [bindFrom, reduceCtorEq, false_iff]
    rintro ⟨i, parameter, h, -⟩
    have := h.wordAt
    simp at this
  | cons first words ih =>
    cases parameters with
    | nil =>
      simp only [bindFrom, reduceCtorEq, false_iff]
      rintro ⟨i, parameter, h, -⟩
      have := h.parameterAt
      simp at this
    | cons declared parameters =>
      simp only [bindFrom]
      cases hread : declared.type.read? first with
      | none =>
        constructor
        · rintro h
          cases h
          exact ⟨0, declared, ⟨rfl, rfl, hread, fun j hj => absurd hj (Nat.not_lt_zero j)⟩, rfl, rfl⟩
        · rintro ⟨i, parameter, h, hposition, hexpected⟩
          cases i with
          | zero =>
            have hw := h.wordAt
            have hp := h.parameterAt
            simp only [List.getElem?_cons_zero, Option.some.injEq] at hw hp
            subst hp
            cases bad
            simp_all
          | succ i => exact absurd hread (firstUnread_succ.1 h).1
      | some value =>
        have hmap : ∀ result : Except BadArgument (List Value),
            result.map (value :: ·) = .error bad ↔ result = .error bad := by
          intro result
          cases result <;> simp [Except.map]
        rw [hmap, ih]
        constructor
        · rintro ⟨i, parameter, h, hposition, hexpected⟩
          exact ⟨i + 1, parameter, firstUnread_succ.2 ⟨by simp [hread], h⟩, by omega, hexpected⟩
        · rintro ⟨i, parameter, h, hposition, hexpected⟩
          cases i with
          | zero =>
            have hu := h.unread
            have hw := h.wordAt
            have hp := h.parameterAt
            simp only [List.getElem?_cons_zero, Option.some.injEq] at hw hp
            rw [← hw, ← hp, hread] at hu
            cases hu
          | succ i => exact ⟨i, parameter, (firstUnread_succ.1 h).2, by omega, hexpected⟩

end HostConsole.Parameter

/-
Lines of a text. A line is what stands between two line breaks, so that a text has one line more than breaks
(`length_linesOf`). What is joined by breaks has the lines of its parts, one after the other (`splitOn_intercalate`),
and what stands in front of a text without a break belongs to its first line (`splitOn_append`).
-/
import Mathlib.Tactic

namespace HostConsole.Text

/-- the lines of a text -/
def linesOf (text : String) : List (List Char) :=
  text.toList.splitOn '\n'

/-- the character in a column of a line, counted from the first line of the text -/
def charAt? (text : String) (line column : ℕ) : Option Char :=
  (linesOf text)[line]?.bind (·[column]?)

/-- the first line of a text -/
def firstLine (text : String) : List Char :=
  (linesOf text).headD []

/-! ## Splitting -/

theorem splitOn_eq_cons (s : List Char) : s.splitOn '\n' = (s.splitOn '\n').headD [] :: (s.splitOn '\n').tail := by
  cases h : s.splitOn '\n' with
  | nil => exact absurd h (List.splitOn_ne_nil '\n' s)
  | cons line lines => rfl

theorem splitOn_append {front : List Char} (h : '\n' ∉ front) (s : List Char) :
    (front ++ s).splitOn '\n' = (front ++ (s.splitOn '\n').headD []) :: (s.splitOn '\n').tail := by
  induction front with
  | nil => exact splitOn_eq_cons s
  | cons c front ih =>
    obtain ⟨hc, hfront⟩ := not_or.1 (List.mem_cons.not.1 h)
    rw [List.cons_append, List.splitOn_cons_eq_if_modifyHead, if_neg (by simpa using Ne.symm hc), ih hfront]
    rfl

/-- there is one line more than there are breaks -/
theorem length_splitOn (s : List Char) : (s.splitOn '\n').length = s.count '\n' + 1 := by
  induction s with
  | nil => rfl
  | cons c s ih =>
    rw [List.splitOn_cons_eq_if_modifyHead, List.count_cons]
    split_ifs <;> simp [ih]

/-! ## Joining -/

/-- joined texts have the lines of all of them -/
theorem splitOn_intercalate {parts : List (List Char)} (h : parts ≠ []) :
    (['\n'].intercalate parts).splitOn '\n' = parts.flatMap (List.splitOn '\n') := by
  induction parts with
  | nil => exact absurd rfl h
  | cons part parts ih =>
    cases parts with
    | nil => simp
    | cons next parts =>
      rw [List.intercalate_cons_cons, List.append_assoc, List.singleton_append, List.splitOn_append_cons_self,
        ih (List.cons_ne_nil next parts)]
      exact List.flatMap_cons.symm

theorem mem_intercalate {lines : List (List Char)} {c : Char} (h : c ∈ ['\n'].intercalate lines) :
    c = '\n' ∨ ∃ line ∈ lines, c ∈ line := by
  induction lines with
  | nil => cases h
  | cons line lines ih =>
    cases lines with
    | nil => exact Or.inr ⟨line, List.mem_singleton_self _, by simpa using h⟩
    | cons next lines =>
      rw [List.intercalate_cons_cons, List.mem_append, List.mem_append, List.mem_singleton] at h
      rcases h with (h | h) | h
      · exact Or.inr ⟨line, List.mem_cons_self, h⟩
      · exact Or.inl h
      · exact (ih h).imp_right fun ⟨other, hother, hc⟩ => ⟨other, List.mem_cons_of_mem _ hother, hc⟩

/-- a character that is no line break is counted line by line -/
theorem count_intercalate {c : Char} (hc : c ≠ '\n') (lines : List (List Char)) :
    (['\n'].intercalate lines).count c = (lines.map (List.count c)).sum := by
  induction lines with
  | nil => rfl
  | cons line lines ih =>
    cases lines with
    | nil => simp
    | cons next lines =>
      rw [List.intercalate_cons_cons, List.count_append, List.count_append, List.count_singleton, ih, List.map_cons,
        List.sum_cons]
      simp [hc.symm]

/-! ## Lines -/

theorem linesOf_eq_cons (text : String) : linesOf text = firstLine text :: (linesOf text).tail :=
  splitOn_eq_cons text.toList

theorem linesOf_eq_singleton {text : String} (h : '\n' ∉ text.toList) : linesOf text = [text.toList] :=
  List.splitOn_eq_singleton h

theorem firstLine_eq_self {text : String} (h : '\n' ∉ text.toList) : firstLine text = text.toList := by
  rw [firstLine, linesOf_eq_singleton h]
  rfl

theorem length_linesOf (text : String) : (linesOf text).length = text.toList.count '\n' + 1 :=
  length_splitOn text.toList

end HostConsole.Text

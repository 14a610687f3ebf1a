/-
Matching brackets. Brackets are counted as a reader does it, by the closing brackets that are due (`due`). A text is
balanced if each closing bracket in it is the one that is due, and none is due in the end; balanced texts can be joined
(`Balanced.append`) and put in brackets (`Balanced.wrap`).

Result: `not_balanced_of_cut`. No text in brackets has a cut that leaves a balanced rest, unless the cut is outside.
-/
import Mathlib.Tactic

namespace HostConsole.Text

/-! ## Brackets -/

/-- the bracket that closes an opening one -/
def closing? : Char → Option Char
  | '<' => some '>'
  | '(' => some ')'
  | '[' => some ']'
  | _ => none

/-- closing brackets -/
def isClosing (c : Char) : Bool :=
  c = '>' || c = ')' || c = ']'

/-- the closing brackets that are due after one character more, the next one first; none if it closes what is not due -/
def due? (pending : List Char) (c : Char) : Option (List Char) :=
  match closing? c, pending with
  | some d, _ => some (d :: pending)
  | none, [] => if isClosing c then none else some []
  | none, d :: outer => if ¬ isClosing c then some (d :: outer) else if d = c then some outer else none

/-- the closing brackets that are due after a text -/
def due (pending text : List Char) : Option (List Char) :=
  text.foldlM due? pending

/-- the brackets of a text match, and none stays open -/
def Balanced (text : List Char) : Prop :=
  due [] text = some []
  deriving Decidable

theorem due_append (pending s t : List Char) : due pending (s ++ t) = (due pending s).bind (due · t) :=
  List.foldlM_append

theorem due_cons (pending : List Char) (c : Char) (s : List Char) :
    due pending (c :: s) = (due? pending c).bind (due · s) :=
  List.foldlM_cons

theorem due?_below {pending left : List Char} {c : Char} (h : due? pending c = some left) (below : List Char) :
    due? (pending ++ below) c = some (left ++ below) := by
  cases hopen : closing? c with
  | some d =>
    simp only [due?, hopen, Option.some.injEq] at h ⊢
    rw [← h, List.cons_append]
  | none =>
    cases pending with
    | nil =>
      simp only [due?, hopen] at h
      split_ifs at h with hclosing
      cases h
      cases below <;> simp [due?, hopen, hclosing]
    | cons d outer =>
      simp only [due?, hopen, List.cons_append] at h ⊢
      split_ifs at h ⊢ <;> cases h <;> rfl

/-- what is due outside stays due, below what is due inside -/
theorem due_below {pending left s : List Char} (h : due pending s = some left) (below : List Char) :
    due (pending ++ below) s = some (left ++ below) := by
  induction s generalizing pending with
  | nil =>
    cases h
    rfl
  | cons c s ih =>
    rw [due_cons, Option.bind_eq_some_iff] at h
    obtain ⟨next, hstep, hrest⟩ := h
    rw [due_cons, due?_below hstep, Option.bind_some]
    exact ih hrest

theorem isClosing_of_closing? {o c : Char} (h : closing? o = some c) : isClosing c = true := by
  unfold closing? at h
  split at h <;> cases h <;> rfl

theorem closing?_of_isClosing {c : Char} (h : isClosing c = true) : closing? c = none := by
  simp only [isClosing, Bool.or_eq_true, decide_eq_true_eq] at h
  obtain (rfl | rfl) | rfl := h <;> rfl

/-- a closing bracket takes one bracket away from what is due -/
theorem due_closing {c : Char} (h : isClosing c = true) {pending left : List Char} :
    due pending [c] = some left ↔ pending = c :: left := by
  rw [due, List.foldlM_cons, due?.eq_def, closing?_of_isClosing h]
  cases pending with
  | nil => simp [h]
  | cons d outer => by_cases hd : d = c <;> simp [h, hd]

theorem Balanced.due_eq {s : List Char} (h : Balanced s) (pending : List Char) : due pending s = some pending :=
  due_below h pending

theorem Balanced.append {s t : List Char} (hs : Balanced s) (ht : Balanced t) : Balanced (s ++ t) := by
  rw [Balanced, due_append, hs.due_eq, Option.bind_some]
  exact ht

theorem Balanced.wrap {o c : Char} (h : closing? o = some c) {s : List Char} (hs : Balanced s) :
    Balanced (o :: (s ++ [c])) := by
  have hopen : due? [] o = some [c] := by simp [due?, h]
  rw [Balanced, due_cons, hopen, Option.bind_some, due_append, hs.due_eq, Option.bind_some]
  exact (due_closing (isClosing_of_closing? h)).2 rfl

/-- a text without brackets is balanced -/
theorem balanced_of_plain {s : List Char} (h : ∀ c ∈ s, closing? c = none ∧ ¬ isClosing c = true) : Balanced s := by
  induction s with
  | nil => rfl
  | cons c s ih =>
    obtain ⟨hopen, hclosing⟩ := h c List.mem_cons_self
    have hskip : due? [] c = some [] := by simp [due?, hopen, hclosing]
    rw [Balanced, due_cons, hskip, Option.bind_some]
    exact ih fun d hd => h d (List.mem_cons_of_mem c hd)

/-- **A cut behind an opening bracket, and before the end of the closing one, leaves a rest that is not balanced**: the
rest closes a bracket that is not open in it. -/
theorem not_balanced_of_cut {o c : Char} (h : closing? o = some c) {inner before rest : List Char}
    (hinner : Balanced inner) (hcut : inner ++ [c] = before ++ rest) (hrest : rest ≠ []) : ¬ Balanced rest := by
  intro hbalanced
  obtain ⟨init, last, rfl⟩ := List.eq_nil_or_concat' rest |>.resolve_left hrest
  rw [← List.append_assoc] at hcut
  obtain ⟨hsplit, hlast⟩ := List.append_inj' hcut rfl
  cases hlast
  -- what the rest closes last is due after all before it, so it would be open after the text between the brackets
  have hdue : due [] init = some [c] := by
    rw [Balanced, due_append, Option.bind_eq_some_iff] at hbalanced
    obtain ⟨left, hinit, hleft⟩ := hbalanced
    rwa [(due_closing (isClosing_of_closing? h)).1 hleft] at hinit
  rw [hsplit, Balanced, due_append, Option.bind_eq_some_iff] at hinner
  obtain ⟨pending, -, hnone⟩ := hinner
  have hsome := due_below hdue pending
  rw [List.nil_append, hnone] at hsome
  simp at hsome

end HostConsole.Text

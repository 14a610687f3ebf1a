/-
What a collection of receivers holds. The instance of a kind is the one inserted last among those of the kind
(`Receivers.latest`), whatever else was inserted before, between and after; and what is found under a kind is an
instance of this kind.
-/
import Mathlib.Tactic
import HostConsole.Host.Receivers

namespace HostConsole

variable {H : Host}

@[simp] theorem Receiver.as?_self (kind : H.Kind) (ref : H.Instance kind) :
    (⟨kind, ref⟩ : Receiver H).as? kind = some ref := by
  simp [as?]

theorem Receiver.as?_of_ne {receiver : Receiver H} {kind : H.Kind} (h : receiver.kind ≠ kind) :
    receiver.as? kind = none := by
  simp [as?, h]

namespace Receivers

/-- the collection after these insertions, in order -/
def ofInserted (inserted : List (Receiver H)) : Receivers H :=
  inserted.foldl insert empty

/-- the instance of a kind that was inserted last: the first one from the end -/
def latest (kind : H.Kind) (inserted : List (Receiver H)) : Option (H.Instance kind) :=
  inserted.reverse.findSome? (·.as? kind)

/-- what is found under a kind after one more insertion -/
theorem find?_insert (receivers : Receivers H) (receiver : Receiver H) (kind : H.Kind) :
    (receivers.insert receiver).find? kind =
      if receiver.kind = kind then some receiver else receivers.find? kind := by
  simp only [insert, find?, List.find?_append, List.find?_filter, List.find?_singleton]
  by_cases h : receiver.kind = kind
  · -- the instance of this kind that stood there before is taken out
    have hnone : receivers.toList.find? (fun other =>
        decide (decide (other.kind ≠ receiver.kind) = true ∧ decide (other.kind = kind) = true)) = none := by
      rw [List.find?_eq_none]
      intro other _ hboth
      simp only [decide_eq_true_eq] at hboth
      exact hboth.1 (hboth.2.trans h.symm)
    rw [hnone]
    simp [h]
  · have hsame : (fun other : Receiver H =>
        decide (decide (other.kind ≠ receiver.kind) = true ∧ decide (other.kind = kind) = true)) =
        fun other => decide (other.kind = kind) := by
      funext other
      simp only [decide_eq_true_eq, decide_eq_decide]
      exact ⟨And.right, fun hk => ⟨fun he => h (he ▸ hk), hk⟩⟩
    rw [hsame]
    simp [h]

/-- what is found under a kind is an instance of it -/
theorem find?_eq_map_get? (receivers : Receivers H) (kind : H.Kind) :
    receivers.find? kind = (receivers.get? kind).map fun ref => ⟨kind, ref⟩ := by
  cases h : receivers.find? kind with
  | none => simp [get?, h]
  | some receiver =>
    obtain ⟨other, ref⟩ := receiver
    have hkind : other = kind := by simpa using List.find?_some h
    subst hkind
    simp [get?, h]

theorem get?_insert (receivers : Receivers H) (receiver : Receiver H) (kind : H.Kind) :
    (receivers.insert receiver).get? kind = (receiver.as? kind).or (receivers.get? kind) := by
  obtain ⟨other, ref⟩ := receiver
  by_cases h : other = kind
  · subst h
    rw [get?, find?_insert, if_pos rfl, Option.bind_some, Receiver.as?_self, Option.some_or]
  · rw [get?, find?_insert, if_neg h, Receiver.as?_of_ne h, Option.none_or, get?]

/-- **The instance of a kind is the one inserted last** -/
theorem get?_ofInserted (inserted : List (Receiver H)) (kind : H.Kind) :
    (ofInserted inserted).get? kind = latest kind inserted := by
  induction inserted using List.reverseRecOn with
  | nil => rfl
  | append_singleton inserted receiver ih =>
    rw [latest, List.reverse_concat, List.findSome?_cons, ← latest, ← ih, ofInserted, List.foldl_append, ← ofInserted]
    rw [List.foldl_cons, List.foldl_nil, get?_insert]
    cases receiver.as? kind <;> rfl

end Receivers

end HostConsole

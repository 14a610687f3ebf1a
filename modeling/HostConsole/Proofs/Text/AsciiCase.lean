/-
Lowercase does not see the case of ASCII letters. An ASCII letter and its other case are both cased, neither is looked
through by the final-sigma rule, and both have the same lowercase; so a sigma is decided alike beside either of them.

Results: texts that differ at most in the case of ASCII letters have one lowercase (`lower_eq_of_same`), and one of
them is a word exactly if the other is (`isWord_iff_of_same`).
-/
import Mathlib.Tactic
import HostConsole.Proofs.Text.Lower

namespace HostConsole.Text

/-! ## Single characters -/

/-- the ASCII capitals -/
def asciiCapitals : List Char :=
  "ABCDEFGHIJKLMNOPQRSTUVWXYZ".toList

/-- a character is an ASCII capital, or it is its own small letter -/
theorem toLower_cases (c : Char) : c ∈ asciiCapitals ∨ c.toLower = c := by
  by_cases h : c.val ≥ 'A'.val ∧ c.val ≤ 'Z'.val
  · refine Or.inl ?_
    have hn : 65 ≤ c.toNat ∧ c.toNat ≤ 90 := by
      simpa [UInt32.le_iff_toNat_le, ← Char.toNat_val] using h
    have hall : ∀ n ∈ List.range' 65 26, Char.ofNat n ∈ asciiCapitals := by decide
    have hmem := hall c.toNat (List.mem_range'_1.2 (by omega))
    rwa [Char.ofNat_toNat] at hmem
  · exact Or.inr (dif_neg h)

/-- what the tables say of a capital and its small letter -/
theorem asciiCapitals_tables {c : Char} (h : c ∈ asciiCapitals) :
    isBlank c.toLower = isBlank c ∧ isCased c.toLower = isCased c ∧ lowerChar c = [c.toLower] ∧
      (c.toLower = 'Σ' ↔ c = 'Σ') ∧ (closedRun (65, 90)).covers c.toNat = true ∧
      (closedRun (97, 122)).covers c.toLower.toNat = true := by
  have hall : (asciiCapitals.all fun c => decide (isBlank c.toLower = isBlank c ∧ isCased c.toLower = isCased c ∧
      lowerChar c = [c.toLower] ∧ (c.toLower = 'Σ' ↔ c = 'Σ') ∧ (closedRun (65, 90)).covers c.toNat = true ∧
      (closedRun (97, 122)).covers c.toLower.toNat = true)) = true := by
    decide +kernel
  exact of_decide_eq_true (List.all_eq_true.1 hall c h)

theorem letters_apart_caseIgnorableRanges :
    ([closedRun (65, 90), closedRun (97, 122)].all fun run =>
      caseIgnorableRanges.all fun range => run.apart (closedRun range)) = true := by
  decide +kernel

theorem isBlank_toLower (c : Char) : isBlank c.toLower = isBlank c := by
  rcases toLower_cases c with h | h
  · exact (asciiCapitals_tables h).1
  · rw [h]

theorem isCased_toLower (c : Char) : isCased c.toLower = isCased c := by
  rcases toLower_cases c with h | h
  · exact (asciiCapitals_tables h).2.1
  · rw [h]

/-- no ASCII letter is looked through by the final-sigma rule -/
theorem isCaseIgnorable_toLower (c : Char) : isCaseIgnorable c.toLower = isCaseIgnorable c := by
  rcases toLower_cases c with h | h
  · obtain ⟨-, -, -, -, hcapital, hsmall⟩ := asciiCapitals_tables h
    have hapart := List.all_eq_true.1 letters_apart_caseIgnorableRanges
    have hupper : isCaseIgnorable c = false := within_eq_false_of_apart (hapart _ (by simp)) hcapital
    have hlower : isCaseIgnorable c.toLower = false := within_eq_false_of_apart (hapart _ (by simp)) hsmall
    rw [hupper, hlower]
  · rw [h]

/-- the lowercase of a capital is its small letter, which is its own lowercase -/
theorem lowerChar_toLower (c : Char) : lowerChar c.toLower = lowerChar c := by
  rcases toLower_cases c with h | h
  · obtain ⟨-, -, hc, -⟩ := asciiCapitals_tables h
    have hsettled : Settled c.toLower := settled_of_mem_lowerChar (by rw [hc]; exact List.mem_singleton_self _)
    rw [hsettled.2, hc]
  · rw [h]

theorem toLower_eq_sigma_iff (c : Char) : c.toLower = 'Σ' ↔ c = 'Σ' := by
  rcases toLower_cases c with h | h
  · exact (asciiCapitals_tables h).2.2.2.1
  · rw [h]

/-! ## Texts -/

theorem meetsCased_map_toLower (s : List Char) : meetsCased (s.map Char.toLower) = meetsCased s := by
  have hcomp : isCaseIgnorable ∘ Char.toLower = isCaseIgnorable := funext isCaseIgnorable_toLower
  unfold meetsCased
  rw [List.dropWhile_map, hcomp]
  cases s.dropWhile isCaseIgnorable with
  | nil => rfl
  | cons c rest => exact isCased_toLower c

theorem lowerSigma_map_toLower (before after : List Char) :
    lowerSigma (before.map Char.toLower) (after.map Char.toLower) = lowerSigma before after := by
  rw [lowerSigma, meetsCased_map_toLower, meetsCased_map_toLower, lowerSigma]

theorem lowerAfter_map_toLower (before s : List Char) :
    lowerAfter (before.map Char.toLower) (s.map Char.toLower) = lowerAfter before s := by
  induction s generalizing before with
  | nil => rfl
  | cons c rest ih =>
    have hrest := ih (c :: before)
    rw [List.map_cons] at hrest
    simp only [List.map_cons, lowerAfter, toLower_eq_sigma_iff, lowerSigma_map_toLower, lowerChar_toLower, hrest]

theorem sameIgnoringAsciiCase_iff {s t : String} :
    sameIgnoringAsciiCase s t = true ↔ s.toList.map Char.toLower = t.toList.map Char.toLower :=
  beq_iff_eq

/-- **Lowercase does not see ASCII case** -/
theorem lower_eq_of_same {s t : String} (h : sameIgnoringAsciiCase s t = true) : lower s = lower t := by
  have hs := lowerAfter_map_toLower [] s.toList
  have ht := lowerAfter_map_toLower [] t.toList
  rw [lower, lower, lowerChars, lowerChars, ← hs, ← ht, sameIgnoringAsciiCase_iff.1 h]

/-- every character of the text is an ASCII character -/
def IsAscii (s : String) : Prop :=
  ∀ c ∈ s.toList, c.toNat < 128

instance : DecidablePred IsAscii :=
  fun s => List.decidableBAll (fun c : Char => c.toNat < 128) s.toList

/-- the other case of an ASCII letter is one too -/
theorem toNat_toLower_lt_iff (c : Char) : c.toLower.toNat < 128 ↔ c.toNat < 128 := by
  rcases toLower_cases c with h | h
  · obtain ⟨-, -, -, -, hcapital, hsmall⟩ := asciiCapitals_tables h
    rw [covers_closedRun] at hcapital hsmall
    omega
  · rw [h]

/-- what differs from an ASCII text in the case of ASCII letters alone is one too -/
theorem isAscii_of_same {s t : String} (h : sameIgnoringAsciiCase s t = true) (ht : IsAscii t) : IsAscii s := by
  intro c hc
  have hmem : c.toLower ∈ s.toList.map Char.toLower := List.mem_map_of_mem hc
  rw [sameIgnoringAsciiCase_iff.1 h] at hmem
  obtain ⟨d, hd, hlower⟩ := List.mem_map.1 hmem
  rw [← toNat_toLower_lt_iff, ← hlower, toNat_toLower_lt_iff]
  exact ht d hd

theorem isWord_map_toLower (s : List Char) : IsWord (s.map Char.toLower) ↔ IsWord s := by
  simp [IsWord, isBlank_toLower]

theorem isWord_iff_of_same {s t : String} (h : sameIgnoringAsciiCase s t = true) :
    IsWord s.toList ↔ IsWord t.toList := by
  rw [← isWord_map_toLower, sameIgnoringAsciiCase_iff.1 h, isWord_map_toLower]

end HostConsole.Text

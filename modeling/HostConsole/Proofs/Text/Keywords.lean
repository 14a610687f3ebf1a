/-
Keywords in lowercase. Of all characters only ASCII letters have ASCII letters for their lowercase, but for the Kelvin
sign, whose lowercase is `k`. The dotted capital U+0130 becomes an `i` with a mark that is not ASCII, and a sigma stays
a sigma. So a keyword in ASCII without `k` is the lowercase of its own case variants only (`lower_eq_iff`).
-/
import HostConsole.Proofs.Text.AsciiCase

namespace HostConsole.Text

/-- an ASCII character that is the lowercase of no character beyond ASCII -/
def isPlain (c : Char) : Bool :=
  c.toNat < 128 && c != 'k'

/-- a lowercase word of such characters -/
structure IsKeyword (word : String) : Prop where
  own : lower word = word
  plain : ∀ c ∈ word.toList, isPlain c = true

instance : DecidablePred IsKeyword :=
  fun word => decidable_of_iff (lower word = word ∧ word.toList.all isPlain = true)
    ⟨fun h => ⟨h.1, List.all_eq_true.1 h.2⟩, fun h => ⟨h.own, List.all_eq_true.2 h.plain⟩⟩

/-! ## Single characters -/

theorem isPlain_iff {c : Char} : isPlain c = true ↔
    (closedRun (0, 106)).covers c.toNat = true ∨ (closedRun (108, 127)).covers c.toNat = true := by
  have hk : c = 'k' ↔ c.toNat = 107 := by
    rw [← Char.toNat_inj]
    rfl
  simp only [isPlain, Bool.and_eq_true, decide_eq_true_eq, bne_iff_ne, ne_eq, hk, covers_closedRun]
  omega

/-- every mapped run but the ASCII capitals leads to characters of another kind -/
theorem image_apart_plain {r : CaseRange} (hr : r ∈ lowercaseRanges) :
    r = ⟨65, 90, 1, 32⟩ ∨
      (r.image.apart (closedRun (0, 106)) = true ∧ r.image.apart (closedRun (108, 127)) = true) := by
  have hall : (lowercaseRanges.all fun r => (r.first == 65 && r.last == 90 && r.step == 1 && r.offset == 32) ||
      (r.image.apart (closedRun (0, 106)) && r.image.apart (closedRun (108, 127)))) = true := by
    decide +kernel
  have h := List.all_eq_true.1 hall r hr
  obtain ⟨first, last, step, offset⟩ := r
  simpa [and_assoc] using h

/-- a character with such a lowercase is an ASCII letter of either case, or has no case -/
theorem simpleLower_eq_toLower {c : Char} (h : isPlain (simpleLower c) = true) : simpleLower c = c.toLower := by
  rcases toLower_cases c with hcapital | hsmall
  · obtain ⟨-, -, hlower, -⟩ := asciiCapitals_tables hcapital
    have hdotted : c ≠ '\u0130' := by
      rintro rfl
      exact absurd hcapital (by decide)
    rw [lowerChar, if_neg hdotted] at hlower
    exact List.singleton_inj.1 hlower
  · rw [hsmall]
    rcases simpleLower_cases c with ⟨-, hself⟩ | ⟨r, hr, hcovers, himage⟩
    · exact hself
    · rcases image_apart_plain hr with rfl | ⟨hbelow, habove⟩
      · -- the capitals are no small letters
        have hcapital : c ∈ asciiCapitals := by
          obtain ⟨h1, h2, -⟩ := CaseRange.covers_iff.1 hcovers
          have hall : ∀ n ∈ List.range' 65 26, Char.ofNat n ∈ asciiCapitals := by decide
          have hmem := hall c.toNat (List.mem_range'_1.2 ⟨h1, Nat.lt_succ_of_le h2⟩)
          rwa [Char.ofNat_toNat] at hmem
        have hall : (asciiCapitals.all fun d => d.toLower != d) = true := by decide
        exact absurd hsmall (bne_iff_ne.1 (List.all_eq_true.1 hall c hcapital))
      · rcases isPlain_iff.1 h with hrun | hrun
        · rw [CaseRange.not_covers_of_apart hbelow himage] at hrun
          cases hrun
        · rw [CaseRange.not_covers_of_apart habove himage] at hrun
          cases hrun

/-! ## Texts -/

theorem not_isPlain_lowerSigma (before after : List Char) : isPlain (lowerSigma before after) = false := by
  unfold lowerSigma
  split_ifs <;> decide

/-- a text with such a lowercase differs from it in the case of ASCII letters alone -/
theorem lowerAfter_eq_map {before s : List Char} (h : ∀ c ∈ lowerAfter before s, isPlain c = true) :
    lowerAfter before s = s.map Char.toLower := by
  induction s generalizing before with
  | nil => rfl
  | cons c rest ih =>
    simp only [lowerAfter, List.forall_mem_append] at h
    obtain ⟨hc, hrest⟩ := h
    rw [lowerAfter, List.map_cons, ih hrest]
    split_ifs at hc ⊢ with hsigma
    · have hplain := hc _ (List.mem_singleton_self _)
      rw [not_isPlain_lowerSigma] at hplain
      cases hplain
    · unfold lowerChar at hc ⊢
      split_ifs at hc ⊢ with hdotted
      · exact absurd (hc '\u0307' (by simp)) (by decide)
      · rw [simpleLower_eq_toLower (hc _ (List.mem_singleton_self _))]
        rfl

/-- a text with a keyword for its lowercase is that keyword, but for ASCII case -/
theorem map_toLower_of_lower {word s : String} (hword : IsKeyword word) (h : lower s = word) :
    s.toList.map Char.toLower = word.toList := by
  have hlist : lowerAfter [] s.toList = word.toList := by
    rw [← h, toList_lower]
    rfl
  rw [← hlist]
  exact (lowerAfter_eq_map fun c hc => hword.plain c (hlist ▸ hc)).symm

/-- **A keyword is the lowercase of its own ASCII case variants and of no other text.** -/
theorem lower_eq_iff {word : String} (hword : IsKeyword word) {s : String} :
    lower s = word ↔ sameIgnoringAsciiCase s word = true := by
  constructor
  · intro h
    rw [sameIgnoringAsciiCase_iff, map_toLower_of_lower hword h, map_toLower_of_lower hword hword.own]
  · intro h
    rw [lower_eq_of_same h, hword.own]

/-- the Kelvin sign passes for a `k` -/
example : lower "\u212A" = "k" := by decide +kernel

end HostConsole.Text

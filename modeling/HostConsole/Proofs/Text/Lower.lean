/-
What lowercase leaves fixed. The mapped code points and their images are runs, and two runs are apart when their
intervals are, or when both keep to one parity and the parities differ; the tables are compared run by run.

Results:
- `lower_lower`: lowercase of a lowercase text is that text, also where a sigma had to be decided;
- `any_isBlank_lowerChars`: lowercase neither makes a blank nor takes one away;
- `foldName_foldName`: a folded name without blanks is its own folded name.
-/
import HostConsole.Text.Lower
import HostConsole.Proofs.Text.Words

namespace HostConsole.Text

/-! ## Runs of code points -/

/-- the code points to which a run is mapped -/
def CaseRange.image (range : CaseRange) : CaseRange :=
  ⟨(range.first + range.offset).toNat, (range.last + range.offset).toNat, range.step, 0⟩

/-- all code points of the run are even, or all are odd -/
def CaseRange.keepsParity (range : CaseRange) : Bool :=
  range.step % 2 == 0 || range.first == range.last

/-- the runs have no code point in common, by their ends or by parity -/
def CaseRange.apart (r s : CaseRange) : Bool :=
  Nat.blt r.last s.first || Nat.blt s.last r.first ||
    (r.keepsParity && s.keepsParity && (r.first + s.first) % 2 == 1)

/-- a closed range of code points as a run -/
def closedRun (range : Nat × Nat) : CaseRange :=
  ⟨range.1, range.2, 1, 0⟩

theorem CaseRange.covers_iff {range : CaseRange} {point : Nat} : range.covers point = true ↔
    range.first ≤ point ∧ point ≤ range.last ∧ (point - range.first) % range.step = 0 := by
  simp [CaseRange.covers, and_assoc]

theorem CaseRange.parity_of_covers {range : CaseRange} {point : Nat} (hk : range.keepsParity = true)
    (h : range.covers point = true) : point % 2 = range.first % 2 := by
  obtain ⟨h1, h2, h3⟩ := covers_iff.1 h
  simp only [keepsParity, Bool.or_eq_true, beq_iff_eq] at hk
  rcases hk with hk | hk
  · have h4 : (point - range.first) % 2 = 0 :=
      Nat.mod_eq_zero_of_dvd (Nat.dvd_trans (Nat.dvd_of_mod_eq_zero hk) (Nat.dvd_of_mod_eq_zero h3))
    omega
  · have h4 : point = range.first := by omega
    rw [h4]

theorem CaseRange.not_covers_of_apart {r s : CaseRange} {point : Nat} (h : r.apart s = true)
    (hr : r.covers point = true) : s.covers point = false := by
  refine Bool.eq_false_iff.2 fun hs => ?_
  obtain ⟨r1, r2, -⟩ := covers_iff.1 hr
  obtain ⟨s1, s2, -⟩ := covers_iff.1 hs
  simp only [apart, Bool.or_eq_true, Bool.and_eq_true, Nat.blt_eq, beq_iff_eq] at h
  rcases h with (h | h) | ⟨⟨hkr, hks⟩, h⟩
  · omega
  · omega
  · have := parity_of_covers hkr hr
    have := parity_of_covers hks hs
    omega

theorem covers_closedRun {range : Nat × Nat} {point : Nat} :
    (closedRun range).covers point = true ↔ range.1 ≤ point ∧ point ≤ range.2 := by
  simp [CaseRange.covers_iff, closedRun, Nat.mod_one]

theorem within_iff {ranges : List (Nat × Nat)} {c : Char} :
    within ranges c = true ↔ ∃ range ∈ ranges, (closedRun range).covers c.toNat = true := by
  simp [within, covers_closedRun]

/-- no character of a run is in a class whose ranges are all apart from the run -/
theorem within_eq_false_of_apart {run : CaseRange} {ranges : List (Nat × Nat)} {c : Char}
    (ha : (ranges.all fun range => run.apart (closedRun range)) = true) (hc : run.covers c.toNat = true) :
    within ranges c = false := by
  refine Bool.eq_false_iff.2 fun hw => ?_
  obtain ⟨range, hr, hcovers⟩ := within_iff.1 hw
  rw [CaseRange.not_covers_of_apart (List.all_eq_true.1 ha range hr) hc] at hcovers
  cases hcovers

/-! ## The tables, run by run -/

/-- the images of the mapped runs are characters -/
def CaseRange.mapsToChars (range : CaseRange) : Bool :=
  0 ≤ range.first + range.offset &&
    (range.image.last < 0xD800 || (0xDFFF < range.image.first && range.image.last < 0x110000))

/-- a mapped run with an image of characters that no run maps on, apart from the dotted capital; no blank is in it or
in its image -/
def CaseRange.regular (range : CaseRange) : Bool :=
  range.mapsToChars && lowercaseRanges.all range.image.apart && range.image.apart (closedRun (0x130, 0x130)) &&
    blankRanges.all fun blanks => range.apart (closedRun blanks) && range.image.apart (closedRun blanks)

theorem regular_lowercaseRanges {r : CaseRange} (hr : r ∈ lowercaseRanges) :
    r.mapsToChars = true ∧ (∀ s ∈ lowercaseRanges, r.image.apart s = true) ∧
      r.image.apart (closedRun (0x130, 0x130)) = true ∧
      (blankRanges.all fun blanks => r.apart (closedRun blanks)) = true ∧
      (blankRanges.all fun blanks => r.image.apart (closedRun blanks)) = true := by
  have hall : lowercaseRanges.all CaseRange.regular = true := by
    decide +kernel
  have h := List.all_eq_true.1 hall r hr
  simp only [CaseRange.regular, Bool.and_eq_true, List.all_eq_true] at h
  obtain ⟨⟨⟨hm, hi⟩, hd⟩, hb⟩ := h
  exact ⟨hm, hi, hd, List.all_eq_true.2 fun b h => (hb b h).1, List.all_eq_true.2 fun b h => (hb b h).2⟩

theorem covers_sigma : ∃ r ∈ lowercaseRanges, r.covers 'Σ'.toNat = true := by
  decide

theorem CaseRange.covers_image {range : CaseRange} {point : Nat} (hm : range.mapsToChars = true)
    (h : range.covers point = true) : range.image.covers (point + range.offset).toNat = true := by
  obtain ⟨h1, h2, h3⟩ := covers_iff.1 h
  simp only [mapsToChars, Bool.and_eq_true, decide_eq_true_eq] at hm
  have h0 := hm.1
  refine covers_iff.2 ⟨?_, ?_, ?_⟩
  · simp only [image]; omega
  · simp only [image]; omega
  · have h4 : (point + range.offset).toNat - (range.first + range.offset).toNat = point - range.first := by omega
    simpa only [image, h4] using h3

/-! ## Single characters -/

theorem toNat_charOfNat {n : Nat} (h : n.isValidChar) : (Char.ofNat n).toNat = n := by
  rw [Char.ofNat, dif_pos h]
  rfl

/-- a character is left as it is, or it is mapped by a run -/
theorem simpleLower_cases (c : Char) :
    ((∀ r ∈ lowercaseRanges, r.covers c.toNat = false) ∧ simpleLower c = c) ∨
      ∃ r ∈ lowercaseRanges, r.covers c.toNat = true ∧ r.image.covers (simpleLower c).toNat = true := by
  unfold simpleLower
  cases hf : lowercaseRanges.find? (·.covers c.toNat) with
  | none => exact Or.inl ⟨fun r hr => by simpa using List.find?_eq_none.1 hf r hr, rfl⟩
  | some r =>
    have hr := List.mem_of_find?_eq_some hf
    have hc : r.covers c.toNat = true := by simpa using List.find?_some hf
    have hm := (regular_lowercaseRanges hr).1
    have hi := CaseRange.covers_image hm hc
    refine Or.inr ⟨r, hr, hc, ?_⟩
    have hv : (c.toNat + r.offset).toNat.isValidChar := by
      obtain ⟨h1, h2, -⟩ := CaseRange.covers_iff.1 hi
      simp only [CaseRange.mapsToChars, Bool.and_eq_true, Bool.or_eq_true, decide_eq_true_eq] at hm
      simp only [Nat.isValidChar]
      omega
    rwa [toNat_charOfNat hv]

theorem not_covers_simpleLower (c : Char) : ∀ r ∈ lowercaseRanges, r.covers (simpleLower c).toNat = false := by
  rcases simpleLower_cases c with ⟨hc, e⟩ | ⟨r, hr, -, hi⟩
  · rw [e]; exact hc
  · intro s hs
    exact CaseRange.not_covers_of_apart ((regular_lowercaseRanges hr).2.1 s hs) hi

theorem simpleLower_eq_self {c : Char} (h : ∀ r ∈ lowercaseRanges, r.covers c.toNat = false) : simpleLower c = c := by
  rcases simpleLower_cases c with ⟨-, e⟩ | ⟨r, hr, hc, -⟩
  · exact e
  · rw [h r hr] at hc; cases hc

theorem simpleLower_ne_sigma (c : Char) : simpleLower c ≠ 'Σ' := by
  intro h
  obtain ⟨r, hr, hs⟩ := covers_sigma
  rw [← h, not_covers_simpleLower c r hr] at hs
  cases hs

theorem simpleLower_ne_dotted {c : Char} (hc : c ≠ '\u0130') : simpleLower c ≠ '\u0130' := by
  rcases simpleLower_cases c with ⟨-, e⟩ | ⟨r, hr, -, hi⟩
  · rwa [e]
  · intro h
    have hn := CaseRange.not_covers_of_apart (regular_lowercaseRanges hr).2.2.1 hi
    rw [h] at hn
    exact absurd hn (by decide)

/-- neither a mapped character nor its image is a blank -/
theorem isBlank_simpleLower (c : Char) : isBlank (simpleLower c) = isBlank c := by
  rcases simpleLower_cases c with ⟨-, e⟩ | ⟨r, hr, hc, hi⟩
  · rw [e]
  · obtain ⟨-, -, -, hrun, himage⟩ := regular_lowercaseRanges hr
    have hmapped : isBlank c = false := within_eq_false_of_apart hrun hc
    have hlower : isBlank (simpleLower c) = false := within_eq_false_of_apart himage hi
    rw [hmapped, hlower]

/-! ## Texts -/

/-- lowercase leaves the character as it is, whatever stands around it -/
def Settled (c : Char) : Prop :=
  c ≠ 'Σ' ∧ lowerChar c = [c]

/-- the two small sigmas, and the two characters that the dotted capital becomes -/
theorem settled_special : Settled 'ς' ∧ Settled 'σ' ∧ Settled 'i' ∧ Settled '\u0307' := by
  unfold Settled
  decide +kernel

theorem settled_lowerSigma (before after : List Char) : Settled (lowerSigma before after) := by
  unfold lowerSigma
  split
  · exact settled_special.1
  · exact settled_special.2.1

theorem settled_of_mem_lowerChar {c d : Char} (h : d ∈ lowerChar c) : Settled d := by
  unfold lowerChar at h
  split at h
  · simp only [List.mem_cons, List.not_mem_nil, or_false] at h
    rcases h with rfl | rfl
    · exact settled_special.2.2.1
    · exact settled_special.2.2.2
  · rename_i hc
    rw [List.mem_singleton] at h
    subst h
    refine ⟨simpleLower_ne_sigma c, ?_⟩
    rw [lowerChar, if_neg (simpleLower_ne_dotted hc), simpleLower_eq_self (not_covers_simpleLower c)]

theorem settled_of_mem_lowerAfter {before s : List Char} {d : Char} (h : d ∈ lowerAfter before s) : Settled d := by
  induction s generalizing before with
  | nil => simp [lowerAfter] at h
  | cons c rest ih =>
    rw [lowerAfter] at h
    rcases List.mem_append.1 h with h | h
    · split at h
      · rw [List.mem_singleton] at h
        subst h
        exact settled_lowerSigma before rest
      · exact settled_of_mem_lowerChar h
    · exact ih h

theorem lowerAfter_eq_self {before s : List Char} (h : ∀ c ∈ s, Settled c) : lowerAfter before s = s := by
  induction s generalizing before with
  | nil => rfl
  | cons c rest ih =>
    obtain ⟨h1, h2⟩ := h c List.mem_cons_self
    rw [lowerAfter, if_neg h1, h2, ih fun d hd => h d (List.mem_cons_of_mem c hd)]
    rfl

theorem lowerChars_lowerChars (s : List Char) : lowerChars (lowerChars s) = lowerChars s :=
  lowerAfter_eq_self fun _ hc => settled_of_mem_lowerAfter hc

theorem toList_lower (s : String) : (lower s).toList = lowerChars s.toList := by
  simp [lower]

/-- **Lowercase is its own lowercase**, also where a sigma had to be decided -/
theorem lower_lower (s : String) : lower (lower s) = lower s := by
  simp only [lower, String.toList_ofList, lowerChars_lowerChars]

/-! ## Blanks -/

theorem any_isBlank_lowerAfter (before s : List Char) : (lowerAfter before s).any isBlank = s.any isBlank := by
  induction s generalizing before with
  | nil => rfl
  | cons c rest ih =>
    have hc : (if c = 'Σ' then [lowerSigma before rest] else lowerChar c).any isBlank = isBlank c := by
      split
      · rename_i h
        subst h
        unfold lowerSigma
        split <;> decide
      · unfold lowerChar
        split
        · rename_i h
          subst h
          decide
        · simp [isBlank_simpleLower]
    rw [lowerAfter, List.any_append, ih, hc, List.any_cons]

/-- lowercase neither makes a blank nor takes one away -/
theorem any_isBlank_lowerChars (s : List Char) : (lowerChars s).any isBlank = s.any isBlank :=
  any_isBlank_lowerAfter [] s

theorem lower_notBlank {s : String} (h : ∀ c ∈ s.toList, isBlank c = false) :
    ∀ c ∈ (lower s).toList, isBlank c = false := by
  have hs : s.toList.any isBlank = false := List.any_eq_false.2 fun c hc => by simp [h c hc]
  rw [← any_isBlank_lowerChars, ← toList_lower] at hs
  exact fun c hc => by simpa using List.any_eq_false.1 hs c hc

/-- what has a word for its lowercase is a word -/
theorem isWord_of_lowerChars {s : List Char} (h : IsWord (lowerChars s)) : IsWord s := by
  refine ⟨fun hs => h.1 (by rw [hs]; rfl), fun c hc => ?_⟩
  have hs : (lowerChars s).any isBlank = false := List.any_eq_false.2 fun d hd => by simp [h.2 d hd]
  rw [any_isBlank_lowerChars] at hs
  simpa using List.any_eq_false.1 hs c hc

/-- the lowercase of a word is a word -/
theorem isWord_lower {s : String} (h : IsWord s.toList) : IsWord (lower s).toList := by
  refine ⟨?_, lower_notBlank h.2⟩
  obtain ⟨c, rest, hs⟩ := List.exists_cons_of_ne_nil h.1
  rw [toList_lower, hs, lowerChars, lowerAfter]
  split
  · exact List.cons_ne_nil _ _
  · unfold lowerChar
    split <;> exact List.cons_ne_nil _ _

/-! ## Folded names -/

/-- a folded name without blanks is its own folded name -/
theorem foldName_foldName {s : String} (h : ∀ c ∈ (foldName s).toList, isBlank c = false) :
    foldName (foldName s) = foldName s := by
  have ht : trim (foldName s) = foldName s := trim_eq_self h
  rw [foldName, ht, foldName, lower_lower]

/-- the lowercase of a text without blanks is a folded name -/
theorem foldName_lower {s : String} (h : ∀ c ∈ s.toList, isBlank c = false) : foldName (lower s) = lower s := by
  rw [foldName, trim_eq_self (lower_notBlank h), lower_lower]

end HostConsole.Text

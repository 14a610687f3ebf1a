/-
The rates that a graph keeps. A rate counts when it is finite and at least zero (`Counts`), a negative zero too; a frame
brings the rate of its time if the frame took time and that rate is finite, and other changes bring none. The rates kept
are the newest of all rates brought so far, one for each column (`Keeps`).

Result: `keeps_newest`. In every graph that comes about, the sides are the ones asked for, within their limits, the
picture has a point for every place, and the rates kept are the newest ones; so all numbers of which rows are made are
finite, the scale is above zero, and no rate is above the scale.
-/
import HostConsole.Proofs.Binary.Order
import HostConsole.Proofs.Graph.Changes

namespace HostConsole.RateGraph

variable {graph : RateGraph} {rate : Single} {history : List Single}

/-! ## Rates that count -/

/-- a rate that counts: it is finite and at least zero, and a zero may have a sign -/
def Counts (rate : Single) : Prop :=
  rate.isFinite = true ∧ Binary.AtLeastZero rate

theorem accepts_iff : accepts rate = true ↔ Counts rate := by
  simp only [accepts, Bool.and_eq_true, Bool.not_eq_true', Counts]
  refine and_congr_right fun hfinite => ⟨?_, fun h => h.not_lt_zero⟩
  exact Binary.atLeastZero_of_not_lt (Binary.isNan_of_isFinite hfinite)

instance : DecidablePred Counts :=
  fun _ => decidable_of_iff _ accepts_iff

/-- the rate of a frame that took so many seconds -/
def frameRate (seconds : Single) : Single :=
  (Binary.ofNat 1).div seconds

/-- the rate that a change brings, if it counts -/
def Change.rate? : Change → Option Single
  | .push rate => if Counts rate then some rate else none
  | .pushFrame seconds =>
    if (Binary.zero false).lt seconds = true ∧ (frameRate seconds).isFinite = true then some (frameRate seconds)
    else none
  | .withColours _ _ | .clear | .redraw => none

/-- all rates that some changes bring, oldest first -/
def accepted (changes : List Change) : List Single :=
  changes.filterMap Change.rate?

/-- the rate of a frame that took time is at least zero, so it counts if it is finite -/
theorem counts_frameRate {seconds : Single} (h : (Binary.zero false).lt seconds = true) :
    Counts (frameRate seconds) ↔ (frameRate seconds).isFinite = true :=
  ⟨fun hcounts => hcounts.1, fun hfinite =>
    ⟨hfinite, Binary.atLeastZero_div rfl (Binary.isNegative_of_pos h) (Binary.isNan_of_isFinite hfinite)⟩⟩

theorem counts_of_rate? {change : Change} (h : change.rate? = some rate) : Counts rate := by
  cases change with
  | push other =>
    simp only [Change.rate?] at h
    split_ifs at h with hcounts
    cases h
    exact hcounts
  | pushFrame seconds =>
    simp only [Change.rate?] at h
    split_ifs at h with hframe
    cases h
    exact (counts_frameRate hframe.1).2 hframe.2
  | _ => cases h

/-! ## What one change does to the rates -/

/-- the rates with one more, the oldest giving way when every column is taken -/
def rolled (graph : RateGraph) (rate : Single) : List Single :=
  (if graph.width ≤ graph.samples.length then graph.samples.drop 1 else graph.samples) ++ [rate]

theorem samples_push (graph : RateGraph) (rate : Single) :
    (graph.push rate).samples = if Counts rate then graph.rolled rate else graph.samples := by
  by_cases hcounts : Counts rate
  · rw [push, if_pos (accepts_iff.2 hcounts), if_pos hcounts]
    rfl
  · rw [push, if_neg (fun h => hcounts (accepts_iff.1 h)), if_neg hcounts]

/-- the rates after a change are those before it, with the rate that it brings -/
theorem samples_apply (graph : RateGraph) (change : Change) :
    (graph.apply change).samples = (change.rate?.map graph.rolled).getD graph.samples := by
  cases change with
  | push rate =>
    rw [apply, samples_push, Change.rate?]
    split_ifs <;> rfl
  | pushFrame seconds =>
    rw [apply, pushFrame, Change.rate?]
    by_cases htime : (Binary.zero false).lt seconds = true
    · rw [if_pos htime, ← frameRate, samples_push]
      simp only [counts_frameRate htime, htime, true_and]
      split_ifs <;> rfl
    · rw [if_neg htime, if_neg (fun h => htime h.1)]
      rfl
  | _ => rfl

theorem sides_push (graph : RateGraph) (rate : Single) :
    (graph.push rate).width = graph.width ∧ (graph.push rate).height = graph.height := by
  unfold push
  split_ifs <;> exact ⟨rfl, rfl⟩

theorem sides_apply (graph : RateGraph) (change : Change) :
    (graph.apply change).width = graph.width ∧ (graph.apply change).height = graph.height := by
  cases change with
  | push rate => exact sides_push graph rate
  | pushFrame seconds =>
    simp only [apply, pushFrame]
    split_ifs
    · exact sides_push graph _
    · exact ⟨rfl, rfl⟩
  | _ => exact ⟨rfl, rfl⟩

/-! ## The newest rates -/

/-- the graph keeps the newest of these rates, as many as it has columns -/
structure Keeps (graph : RateGraph) (history : List Single) : Prop where
  suffix : graph.samples <:+ history
  length : graph.samples.length = min graph.width history.length

theorem keeps_ofSize (width height : ℕ) : Keeps (ofSize width height) [] :=
  ⟨List.suffix_rfl, (Nat.min_zero _).symm⟩

/-- the newest rates with one more, the oldest giving way, are the newest again -/
theorem keeps_rolled (h : Keeps graph history) (hwidth : 0 < graph.width) (rate : Single) :
    graph.rolled rate <:+ history ++ [rate] ∧
      (graph.rolled rate).length = min graph.width (history ++ [rate]).length := by
  have hsuffix : ∀ kept, kept <:+ history → kept ++ [rate] <:+ history ++ [rate] := fun kept ⟨older, holder⟩ =>
    ⟨older, by rw [← holder, List.append_assoc]⟩
  have hlength := h.length
  unfold rolled
  split_ifs with hfull
  · refine ⟨hsuffix _ ((List.drop_suffix 1 _).trans h.suffix), ?_⟩
    simp only [List.length_append, List.length_drop, List.length_singleton]
    omega
  · refine ⟨hsuffix _ h.suffix, ?_⟩
    simp only [List.length_append, List.length_singleton]
    omega

theorem keeps_apply (h : Keeps graph history) (hwidth : 0 < graph.width) (change : Change) :
    Keeps (graph.apply change) (history ++ change.rate?.toList) := by
  have hsamples := samples_apply graph change
  cases hrate : change.rate? with
  | none =>
    rw [hrate] at hsamples
    rw [Option.toList_none, List.append_nil]
    exact ⟨by rw [hsamples]; exact h.suffix, by rw [hsamples, (sides_apply graph change).1]; exact h.length⟩
  | some rate =>
    rw [hrate] at hsamples
    obtain ⟨hsuffix, hlength⟩ := keeps_rolled h hwidth rate
    exact ⟨by rw [hsamples]; exact hsuffix, by rw [hsamples, (sides_apply graph change).1]; exact hlength⟩

/-- after any changes the sides are the same, and the newest of all rates are kept -/
theorem keeps_run (h : Keeps graph history) (hwidth : 0 < graph.width) (changes : List Change) :
    ((graph.run changes).width = graph.width ∧ (graph.run changes).height = graph.height) ∧
      Keeps (graph.run changes) (history ++ accepted changes) := by
  induction changes generalizing graph history with
  | nil => exact ⟨⟨rfl, rfl⟩, by rw [accepted, List.filterMap_nil, List.append_nil]; exact h⟩
  | cons change changes ih =>
    obtain ⟨hw, hh⟩ := sides_apply graph change
    obtain ⟨⟨hwidths, hheights⟩, hkeeps⟩ := ih (keeps_apply h hwidth change) (by rw [hw]; exact hwidth)
    refine ⟨⟨hwidths.trans hw, hheights.trans hh⟩, ?_⟩
    have hhistory : history ++ change.rate?.toList ++ accepted changes = history ++ accepted (change :: changes) := by
      rw [List.append_assoc, accepted, accepted, List.filterMap_cons]
      cases change.rate? <;> rfl
    rwa [hhistory] at hkeeps

theorem counts_of_mem_accepted {changes : List Change} (h : rate ∈ accepted changes) : Counts rate := by
  obtain ⟨change, -, hrate⟩ := List.mem_filterMap.1 h
  exact counts_of_rate? hrate

/-! ## The scale -/

/-- the numbers of which a row is made: a rate that counts and a finite scale above zero, the rate not above it -/
structure Scalable (rate scale : Single) : Prop where
  counts : Counts rate
  finite : scale.isFinite = true
  positive : (Binary.zero false).lt scale = true
  within : rate.le scale = true

theorem fallbackScale_pos : fallbackScale.isFinite = true ∧ (Binary.zero false).lt fallbackScale = true := by
  decide +kernel

/-- the scale is finite and above zero, and no rate is above it -/
theorem scale_bounds (h : ∀ rate ∈ graph.samples, Counts rate) :
    graph.scale.isFinite = true ∧ (Binary.zero false).lt graph.scale = true ∧
      ∀ rate ∈ graph.samples, rate.le graph.scale = true := by
  have hzero : (Binary.zero false : Single).isFinite = true := by decide
  obtain ⟨hfinite, -, hbelow⟩ := Binary.foldl_max hzero fun rate hrate => (h rate hrate).1
  unfold scale
  dsimp only
  split_ifs with hpositive
  · exact ⟨hfinite, hpositive, hbelow⟩
  · -- all rates are zero, of either sign
    obtain ⟨hfallback, hpos⟩ := fallbackScale_pos
    refine ⟨hfallback, hpos, fun rate hrate => ?_⟩
    have hnone := Binary.le_of_not_lt rfl (Binary.isNan_of_isFinite hfinite) hpositive
    exact Binary.le_trans (hbelow rate hrate) (Binary.le_trans hnone (Binary.le_of_lt hpos))

/-- **A graph keeps the newest rates that count.** Whatever size is asked for and whatever changes come, the sides stay
those asked for, within their limits, with a point for every place; the rates kept are the newest ones brought, and only
a change that brings a rate changes them. So every row that is drawn is made of numbers that can be scaled. -/
theorem keeps_newest (width height : ℕ) (changes : List Change) :
    let graph := (ofSize width height).run changes
    (graph.width = max 2 (min 4096 width) ∧ graph.height = max 2 (min 4096 height) ∧
      graph.pixels.size = graph.width * graph.height) ∧
    (graph.samples <:+ accepted changes ∧ graph.samples.length = min graph.width (accepted changes).length) ∧
    (∀ change : Change, change.rate? = none → (graph.apply change).samples = graph.samples) ∧
    (graph.scale.isFinite = true ∧ (Binary.zero false).lt graph.scale = true) ∧
    (∀ rate ∈ graph.samples, Scalable rate graph.scale) ∧
    ∀ (rows : ℕ), ∀ row ∈ graph.sampleRows rows, ∃ rate, Scalable rate graph.scale ∧ row = rowOf rate graph.scale rows := by
  intro graph
  have hformed : Formed graph := formed_run (formed_ofSize width height) changes
  have hstart : 0 < (ofSize width height).width := by
    have := (clampSide_between width).1
    exact Nat.lt_of_lt_of_le (by decide) this
  obtain ⟨⟨hwidth, hheight⟩, hkeeps⟩ := keeps_run (keeps_ofSize width height) hstart changes
  rw [List.nil_append] at hkeeps
  have hcounts : ∀ rate ∈ graph.samples, Counts rate := fun rate hrate =>
    counts_of_mem_accepted (hkeeps.suffix.subset hrate)
  obtain ⟨hfinite, hpositive, hwithin⟩ := scale_bounds hcounts
  have hscalable : ∀ rate ∈ graph.samples, Scalable rate graph.scale := fun rate hrate =>
    ⟨hcounts rate hrate, hfinite, hpositive, hwithin rate hrate⟩
  refine ⟨⟨hwidth, hheight, hformed.pixels⟩, ⟨hkeeps.suffix, hkeeps.length⟩, fun change hchange => ?_,
    ⟨hfinite, hpositive⟩, hscalable, fun rows row hrow => ?_⟩
  · rw [samples_apply, hchange]
    rfl
  · obtain ⟨rate, hrate, rfl⟩ := List.mem_map.1 hrow
    exact ⟨rate, hscalable rate hrate, rfl⟩

/-- rates and frames of every kind: of those below, the negative zero, the endless frame and the last rate count -/
def mixedChanges : List Change :=
  [.push .nan, .push (Binary.zero true), .push (Binary.infinite false), .push (Binary.ofInt (-1)),
    .pushFrame (Binary.ofRank false 1), .pushFrame (Binary.zero true), .redraw,
    .pushFrame (Binary.infinite false), .withColours .lime .black, .push (Binary.ofNat 60), .clear]

theorem keeps_newest_mixed :
    let graph := (ofSize 0 9999).run mixedChanges
    accepted mixedChanges = [Binary.zero true, Binary.zero false, Binary.ofNat 60] ∧
      graph.width = 2 ∧ graph.height = 4096 ∧ graph.pixels.size = 8192 ∧
      graph.samples = [Binary.zero false, Binary.ofNat 60] ∧
      (graph.apply (.pushFrame (Binary.ofRank false 1))).samples = graph.samples ∧
      Scalable (Binary.zero false) graph.scale := by
  intro graph
  have haccepted : accepted mixedChanges = [Binary.zero true, Binary.zero false, Binary.ofNat 60] := by decide +kernel
  obtain ⟨⟨hwidth, hheight, hpixels⟩, ⟨hsuffix, hlength⟩, hkept, -, hscalable, -⟩ := keeps_newest 0 9999 mixedChanges
  change graph.width = 2 at hwidth
  change graph.height = 4096 at hheight
  change graph.pixels.size = graph.width * graph.height at hpixels
  have hsamples : graph.samples = [Binary.zero false, Binary.ofNat 60] := by
    rw [List.suffix_iff_eq_drop.1 hsuffix, hlength, hwidth, haccepted]
    rfl
  refine ⟨haccepted, hwidth, hheight, by rw [hpixels, hwidth, hheight], hsamples, hkept _ (by decide +kernel), ?_⟩
  exact hscalable _ (by change _ ∈ graph.samples; rw [hsamples]; exact List.mem_cons_self)

end HostConsole.RateGraph

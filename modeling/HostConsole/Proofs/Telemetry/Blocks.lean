/-
The reports of a meter, from the history of its frames. The frames are cut into blocks, each as short as can be: a block
ends with the first frame that makes its time positive and no less than the interval (`Full`). The last frame of a block
returns the report of the block, and every other frame returns nothing (`Accounts`). A report counts the frames of its
block over their time, and is otherwise about the counters at its last frame, compared with those at the last frame of
the block before (`Reports`).

Result: `reports_partition`. Whatever the interval and the frames are, the meter returns this account and no other; its
latest report is the last one returned; and it never looks at the counters of a frame that returns nothing.
-/
import Mathlib.Data.List.ReduceOption
import HostConsole.Proofs.Binary.Sums
import HostConsole.Telemetry.Meter

namespace HostConsole.Meter

/-! ## Frames -/

/-- one frame: how long it took, and the counters that the host has if it is asked -/
structure Frame where
  seconds : Single
  counters : Unit → Counters

/-- what some frames return, one after the other, and the meter after them -/
def run (meter : Meter) : List Frame → List (Option Report) × Meter
  | [] => ([], meter)
  | frame :: rest =>
    let (next, answer) := meter.tick frame.seconds frame.counters
    let (answers, final) := next.run rest
    (answer :: answers, final)

theorem run_cons (meter : Meter) (frame : Frame) (rest : List Frame) :
    meter.run (frame :: rest) =
      ((meter.tick frame.seconds frame.counters).2 :: ((meter.tick frame.seconds frame.counters).1.run rest).1,
        ((meter.tick frame.seconds frame.counters).1.run rest).2) :=
  rfl

/-- a time as it counts: in double width, and as zero if it is below zero or no number -/
def counted (seconds : Single) : Double :=
  if seconds.isNan || seconds.lt (Binary.zero false) then Binary.zero false else seconds.convert .double

/-- the time of some frames, added up from the left -/
def total (frames : List Frame) : Double :=
  frames.foldl (fun sum frame => sum.add (counted frame.seconds)) (Binary.zero false)

/-! ## The account of the frames -/

/-- the frames make a block: their time is positive and no less than the interval -/
structure Full (interval : Double) (block : List Frame) : Prop where
  positive : (Binary.zero false).lt (total block) = true
  reached : (total block).lt interval = false

/-- the report of a block whose last frame found these counters, the block before having ended with the previous ones -/
structure Reports (previous : Option Counters) (block : List Frame) (closing : Counters) (report : Report) : Prop where
  counters : report.counters = closing
  fps : report.fps = Binary.div (Binary.ofNat (min (2 ^ 32 - 1) block.length)) (total block)
  managed : report.managedMegabytes = Binary.div (Binary.ofNat closing.managedBytes) Report.megabyte
  allocated : report.totalMegabytes = Binary.div (Binary.ofNat closing.totalBytes) Report.megabyte
  heap : report.heapMegabytes = Binary.div (Binary.ofNat closing.heapBytes) Report.megabyte
  heapChange : report.heapChange = Binary.div
    (Binary.sub (Binary.ofNat closing.heapBytes) (Binary.ofNat (previous.getD closing).heapBytes)) Report.megabyte
  heapUnchanged : previous = none → closing.heapBytes < UInt64.size → report.heapChange = Binary.zero false
  secondsSinceLast : report.secondsSinceLast =
    previous.elim (Binary.zero false) fun last => closing.realSeconds.sub last.realSeconds

/-- what frames return when blocks are cut off in front, each as short as can be, the block before them having ended
with the previous counters -/
inductive Accounts (interval : Double) : Option Counters → List Frame → List (Option Report) → Prop
  | unfinished {previous : Option Counters} {frames : List Frame}
      (short : ∀ part, part <+: frames → ¬ Full interval part) :
      Accounts interval previous frames (List.replicate frames.length none)
  | closed {previous : Option Counters} {block rest : List Frame} {last : Frame} {report : Report}
      {answers : List (Option Report)} (short : ∀ part, part <+: block → ¬ Full interval part)
      (full : Full interval (block ++ [last])) (reports : Reports previous (block ++ [last]) (last.counters ()) report)
      (others : Accounts interval (some (last.counters ())) rest answers) :
      Accounts interval previous (block ++ last :: rest) (List.replicate block.length none ++ some report :: answers)

/-- other frames of the same times, with the same counters wherever a report is returned -/
inductive ReadAlike : List (Option Report) → List Frame → List Frame → Prop
  | nil : ReadAlike [] [] []
  | unread {answers : List (Option Report)} {frames others : List Frame} (seconds : Single)
      (counters other : Unit → Counters) (rest : ReadAlike answers frames others) :
      ReadAlike (none :: answers) (⟨seconds, counters⟩ :: frames) (⟨seconds, other⟩ :: others)
  | read {answers : List (Option Report)} {frames others : List Frame} (frame : Frame) (report : Report)
      (rest : ReadAlike answers frames others) :
      ReadAlike (some report :: answers) (frame :: frames) (frame :: others)

variable {interval : Double} {latest : Option Report} {previous : Option Counters} {frame : Frame}
  {part block frames others : List Frame} {closing : Counters} {report : Report}
  {answers account : List (Option Report)}

/-! ## Times -/

theorem duration_eq (seconds : Single) : duration seconds = counted seconds := by
  rw [duration, Binary.max, counted, ← Binary.convert_zero (F := .single) (by decide) false .double]
  exact apply_ite (Binary.convert .double) _ _ _

theorem atLeastZero_counted (seconds : Single) : (counted seconds).AtLeastZero := by
  unfold counted
  split_ifs with h
  · exact Binary.atLeastZero_zero false
  · simp only [Bool.or_eq_true, not_or, Bool.not_eq_true] at h
    exact (Binary.atLeastZero_of_not_lt h.1 h.2).convert (by decide) .double

theorem total_snoc (frames : List Frame) (frame : Frame) :
    total (frames ++ [frame]) = (total frames).add (counted frame.seconds) :=
  List.foldl_concat ..

/-- the time of frames is a number from zero up -/
theorem atLeastZero_total (frames : List Frame) : (total frames).AtLeastZero := by
  induction frames using List.reverseRecOn with
  | nil => exact Binary.atLeastZero_zero false
  | append_singleton frames frame ih =>
    rw [total_snoc]
    exact ih.add (by decide) (atLeastZero_counted frame.seconds)

/-- no frames make no block -/
theorem not_full_nil : ¬ Full interval [] := fun h =>
  absurd h.positive (by decide)

theorem short_nil : ∀ part : List Frame, part <+: [] → ¬ Full interval part := by
  intro part hpart
  rw [List.prefix_nil.1 hpart]
  exact not_full_nil

theorem short_snoc (hshort : ∀ other, other <+: part → ¬ Full interval other)
    (hlast : ¬ Full interval (part ++ [frame])) :
    ∀ other, other <+: part ++ [frame] → ¬ Full interval other := by
  intro other hother
  rcases List.prefix_concat_iff.1 hother with rfl | hother
  · exact hlast
  · exact hshort other hother

/-! ## The account is unique -/

/-- the shortest block in front of some frames is the only one -/
theorem shortest_unique {block' rest rest' : List Frame} {last last' : Frame}
    (hshort : ∀ part, part <+: block → ¬ Full interval part) (hfull : Full interval (block ++ [last]))
    (hshort' : ∀ part, part <+: block' → ¬ Full interval part) (hfull' : Full interval (block' ++ [last']))
    (h : block ++ last :: rest = block' ++ last' :: rest') : block = block' ∧ last = last' ∧ rest = rest' := by
  have hlist : block ++ [last] <+: block' ++ last' :: rest' := ⟨rest, by rw [← h]; simp⟩
  have hlist' : block' ++ [last'] <+: block' ++ last' :: rest' := ⟨rest', by simp⟩
  have hlength : block.length = block'.length := by
    by_contra hne
    rcases Nat.lt_or_gt_of_ne hne with hlt | hlt
    · refine hshort' _ (List.prefix_of_prefix_length_le hlist (List.prefix_append _ _) ?_) hfull
      simpa using hlt
    · refine hshort _ (List.prefix_of_prefix_length_le hlist' (h ▸ List.prefix_append _ _) ?_) hfull'
      simpa using hlt
  obtain ⟨hblock, hrest⟩ := List.append_inj h hlength
  exact ⟨hblock, List.cons.inj hrest⟩

theorem Reports.unique {report' : Report} (h : Reports previous block closing report)
    (h' : Reports previous block closing report') : report = report' := by
  cases report
  cases report'
  simp only [Report.mk.injEq]
  exact ⟨h.fps.trans h'.fps.symm, h.managed.trans h'.managed.symm, h.allocated.trans h'.allocated.symm,
    h.heap.trans h'.heap.symm, h.heapChange.trans h'.heapChange.symm,
    h.secondsSinceLast.trans h'.secondsSinceLast.symm, h.counters.trans h'.counters.symm⟩

/-- frames have one account -/
theorem Accounts.unique (h : Accounts interval previous frames answers)
    (h' : Accounts interval previous frames account) : answers = account := by
  induction h generalizing account with
  | @unfinished previous frames short =>
    generalize hframes : frames = found at h' ⊢
    cases h' with
    | unfinished => rfl
    | @closed _ block rest last _ _ _ full => exact absurd full (short _ ⟨rest, by rw [hframes]; simp⟩)
  | @closed previous block rest last report answers short full reports others ih =>
    generalize hframes : block ++ last :: rest = frames at h'
    cases h' with
    | unfinished short' => exact absurd full (short' _ ⟨rest, by rw [← hframes]; simp⟩)
    | closed short' full' reports' others' =>
      obtain ⟨rfl, rfl, rfl⟩ := shortest_unique short full short' full' hframes
      rw [reports.unique reports', ih others']

/-! ## The meter within a block -/

/-- the meter after some frames of a block, the latest report being that of the block before -/
def inBlock (interval : Double) (latest : Option Report) (part : List Frame) : Meter where
  interval
  frames := min frameLimit part.length
  elapsed := total part
  lastHeapBytes := latest.map (·.counters.heapBytes)
  lastRealSeconds := latest.map (·.counters.realSeconds)
  latest

theorem frameLimit_eq : frameLimit = 2 ^ 32 - 1 := by
  decide

theorem ofInterval_eq (seconds : Single) : ofInterval seconds = inBlock (counted seconds) none [] := by
  rw [ofInterval, duration_eq]
  rfl

theorem count_inBlock :
    (inBlock interval latest part).count frame.seconds = inBlock interval latest (part ++ [frame]) := by
  simp only [count, inBlock, duration_eq, total_snoc, List.length_append, List.length_singleton, mk.injEq, and_true,
    true_and]
  omega

theorem isFull_inBlock (latest : Option Report) :
    (inBlock interval latest part).isFull = true ↔ Full interval part := by
  have hpositive : (Binary.zero false).lt (total part) = !(total part).le (Binary.zero false) :=
    Binary.lt_eq_not_le rfl (atLeastZero_total part).isNan
  rw [isFull, Bool.not_eq_true', Bool.or_eq_false_iff]
  constructor
  · rintro ⟨hreached, hle⟩
    exact ⟨by rw [hpositive, show (total part).le (Binary.zero false) = false from hle, Bool.not_false], hreached⟩
  · rintro ⟨hlt, hreached⟩
    exact ⟨hreached, by rwa [hpositive, Bool.not_eq_true'] at hlt⟩

/-- a full block gives the report that is about it -/
theorem reports_inBlock (interval : Double) (latest : Option Report) (block : List Frame) (closing : Counters) :
    Reports (latest.map (·.counters)) block closing ((inBlock interval latest block).report closing) where
  counters := rfl
  fps := by rw [← frameLimit_eq]; rfl
  managed := by simp only [report, Report.megabytes]
  allocated := by simp only [report, Report.megabytes]
  heap := by simp only [report, Report.megabytes]
  heapChange := by
    have hlast : (latest.map (·.counters.heapBytes)).getD closing.heapBytes =
        ((latest.map (·.counters)).getD closing).heapBytes := by
      cases latest <;> rfl
    simp only [report, inBlock, hlast]
  heapUnchanged := by
    intro hfirst hword
    obtain rfl := Option.map_eq_none_iff.1 hfirst
    have hself : (Binary.ofNat closing.heapBytes : Double).sub (Binary.ofNat closing.heapBytes) = Binary.zero false :=
      Binary.sub_self (Binary.isFinite_ofNat hword)
    have hzero : (Binary.zero false : Double).div Report.megabyte = Binary.zero false := by decide +kernel
    simp only [report, inBlock, Option.map_none, Option.getD_none, hself, hzero]
  secondsSinceLast := by cases latest <;> rfl

/-- a frame that does not fill the block returns nothing -/
theorem tick_short (latest : Option Report) (h : ¬ Full interval (part ++ [frame])) :
    (inBlock interval latest part).tick frame.seconds frame.counters =
      (inBlock interval latest (part ++ [frame]), none) := by
  rw [← isFull_inBlock latest] at h
  simp only [tick, count_inBlock, h, Bool.false_eq_true, if_false]

/-- a frame that fills the block returns a report about it, and the next block begins -/
theorem tick_full (latest : Option Report) (h : Full interval (part ++ [frame])) :
    ∃ report, Reports (latest.map (·.counters)) (part ++ [frame]) (frame.counters ()) report ∧
      (inBlock interval latest part).tick frame.seconds frame.counters =
        (inBlock interval (some report) [], some report) := by
  rw [← isFull_inBlock latest] at h
  refine ⟨_, reports_inBlock interval latest (part ++ [frame]) (frame.counters ()), ?_⟩
  simp only [tick, count_inBlock, h, if_true]
  rfl

/-- **The meter returns the account of its frames**, in any moment of a block -/
theorem accounts_run (latest : Option Report) (hshort : ∀ other, other <+: part → ¬ Full interval other) :
    Accounts interval (latest.map (·.counters)) (part ++ frames)
      (List.replicate part.length none ++ ((inBlock interval latest part).run frames).1) := by
  induction frames generalizing part latest with
  | nil =>
    rw [List.append_nil, run, List.append_nil]
    exact .unfinished hshort
  | cons frame rest ih =>
    rw [run]
    by_cases hfull : Full interval (part ++ [frame])
    · obtain ⟨report, hreports, htick⟩ := tick_full latest hfull
      have hrest := ih (some report) short_nil
      rw [Option.map_some, hreports.counters] at hrest
      rw [htick]
      exact .closed hshort hfull hreports hrest
    · have hrest := ih latest (short_snoc hshort hfull)
      rw [List.append_assoc, List.length_append, List.length_singleton, List.replicate_succ',
        List.append_assoc] at hrest
      rw [tick_short latest hfull]
      exact hrest

/-! ## The latest report, and the counters that are read -/

theorem latest_tick (meter : Meter) (frame : Frame) :
    (meter.tick frame.seconds frame.counters).1.latest =
      (meter.tick frame.seconds frame.counters).2.or meter.latest := by
  unfold tick
  dsimp only
  split_ifs <;> rfl

/-- the latest report is the last one returned -/
theorem latest_run (meter : Meter) (frames : List Frame) :
    (meter.run frames).2.latest = (meter.run frames).1.reduceOption.getLast?.or meter.latest := by
  induction frames generalizing meter with
  | nil => rfl
  | cons frame rest ih =>
    rw [run_cons]
    dsimp only
    rw [ih, latest_tick]
    cases (meter.tick frame.seconds frame.counters).2 with
    | none => rfl
    | some report =>
      rw [List.reduceOption_cons_of_some, List.getLast?_cons]
      generalize (List.reduceOption _).getLast? = found
      cases found <;> rfl

theorem tick_unread (meter : Meter) {seconds : Single} {counters : Unit → Counters} (other : Unit → Counters)
    (h : (meter.tick seconds counters).2 = none) : meter.tick seconds other = meter.tick seconds counters := by
  unfold tick at h ⊢
  dsimp only at h ⊢
  split_ifs at h ⊢
  rfl

/-- the counters of frames that return nothing are never looked at -/
theorem run_unread (meter : Meter) (h : ReadAlike (meter.run frames).1 frames others) :
    meter.run others = meter.run frames := by
  generalize hanswers : (meter.run frames).1 = answers at h
  induction h generalizing meter with
  | nil => rfl
  | unread seconds counters other _ ih =>
    rw [run_cons, List.cons.injEq] at hanswers
    rw [run_cons, run_cons, tick_unread meter other hanswers.1, ih _ hanswers.2]
  | read frame report _ ih =>
    rw [run_cons, List.cons.injEq] at hanswers
    rw [run_cons, run_cons, ih _ hanswers.2]

/-- **Reports partition the frames.** The frames of a meter return the account of the shortest blocks in front, and no
other; the latest report is the last one returned; and other counters in frames that return nothing change nothing. -/
theorem reports_partition (seconds : Single) (frames : List Frame) :
    let (answers, meter) := (ofInterval seconds).run frames
    (∀ account, Accounts (counted seconds) none frames account ↔ account = answers) ∧
      meter.latest = answers.reduceOption.getLast? ∧
      ∀ others, ReadAlike answers frames others → (ofInterval seconds).run others = (answers, meter) := by
  have haccounts : Accounts (counted seconds) none frames ((ofInterval seconds).run frames).1 := by
    rw [ofInterval_eq]
    exact accounts_run none short_nil
  refine ⟨fun account => ⟨fun h => h.unique haccounts, fun h => h ▸ haccounts⟩, ?_, fun others h => run_unread _ h⟩
  rw [latest_run]
  exact Option.or_none

/-- a frame of half a second; at its end the host has run for so many seconds and holds so many bytes -/
def halfSecond (seconds bytes : ℕ) : Frame where
  seconds := Binary.div (Binary.ofNat 1) (Binary.ofNat 2)
  counters _ :=
    { managedBytes := bytes, totalBytes := 2 * bytes, heapBytes := bytes, objects := 4, scene := "Title"
      sceneSeconds := Binary.ofNat seconds, realSeconds := Binary.ofNat seconds, timeScale := Binary.ofNat 1
      triangles := none, drawCalls := some 7, audioChannels := 2, machine := ⟨"cpu", 4, some 1024, "N/A", "os"⟩ }

/-- two blocks of two frames; the first ends with one and a half megabytes, the second with one -/
def halves : List Frame :=
  [halfSecond 1 0, halfSecond 2 1572864, halfSecond 3 0, halfSecond 5 1048576]

theorem reports_partition_halves :
    let answers := ((ofInterval (Binary.ofNat 1)).run halves).1
    Accounts (counted (Binary.ofNat 1)) none halves answers ∧
      answers.map (·.map Report.lines) = [none,
        some ["FPS: 2.0", "RAM: Managed 1.5 MB / Total 3.0 MB", "GC: 1.5 MB (delta: 0.00 MB, 0.0s)", "Objects: 4",
          "Scene: Title | Time: 2.0s | TS: 1.0", "Triangles: N/A", "Draw calls: 7", "Audio channels playing sounds: 2",
          "System info:\n- CPU: cpu\n- Cores: 4\n- RAM: 1024 MB\n- GPU: N/A\n- OS: os"],
        none,
        some ["FPS: 2.0", "RAM: Managed 1.0 MB / Total 2.0 MB", "GC: 1.0 MB (delta: -0.50 MB, 3.0s)", "Objects: 4",
          "Scene: Title | Time: 5.0s | TS: 1.0", "Triangles: N/A", "Draw calls: 7", "Audio channels playing sounds: 2",
          "System info:\n- CPU: cpu\n- Cores: 4\n- RAM: 1024 MB\n- GPU: N/A\n- OS: os"]] := by
  have haccount (frames : List Frame) : Accounts (counted (Binary.ofNat 1)) none frames
      ((ofInterval (Binary.ofNat 1)).run frames).1 :=
    ((reports_partition (Binary.ofNat 1) frames).1 _).2 rfl
  exact ⟨haccount halves, by decide +kernel⟩

end HostConsole.Meter

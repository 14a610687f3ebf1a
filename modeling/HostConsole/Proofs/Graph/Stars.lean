/-
The graph as plain text. A rate that is shown has one star in the text: in its own column, on the line of its row, the
top row being the first line. Cutting the blanks at the end of a line moves no star and takes none away, so the text
holds as many stars as rates are shown.

Result: `plain_stars`. In every graph that comes about, whatever number of columns and rows is asked for, the text is
such a picture of the newest rates (`Plots`); and if it shows all rates, two or more, on as many rows as the drawn
picture has, then every star stands where that picture has the colour of the line.
-/
import Mathlib.Algebra.BigOperators.Group.Finset.Basic
import HostConsole.Proofs.Graph.Picture
import HostConsole.Proofs.Text.Breaks
import HostConsole.Proofs.Text.Spacing

namespace HostConsole

open Text

namespace RateGraph

variable {graph : RateGraph} {levels : List ℤ} {columns rows : ℕ}

/-! ## Texts that show rates -/

/-- how many rates are shown on so many columns -/
def shown (graph : RateGraph) (columns : ℕ) : ℕ :=
  min columns graph.samples.length

/-- the row of a rate that is shown, on so many rows; the newest rates are shown, the oldest of them first -/
def level? (graph : RateGraph) (columns rows x : ℕ) : Option ℤ :=
  graph.samples[graph.samples.length - graph.shown columns + x]?.map (rowOf · graph.scale rows)

/-- the text shows the newest rates as stars, on so many rows, one at least -/
structure Plots (graph : RateGraph) (columns rows : ℕ) (text : String) : Prop where
  lines : (linesOf text).length = max rows 1
  characters : ∀ line ∈ linesOf text, ∀ c ∈ line, c = '*' ∨ c = ' '
  trimmed : ∀ line ∈ linesOf text, ∀ c ∈ line.getLast?, Text.isBlank c = false
  ordered : 0 ≤ topRow (max rows 1)
  column : ∀ x < graph.shown columns, ∃ level, graph.level? columns (max rows 1) x = some level ∧
    0 ≤ level ∧ level < max rows 1 ∧ ∀ line : ℕ, charAt? text line x = some '*' ↔ (line : ℤ) = max rows 1 - 1 - level
  beyond : ∀ line x, charAt? text line x = some '*' → x < graph.shown columns
  stars : text.toList.count '*' = graph.shown columns
  blank : Text.AllBlank text.toList ↔ graph.shown columns = 0

/-! ## Lines -/

/-- a line before the blanks at its end are cut -/
def starRow (levels : List ℤ) (row : ℕ) : List Char :=
  levels.map fun level => if level = (row : ℤ) then '*' else ' '

theorem toList_plainLine (levels : List ℤ) (row : ℕ) :
    (plainLine levels row).toList = Text.trimEndChars (starRow levels row) :=
  String.toList_ofList

theorem mem_plainLine {row : ℕ} {c : Char} (h : c ∈ (plainLine levels row).toList) : c = '*' ∨ c = ' ' := by
  obtain ⟨trail, -, hrow⟩ := Text.exists_trail (starRow levels row)
  rw [toList_plainLine] at h
  have hmem : c ∈ starRow levels row := by
    rw [hrow]
    exact List.mem_append_left _ h
  obtain ⟨level, -, rfl⟩ := List.mem_map.1 hmem
  split_ifs
  · exact Or.inl rfl
  · exact Or.inr rfl

/-- the stars of a line stand in the columns of its row -/
theorem star_plainLine {row x : ℕ} : (plainLine levels row).toList[x]? = some '*' ↔ levels[x]? = some (row : ℤ) := by
  rw [toList_plainLine, Text.getElem?_trimEndChars (by decide), starRow, List.getElem?_map]
  cases levels[x]? with
  | none => simp
  | some level =>
    simp only [Option.map_some, Option.some.injEq]
    split_ifs with h
    · exact iff_of_true rfl h
    · exact iff_of_false (by decide) h

theorem count_plainLine (row : ℕ) : (plainLine levels row).toList.count '*' = levels.count (row : ℤ) := by
  rw [toList_plainLine, Text.count_trimEndChars (by decide), starRow]
  induction levels with
  | nil => rfl
  | cons level levels ih =>
    rw [List.map_cons, List.count_cons, List.count_cons, ih]
    by_cases h : level = (row : ℤ) <;> simp [h]

/-- every level is counted on one row -/
theorem sum_count {rows : ℕ} (h : ∀ level ∈ levels, 0 ≤ level ∧ level < rows) :
    ∑ row ∈ Finset.range rows, levels.count (row : ℤ) = levels.length := by
  induction levels with
  | nil => simp
  | cons level levels ih =>
    obtain ⟨⟨hlow, hhigh⟩, hrest⟩ := List.forall_mem_cons.1 h
    obtain ⟨k, rfl⟩ := Int.eq_ofNat_of_zero_le hlow
    have hk : k ∈ Finset.range rows := Finset.mem_range.2 (by exact_mod_cast hhigh)
    simp only [List.count_cons, beq_iff_eq, Int.natCast_inj]
    rw [Finset.sum_add_distrib, ih hrest, Finset.sum_ite_eq, if_pos hk, List.length_cons]

/-! ## The text -/

/-- the rows of the rates that are shown -/
def shownRows (graph : RateGraph) (columns rows : ℕ) : List ℤ :=
  (graph.samples.drop (graph.samples.length - columns)).map (rowOf · graph.scale rows)

theorem length_shownRows (graph : RateGraph) (columns rows : ℕ) :
    (graph.shownRows columns rows).length = graph.shown columns := by
  rw [shownRows, List.length_map, List.length_drop, shown]
  omega

theorem getElem?_shownRows (graph : RateGraph) (columns rows x : ℕ) :
    (graph.shownRows columns rows)[x]? = graph.level? columns rows x := by
  have hskip : graph.samples.length - columns = graph.samples.length - graph.shown columns := by
    rw [shown]
    omega
  rw [shownRows, level?, List.getElem?_map, List.getElem?_drop, hskip]

/-- the lines of the text, from the top row down -/
def plainLines (graph : RateGraph) (columns rows : ℕ) : List (List Char) :=
  (List.range rows).reverse.map fun row => (plainLine (graph.shownRows columns rows) row).toList

theorem toList_plain (graph : RateGraph) (columns rows : ℕ) :
    (graph.plain columns rows).toList = ['\n'].intercalate (graph.plainLines columns (max rows 1)) := by
  rw [plain, String.toList_intercalate, List.map_map]
  rfl

theorem linesOf_plain (graph : RateGraph) (columns rows : ℕ) :
    linesOf (graph.plain columns rows) = graph.plainLines columns (max rows 1) := by
  have hbreak : ∀ line ∈ graph.plainLines columns (max rows 1), '\n' ∉ line := by
    intro line hline hmem
    obtain ⟨row, -, rfl⟩ := List.mem_map.1 hline
    exact absurd (mem_plainLine hmem) (by decide)
  have hne : graph.plainLines columns (max rows 1) ≠ [] := by
    simp [plainLines]
  rw [linesOf, toList_plain, List.splitOn_intercalate '\n' hbreak hne]

theorem length_plainLines (graph : RateGraph) (columns rows : ℕ) : (graph.plainLines columns rows).length = rows := by
  simp [plainLines]

/-- the first line is the top row -/
theorem getElem?_plainLines {line : ℕ} (hline : line < rows) : (graph.plainLines columns rows)[line]? =
    some (plainLine (graph.shownRows columns rows) (rows - 1 - line)).toList := by
  have hrange : line < (List.range rows).length := by rwa [List.length_range]
  have hrow : rows - 1 - line < rows := by omega
  rw [plainLines, List.getElem?_map, List.getElem?_reverse hrange, List.length_range, List.getElem?_range hrow,
    Option.map_some]

/-- a star stands in the column of a rate and on the line of its row -/
theorem star_plain {line x : ℕ} : charAt? (graph.plain columns rows) line x = some '*' ↔
    ∃ level, graph.level? columns (max rows 1) x = some level ∧ 0 ≤ level ∧ (line : ℤ) = max rows 1 - 1 - level := by
  rw [charAt?, linesOf_plain]
  rcases Nat.lt_or_ge line (max rows 1) with hline | hbelow
  · rw [getElem?_plainLines hline, Option.bind_some, star_plainLine, getElem?_shownRows]
    constructor
    · intro h
      exact ⟨_, h, Int.natCast_nonneg _, by omega⟩
    · rintro ⟨level, hlevel, -, hat⟩
      rw [hlevel, Option.some.injEq]
      omega
  · rw [List.getElem?_eq_none (by rw [length_plainLines]; exact hbelow)]
    refine iff_of_false nofun ?_
    rintro ⟨level, -, hlow, hat⟩
    omega

/-! ## Stars -/

theorem level?_eq_some {x : ℕ} {level : ℤ} (h : graph.level? columns rows x = some level) :
    ∃ rate, graph.samples[graph.samples.length - graph.shown columns + x]? = some rate ∧
      level = rowOf rate graph.scale rows := by
  obtain ⟨rate, hrate, hlevel⟩ := Option.map_eq_some_iff.1 h
  exact ⟨rate, hrate, hlevel.symm⟩

theorem shownRows_inside (hrows : 0 < rows) : ∀ level ∈ graph.shownRows columns rows, 0 ≤ level ∧ level < rows := by
  intro level hlevel
  obtain ⟨rate, -, rfl⟩ := List.mem_map.1 hlevel
  exact rowOf_inside rate graph.scale hrows

/-- **There is a star for every rate that is shown.** -/
theorem count_plain (graph : RateGraph) (columns rows : ℕ) :
    (graph.plain columns rows).toList.count '*' = graph.shown columns := by
  have hrows : 0 < max rows 1 := by omega
  calc (graph.plain columns rows).toList.count '*'
      = ((List.range (max rows 1)).map fun row : ℕ => (graph.shownRows columns (max rows 1)).count (row : ℤ)).sum := by
        rw [toList_plain, Text.count_intercalate (by decide), plainLines, List.map_map, List.map_reverse,
          List.sum_reverse]
        simp only [Function.comp_def, count_plainLine]
    _ = ∑ row ∈ Finset.range (max rows 1), (graph.shownRows columns (max rows 1)).count (row : ℤ) := rfl
    _ = graph.shown columns := by rw [sum_count (shownRows_inside hrows), length_shownRows]

/-- what is no star is blank -/
theorem mem_plain {c : Char} (h : c ∈ (graph.plain columns rows).toList) : c = '*' ∨ Text.isBlank c = true := by
  rw [toList_plain] at h
  rcases Text.mem_intercalate h with rfl | ⟨line, hline, hc⟩
  · exact Or.inr (by decide)
  · obtain ⟨row, -, rfl⟩ := List.mem_map.1 hline
    rcases mem_plainLine hc with rfl | rfl
    · exact Or.inl rfl
    · exact Or.inr (by decide)

/-- **The text shows the newest rates.** -/
theorem plots_plain (graph : RateGraph) (columns rows : ℕ) : graph.Plots columns rows (graph.plain columns rows) := by
  have hrows : 0 < max rows 1 := by omega
  have hline : ∀ line ∈ linesOf (graph.plain columns rows), ∃ row,
      line = (plainLine (graph.shownRows columns (max rows 1)) row).toList := by
    intro line hline
    rw [linesOf_plain] at hline
    obtain ⟨row, -, rfl⟩ := List.mem_map.1 hline
    exact ⟨row, rfl⟩
  refine ⟨?_, ?_, ?_, (topRow_inside hrows).1, ?_, ?_, count_plain graph columns rows, ?_⟩
  · rw [linesOf_plain, length_plainLines]
  · intro line hmem c hc
    obtain ⟨row, rfl⟩ := hline line hmem
    exact mem_plainLine hc
  · intro line hmem c hc
    obtain ⟨row, rfl⟩ := hline line hmem
    rw [toList_plainLine] at hc
    exact Text.isBlank_getLast?_trimEndChars hc
  · intro x hx
    have hlt : x < (graph.shownRows columns (max rows 1)).length := by rwa [length_shownRows]
    have hlevel := List.getElem?_eq_getElem hlt
    have hinside := shownRows_inside hrows _ (List.getElem_mem hlt)
    rw [getElem?_shownRows] at hlevel
    refine ⟨_, hlevel, hinside.1, hinside.2, fun line => ?_⟩
    rw [star_plain, hlevel]
    simp [hinside.1]
  · intro line x hstar
    obtain ⟨level, hlevel, -⟩ := star_plain.1 hstar
    rw [← getElem?_shownRows] at hlevel
    have hlt := (List.getElem?_eq_some_iff.1 hlevel).1
    rwa [length_shownRows] at hlt
  · rw [← count_plain graph columns rows, List.count_eq_zero]
    constructor
    · intro hblank hstar
      exact absurd (hblank _ hstar) (by decide)
    · intro hnone c hc
      rcases mem_plain hc with rfl | hblank
      · exact absurd hc hnone
      · exact hblank

/-- **The text shows the newest rates, and agrees with the picture.** In every graph that comes about, and for any
columns and rows, each rate that is shown has one star, in its column and on the line of its row. If all rates are
shown, two at least, on the rows of the picture, every star has the colour of the line in the picture drawn. -/
theorem plain_stars (width height : ℕ) (changes : List Change) (columns : ℕ) :
    let graph := (ofSize width height).run changes
    (∀ rows, graph.Plots columns rows (graph.plain columns rows)) ∧
      (2 ≤ graph.samples.length → graph.samples.length ≤ columns → ∀ x y : ℕ, y < graph.height →
        charAt? (graph.plain columns graph.height) (graph.height - 1 - y) x = some '*' →
          graph.redraw.pixel? x y = some graph.line) := by
  intro graph
  have h : Formed graph := formed_run (formed_ofSize width height) changes
  refine ⟨fun rows => plots_plain graph columns rows, fun htwo hall x y hy hstar => ?_⟩
  have hheight : max graph.height 1 = graph.height := by
    have := h.height
    omega
  obtain ⟨level, hlevel, -, hline⟩ := star_plain.1 hstar
  rw [hheight] at hlevel hline
  obtain ⟨rate, hrate, hat⟩ := level?_eq_some hlevel
  rw [shown, Nat.min_eq_right hall, Nat.sub_self, Nat.zero_add] at hrate
  have hrow : (graph.sampleRows graph.height)[x]? = some (y : ℤ) := by
    rw [sampleRows, List.getElem?_map, hrate, Option.map_some, ← hat, Option.some.injEq]
    omega
  have hshows := shows_sampleRows h
  obtain ⟨low, high, -, hlow, hhigh, -, hrun⟩ := hshows.run (by rwa [length_sampleRows]) x y hrow
  exact hshows.lit x y ((hrun y).2 ⟨hlow, hhigh⟩)

theorem plain_stars_peak :
    peakGraph.plain 3 2 = "* *\n *" ∧ peakGraph.Plots 3 2 "* *\n *" ∧
      peakGraph.plain 3 8 = "*\n\n\n  *\n\n\n\n *" ∧ peakGraph.redraw.pixel? 2 4 = some .lime := by
  have hlevels : peakGraph.plain 3 2 = "* *\n *" := by decide +kernel
  have hpicture : peakGraph.plain 3 8 = "*\n\n\n  *\n\n\n\n *" := by decide +kernel
  obtain ⟨hplots, hagree⟩ := plain_stars 4 8
    [.push (Binary.ofNat 60), .push (Binary.ofNat 0), .push (Binary.ofNat 30)] 3
  refine ⟨hlevels, hlevels ▸ hplots 2, hpicture, ?_⟩
  refine hagree (by decide +kernel) (by decide +kernel) 2 4 (by decide +kernel) ?_
  change charAt? (peakGraph.plain 3 8) 3 2 = some '*'
  rw [hpicture]
  decide +kernel

/-- the older rate is not shown, but the scale is still its own -/
example : peakGraph.plain 2 4 = "\n *\n\n*" := by decide +kernel

end RateGraph

end HostConsole

/-
Lines and their words. A maximal run of a text holds no blank and is not empty, and it stands between blanks or ends of
the text (`IsMaximal`). The run at a place is the maximal run with so many runs before it (`getElem?_runs_iff`), so that a
text is split into words in one way only (`SplitInto`).

Result: `tokens_exact`. A line is read exactly if it is not blank, as its maximal runs in order, the first of them in
lowercase; every layout of words is read as these words; and a line read is read the same again when its command and
arguments are joined by single blanks.
-/
import HostConsole.Dispatch
import HostConsole.Proofs.Text.Spacing

namespace HostConsole

namespace Text

/-! ## Maximal runs -/

/-- between these texts the run cannot be made longer -/
structure IsMaximal (before run after : List Char) : Prop where
  word : IsWord run
  before : Apart before.reverse
  after : Apart after

variable {s before run after : List Char}

/-- a character in front of other ones joins the first of their runs alone, whatever runs come behind a blank -/
theorem joinRun_append (c : Char) (hne : before ≠ []) {found : List (List Char)} (more : List (List Char))
    (hfound : found ≠ [] ∨ Apart before) :
    joinRun c (before ++ after) (found ++ run :: more) = joinRun c before found ++ run :: more := by
  obtain ⟨d, before, rfl⟩ := List.exists_cons_of_ne_nil hne
  cases found with
  | nil =>
    have hapart : Apart (d :: before) := hfound.resolve_left (fun h => h rfl)
    have hd : isBlank d = true := hapart d rfl
    rw [joinRun_apart hapart, List.cons_append, List.nil_append, joinRun, if_pos hd]
    rfl
  | cons first found =>
    simp only [List.cons_append, joinRun]
    split_ifs <;> rfl

/-- a maximal run comes between the runs of what is before and behind it -/
theorem runs_around (h : IsMaximal before run after) :
    runs (before ++ (run ++ after)) = runs before ++ run :: runs after := by
  obtain ⟨hword, hbefore, hafter⟩ := h
  induction before with
  | nil => exact runs_word_append hword hafter
  | cons c before ih =>
    rw [List.cons_append, runs, runs]
    cases before with
    | nil =>
      have hc : isBlank c = true := hbefore c rfl
      rw [if_pos hc, if_pos hc, List.nil_append, runs_word_append hword hafter]
      rfl
    | cons d before =>
      have hlast : Apart (d :: before).reverse := by
        intro e he
        refine hbefore e ?_
        rw [List.reverse_cons, List.head?_append_of_ne_nil _ (by simp)]
        exact he
      rw [ih hlast]
      split_ifs with hc
      · rfl
      · refine joinRun_append c (List.cons_ne_nil _ _) (runs after) ?_
        cases hruns : runs (d :: before) with
        | nil => exact Or.inr (apart_of_allBlank (allBlank_of_runs hruns))
        | cons first found => exact Or.inl (List.cons_ne_nil _ _)

/-- every run is maximal, and the runs before it are those of the text before it -/
theorem exists_around {i : ℕ} (h : (runs s)[i]? = some run) :
    ∃ before after, s = before ++ (run ++ after) ∧ IsMaximal before run after ∧ (runs before).length = i := by
  induction i generalizing s with
  | zero =>
    have hmem : run ∈ runs s := List.mem_of_getElem? h
    obtain ⟨first, more, hmore⟩ := List.exists_cons_of_ne_nil (List.ne_nil_of_mem hmem)
    obtain ⟨lead, rest, hl, hr, hs, -⟩ := exists_of_runs_cons hmore
    rw [hmore] at h
    cases h
    have hlead : AllBlank lead.reverse := fun c hc => hl c (List.mem_reverse.1 hc)
    refine ⟨lead, rest, by rw [hs, List.append_assoc], ⟨isWord_of_mem_runs hmem, apart_of_allBlank hlead, hr⟩, ?_⟩
    rw [runs_allBlank hl]
    rfl
  | succ i ih =>
    obtain ⟨first, more, hmore⟩ := List.exists_cons_of_ne_nil (List.ne_nil_of_mem (List.mem_of_getElem? h))
    obtain ⟨lead, rest, hl, hr, hs, hrest⟩ := exists_of_runs_cons hmore
    rw [hmore, List.getElem?_cons_succ, ← hrest] at h
    obtain ⟨before, after, rfl, hmax, hcount⟩ := ih h
    have hfirst : IsWord first := isWord_of_mem_runs (by rw [hmore]; exact List.mem_cons_self)
    -- a gap stands between the two runs
    have hgap : ∃ c gap, before = c :: gap ∧ isBlank c = true := by
      cases before with
      | nil =>
        obtain ⟨c, word, rfl⟩ := List.exists_cons_of_ne_nil hmax.word.1
        have hblank := hr c rfl
        rw [hmax.word.2 c List.mem_cons_self] at hblank
        cases hblank
      | cons c gap => exact ⟨c, gap, rfl, hr c rfl⟩
    obtain ⟨c, gap, rfl, hc⟩ := hgap
    have hapart : Apart (c :: gap) := fun d hd => by cases hd; exact hc
    refine ⟨lead ++ (first ++ c :: gap), after, by rw [hs]; simp, ⟨hmax.word, ?_, hmax.after⟩, ?_⟩
    · intro d hd
      refine hmax.before d ?_
      rw [← List.append_assoc, List.reverse_append, List.head?_append_of_ne_nil _ (by simp)] at hd
      exact hd
    · rw [runs_blank_append hl, runs_word_append hfirst hapart, List.length_cons, hcount]

/-- **The run at a place is the maximal run with so many runs before it.** -/
theorem getElem?_runs_iff {i : ℕ} : (runs s)[i]? = some run ↔
    ∃ before after, s = before ++ (run ++ after) ∧ IsMaximal before run after ∧ (runs before).length = i := by
  refine ⟨exists_around, ?_⟩
  rintro ⟨before, after, rfl, hmax, rfl⟩
  rw [runs_around hmax, List.getElem?_append_right le_rfl, Nat.sub_self]
  rfl

/-- the runs in a row are the text without its blanks -/
theorem flatten_runs (s : List Char) : (runs s).flatten = s.filter fun c => !isBlank c := by
  induction s with
  | nil => rfl
  | cons c rest ih =>
    have hjoin : ∀ found, (joinRun c rest found).flatten = c :: found.flatten := by
      intro found
      unfold joinRun
      split
      · split_ifs <;> rfl
      · rfl
    rw [runs]
    split_ifs with hc
    · rw [ih, List.filter_cons_of_neg (by simp [hc])]
    · rw [hjoin, ih, List.filter_cons_of_pos (by simp [hc])]

/-! ## Words -/

/-- these are the maximal runs of the text, in order: each is a word, in a row they are the text without its blanks, and
the one at a place is the maximal run with so many words before it -/
structure SplitInto (text : String) (found : List String) : Prop where
  word : ∀ word ∈ found, IsWord word.toList
  joined : found.flatMap String.toList = text.toList.filter fun c => !isBlank c
  place : ∀ (i : ℕ) (word : String), found[i]? = some word ↔ ∃ before after : String,
    text = before ++ (word ++ after) ∧ IsMaximal before.toList word.toList after.toList ∧ (words before).length = i

theorem getElem?_words {text word : String} {i : ℕ} :
    (words text)[i]? = some word ↔ (runs text.toList)[i]? = some word.toList := by
  rw [words, List.getElem?_map, Option.map_eq_some_iff]
  constructor
  · rintro ⟨run, hrun, rfl⟩
    rwa [String.toList_ofList]
  · exact fun h => ⟨word.toList, h, String.ofList_toList⟩

theorem splitInto_words (text : String) : SplitInto text (words text) := by
  refine ⟨fun word => isWord_of_mem_words, ?_, fun i word => ?_⟩
  · rw [← flatten_runs, words, List.flatMap_map]
    simp [List.flatMap_id']
  · rw [getElem?_words, getElem?_runs_iff]
    constructor
    · rintro ⟨before, after, htext, hmax, hcount⟩
      refine ⟨String.ofList before, String.ofList after, String.toList_injective ?_, ?_, ?_⟩
      · simp [htext]
      · simpa using hmax
      · simpa [words] using hcount
    · rintro ⟨before, after, rfl, hmax, hcount⟩
      exact ⟨before.toList, after.toList, by simp, hmax, by simpa [words] using hcount⟩

/-- a text is split in one way only -/
theorem SplitInto.eq_words {text : String} {found : List String} (h : SplitInto text found) : found = words text := by
  refine List.ext_getElem? fun i => Option.ext fun word => ?_
  rw [h.place, (splitInto_words text).place]

theorem words_eq_nil_iff {text : String} : words text = [] ↔ AllBlank text.toList := by
  rw [words, List.map_eq_nil_iff]
  exact ⟨allBlank_of_runs, runs_allBlank⟩

end Text

namespace Line

open Text

/-! ## Lines -/

theorem read?_eq_some_iff {text : String} {line : Line} : read? text = some line ↔
    ∃ first, line.command = lower first ∧ words text = first :: line.arguments := by
  unfold read?
  cases words text with
  | nil => simp
  | cons first rest =>
    simp only [Option.some.injEq, List.cons.injEq]
    constructor
    · rintro rfl
      exact ⟨first, rfl, rfl, rfl⟩
    · rintro ⟨_, hcommand, rfl, rfl⟩
      rw [← hcommand]

/-- the words of a line joined again: the command is in lowercase already -/
theorem read?_intercalate {text : String} {line : Line} (h : read? text = some line) :
    read? (" ".intercalate (line.command :: line.arguments)) = some line := by
  obtain ⟨first, hcommand, hwords⟩ := read?_eq_some_iff.1 h
  have hword : ∀ word ∈ first :: line.arguments, IsWord word.toList := fun word hmem =>
    isWord_of_mem_words (by rw [hwords]; exact hmem)
  have hlower : IsWord line.command.toList := by
    rw [hcommand]
    exact isWord_lower (hword first List.mem_cons_self)
  refine read?_eq_some_iff.2 ⟨line.command, ?_, ?_⟩
  · rw [hcommand, lower_lower]
  · exact words_intercalate hlower fun word hmem => hword word (List.mem_cons_of_mem first hmem)

/-- **Reading a line is the inverse of laying out words.** -/
theorem tokens_exact :
    (∀ text, read? text = none ↔ AllBlank text.toList) ∧
    (∀ text line, read? text = some line ↔
      ∃ first, line.command = lower first ∧ SplitInto text (first :: line.arguments)) ∧
    (∀ (lead first trail : String) (rest : List (String × String)), AllBlank lead.toList → IsWord first.toList →
      (∀ p ∈ rest, IsGap p.1.toList ∧ IsWord p.2.toList) → AllBlank trail.toList →
      read? (spaced lead first rest trail) = some ⟨lower first, rest.map Prod.snd⟩) ∧
    ∀ text line, read? text = some line → read? (" ".intercalate (line.command :: line.arguments)) = some line := by
  refine ⟨fun text => ?_, fun text line => ?_, fun lead first trail rest hl hf hr ht => ?_,
    fun text line => read?_intercalate⟩
  · rw [← words_eq_nil_iff, read?]
    cases words text <;> simp
  · rw [read?_eq_some_iff]
    constructor
    · rintro ⟨first, hcommand, hwords⟩
      exact ⟨first, hcommand, hwords ▸ splitInto_words text⟩
    · rintro ⟨first, hcommand, hsplit⟩
      exact ⟨first, hcommand, hsplit.eq_words.symm⟩
  · exact read?_eq_some_iff.2 ⟨first, rfl, words_spaced hl hf hr ht⟩

/-- a name with a sigma to decide, quotes that hold nothing together, and a space of no width, which is no blank -/
theorem tokens_exact_quoted :
    let text := "\u3000 SeT_ΛόγοΣ\t\"a  b\"\u200B\n"
    let line : Line := ⟨"set_λόγος", ["\"a", "b\"\u200B"]⟩
    read? text = some line ∧ (∃ first, line.command = lower first ∧ SplitInto text (first :: line.arguments)) ∧
      read? "set_λόγος \"a b\"\u200B" = some line ∧ read? "\u2028\t" = none := by
  intro text line
  obtain ⟨hblank, hread, hlaid, hagain⟩ := tokens_exact
  have htext : text = spaced "\u3000 " "SeT_ΛόγοΣ" [("\t", "\"a"), ("  ", "b\"\u200B")] "\n" := by decide +kernel
  have hlower : lower "SeT_ΛόγοΣ" = "set_λόγος" := by decide +kernel
  have hline : read? text = some line := by
    rw [htext, hlaid _ _ _ _ (by decide) (by decide) (by decide) (by decide), hlower]
    rfl
  have hjoined : " ".intercalate (line.command :: line.arguments) = "set_λόγος \"a b\"\u200B" := by decide +kernel
  exact ⟨hline, (hread text line).1 hline, hjoined ▸ hagain text line hline, (hblank _).2 (by decide)⟩

end Line

end HostConsole

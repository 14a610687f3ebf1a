/-
Texts laid out with blanks. Words stand in a row with a gap between any two of them and with blanks, or nothing, at
both ends (`spaced`).

Results: splitting gives the words back, whatever the gaps are (`words_spaced`), and a name is folded as if the blanks
around it were not there (`foldName_pad`). Blanks at either end of a text change neither its words nor what trimming
leaves of it (`words_trim`, `trim_trim`), and a text of one word is this word among blanks (`trim_eq_of_words`).
-/
import Mathlib.Data.List.TakeWhile
import Mathlib.Tactic
import HostConsole.Proofs.Text.Lower

namespace HostConsole.Text

/-! ## Blanks around words -/

/-- a run of a class ends where something else begins -/
theorem span_append {p : Char → Bool} {run : List Char} (hin : ∀ c ∈ run, p c = true) (rest : List Char)
    (hout : ∀ c ∈ rest.head?, p c = false) :
    (run ++ rest).takeWhile p = run ∧ (run ++ rest).dropWhile p = rest := by
  rw [List.takeWhile_append_of_pos hin, List.dropWhile_append_of_pos hin]
  cases rest with
  | nil => simp
  | cons c rest => simp [hout c rfl]

/-- blanks, or nothing -/
def AllBlank (s : List Char) : Prop :=
  ∀ c ∈ s, isBlank c = true

instance : DecidablePred AllBlank :=
  fun s => decidable_of_iff (s.all isBlank = true) List.all_eq_true

theorem allBlank_nil : AllBlank [] :=
  fun c hc => by cases hc

/-- one blank or more -/
def IsGap (s : List Char) : Prop :=
  s ≠ [] ∧ AllBlank s

instance : DecidablePred IsGap :=
  fun s => inferInstanceAs (Decidable (s ≠ [] ∧ AllBlank s))

/-- words in a row: the first one, and all others with the gaps in front of them -/
def spaced (lead first : String) (rest : List (String × String)) (trail : String) : String :=
  lead ++ first ++ String.join (rest.map fun p => p.1 ++ p.2) ++ trail

/-- a word ends where this begins: it is empty or starts with a blank -/
def Apart (s : List Char) : Prop :=
  ∀ c ∈ s.head?, isBlank c = true

theorem apart_of_allBlank {s : List Char} (h : AllBlank s) : Apart s :=
  fun c hc => h c (List.mem_of_head? hc)

theorem apart_of_isGap {gap : List Char} (h : IsGap gap) (s : List Char) : Apart (gap ++ s) := by
  obtain ⟨c, gap, rfl⟩ := List.exists_cons_of_ne_nil h.1
  intro d hd
  simp only [List.cons_append, List.head?_cons, Option.mem_def, Option.some.injEq] at hd
  rw [← hd]
  exact h.2 c List.mem_cons_self

/-! ## Runs -/

theorem runs_blank_append {gap : List Char} (h : AllBlank gap) (s : List Char) : runs (gap ++ s) = runs s := by
  induction gap with
  | nil => rfl
  | cons c gap ih =>
    rw [List.cons_append, runs, if_pos (h c List.mem_cons_self)]
    exact ih fun d hd => h d (List.mem_cons_of_mem c hd)

theorem runs_allBlank {s : List Char} (h : AllBlank s) : runs s = [] := by
  have e := runs_blank_append h []
  rwa [List.append_nil] at e

/-- a character in front of a blank is a run of its own -/
theorem joinRun_apart {s : List Char} (h : Apart s) (c : Char) (found : List (List Char)) :
    joinRun c s found = [c] :: found := by
  unfold joinRun
  split
  · rename_i d rest run more
    rw [if_pos (h d rfl)]
  · rfl

/-- a word in front of a blank is a run -/
theorem runs_word_append {word s : List Char} (hw : IsWord word) (hs : Apart s) :
    runs (word ++ s) = word :: runs s := by
  induction word with
  | nil => exact absurd rfl hw.1
  | cons c word ih =>
    have hc : ¬ isBlank c = true := by simp [hw.2 c List.mem_cons_self]
    rw [List.cons_append, runs, if_neg hc]
    cases word with
    | nil => exact joinRun_apart hs c (runs s)
    | cons d word =>
      have hd : ∀ e ∈ d :: word, isBlank e = false := fun e he => hw.2 e (List.mem_cons_of_mem c he)
      rw [ih ⟨List.cons_ne_nil _ _, hd⟩, List.cons_append, joinRun, if_neg (by simp [hd d List.mem_cons_self])]

/-- words behind gaps, down to the blanks at the end -/
theorem runs_gaps {rest : List (String × String)} (h : ∀ p ∈ rest, IsGap p.1.toList ∧ IsWord p.2.toList)
    {trail : List Char} (ht : AllBlank trail) :
    Apart (rest.flatMap (fun p => p.1.toList ++ p.2.toList) ++ trail) ∧
      runs (rest.flatMap (fun p => p.1.toList ++ p.2.toList) ++ trail) = rest.map fun p => p.2.toList := by
  induction rest with
  | nil => exact ⟨apart_of_allBlank ht, runs_allBlank ht⟩
  | cons p rest ih =>
    obtain ⟨hgap, hword⟩ := h p List.mem_cons_self
    obtain ⟨hapart, hruns⟩ := ih fun q hq => h q (List.mem_cons_of_mem p hq)
    simp only [List.flatMap_cons, List.append_assoc, List.map_cons]
    exact ⟨apart_of_isGap hgap _, by rw [runs_blank_append hgap.2, runs_word_append hword hapart, hruns]⟩

theorem toList_spaced (lead first : String) (rest : List (String × String)) (trail : String) :
    (spaced lead first rest trail).toList = lead.toList ++ (first.toList ++
      (rest.flatMap (fun p => p.1.toList ++ p.2.toList) ++ trail.toList)) := by
  have hjoin : (String.join (rest.map fun p => p.1 ++ p.2)).toList =
      rest.flatMap fun p => p.1.toList ++ p.2.toList := by
    induction rest with
    | nil => rfl
    | cons p rest ih => simp [ih]
  simp [spaced, hjoin]

/-- splitting gives back the words that were laid out, whatever the gaps are -/
theorem words_spaced {lead first trail : String} {rest : List (String × String)} (hl : AllBlank lead.toList)
    (hf : IsWord first.toList) (hr : ∀ p ∈ rest, IsGap p.1.toList ∧ IsWord p.2.toList)
    (ht : AllBlank trail.toList) : words (spaced lead first rest trail) = first :: rest.map Prod.snd := by
  obtain ⟨hapart, hruns⟩ := runs_gaps hr ht
  rw [words, toList_spaced, runs_blank_append hl, runs_word_append hf hapart, hruns]
  simp

/-- one blank between any two words -/
theorem intercalate_eq_spaced (first : String) (rest : List String) :
    " ".intercalate (first :: rest) = spaced "" first (rest.map ((" ", ·))) "" := by
  simp only [spaced, List.map_map, Function.comp_def, String.empty_append, String.append_empty]
  induction rest generalizing first with
  | nil => simp
  | cons second rest ih => rw [String.intercalate_cons_cons, ih]; simp [String.append_assoc]

/-- splitting gives back words that were joined -/
theorem words_intercalate {first : String} {rest : List String} (hf : IsWord first.toList)
    (hr : ∀ word ∈ rest, IsWord word.toList) : words (" ".intercalate (first :: rest)) = first :: rest := by
  have hblank : IsGap " ".toList := by decide
  have hgaps : ∀ p ∈ rest.map ((" ", ·)), IsGap p.1.toList ∧ IsWord p.2.toList := by
    intro p hp
    obtain ⟨word, hword, rfl⟩ := List.mem_map.1 hp
    exact ⟨hblank, hr word hword⟩
  rw [intercalate_eq_spaced, words_spaced (by decide) hf hgaps (by decide), List.map_map]
  exact congrArg (first :: ·) (List.map_id rest)

/-! ## Blanks around a name -/

/-- trimming takes away the blanks around a word, and no more -/
theorem trimChars_pad {lead word trail : List Char} (hl : AllBlank lead) (hw : IsWord word) (ht : AllBlank trail) :
    trimChars (lead ++ word ++ trail) = word := by
  obtain ⟨c, word, rfl⟩ := List.exists_cons_of_ne_nil hw.1
  have hc : ¬ isBlank c = true := by simp [hw.2 c List.mem_cons_self]
  have htr : ∀ d ∈ trail.reverse, isBlank d = true := fun d hd => ht d (List.mem_reverse.1 hd)
  have hwr : ∀ d ∈ (c :: word).reverse, isBlank d = false := fun d hd => hw.2 d (List.mem_reverse.1 hd)
  calc trimChars (lead ++ (c :: word) ++ trail)
      = trimEndChars (((c :: word) ++ trail).dropWhile isBlank) := by
        rw [trimChars, List.append_assoc, List.dropWhile_append_of_pos hl]
    _ = trimEndChars ((c :: word) ++ trail) := by rw [List.cons_append, List.dropWhile_cons_of_neg hc]
    _ = c :: word := by
        rw [trimEndChars, List.reverse_append, List.dropWhile_append_of_pos htr, dropWhile_isBlank_eq_self hwr,
          List.reverse_reverse]

/-- a word is folded as if the blanks around it were not there -/
theorem foldName_pad {lead word trail : String} (hl : AllBlank lead.toList) (hw : IsWord word.toList)
    (ht : AllBlank trail.toList) : foldName (lead ++ word ++ trail) = lower word := by
  rw [foldName, trim, String.toList_append, String.toList_append, trimChars_pad hl hw ht, String.ofList_toList]

/-! ## Blanks at the ends of a text -/

theorem runs_append_blank {gap : List Char} (h : AllBlank gap) (s : List Char) : runs (s ++ gap) = runs s := by
  induction s with
  | nil => exact runs_allBlank h
  | cons c rest ih =>
    rw [List.cons_append, runs, runs, ih]
    cases rest with
    | nil => rw [List.nil_append, joinRun_apart (apart_of_allBlank h), joinRun_apart (apart_of_allBlank allBlank_nil)]
    | cons d rest =>
      rw [List.cons_append]
      unfold joinRun
      cases runs (d :: rest) <;> rfl

theorem trimChars_append_blank {gap : List Char} (h : AllBlank gap) (s : List Char) :
    trimChars (s ++ gap) = trimChars s := by
  have hgap : gap.dropWhile isBlank = [] := List.dropWhile_eq_nil_iff.2 h
  have hreverse : ∀ c ∈ gap.reverse, isBlank c = true := fun c hc => h c (List.mem_reverse.1 hc)
  rw [trimChars, trimChars, List.dropWhile_append]
  split_ifs with hs
  · rw [hgap, List.isEmpty_iff.1 hs]
  · rw [trimEndChars, List.reverse_append, List.dropWhile_append_of_pos hreverse, trimEndChars]

theorem trimChars_blank_append {gap : List Char} (h : AllBlank gap) (s : List Char) :
    trimChars (gap ++ s) = trimChars s := by
  rw [trimChars, List.dropWhile_append_of_pos h, trimChars]

/-- a text is what trimming its end leaves of it, and blanks -/
theorem exists_trail (s : List Char) : ∃ trail, AllBlank trail ∧ s = trimEndChars s ++ trail := by
  refine ⟨(s.reverse.takeWhile isBlank).reverse, fun _ hc => List.mem_takeWhile_imp (List.mem_reverse.1 hc), ?_⟩
  rw [trimEndChars, ← List.reverse_append, List.takeWhile_append_dropWhile, List.reverse_reverse]

/-- a text is what trimming leaves of it among blanks -/
theorem exists_pad (s : List Char) : ∃ lead trail, AllBlank lead ∧ AllBlank trail ∧
    s = lead ++ trimChars s ++ trail := by
  obtain ⟨trail, ht, htrail⟩ := exists_trail (s.dropWhile isBlank)
  refine ⟨s.takeWhile isBlank, trail, fun _ hc => List.mem_takeWhile_imp hc, ht, ?_⟩
  rw [trimChars, List.append_assoc, ← htrail, List.takeWhile_append_dropWhile]

/-- trimming the end leaves every character that is not blank in its place -/
theorem getElem?_trimEndChars {s : List Char} {c : Char} (hc : isBlank c = false) (i : ℕ) :
    (trimEndChars s)[i]? = some c ↔ s[i]? = some c := by
  obtain ⟨trail, ht, hs⟩ := exists_trail s
  conv_rhs => rw [hs]
  rcases Nat.lt_or_ge i (trimEndChars s).length with hlt | hge
  · rw [List.getElem?_append_left hlt]
  · rw [List.getElem?_append_right hge, List.getElem?_eq_none hge]
    refine ⟨nofun, fun h => ?_⟩
    rw [ht c (List.mem_of_getElem? h)] at hc
    cases hc

theorem count_trimEndChars {s : List Char} {c : Char} (hc : isBlank c = false) :
    (trimEndChars s).count c = s.count c := by
  obtain ⟨trail, ht, hs⟩ := exists_trail s
  have htrail : trail.count c = 0 := List.count_eq_zero.2 fun hmem => by
    rw [ht c hmem] at hc
    cases hc
  conv_rhs => rw [hs, List.count_append, htrail, Nat.add_zero]

/-- no blank is left at the end -/
theorem isBlank_getLast?_trimEndChars {s : List Char} {c : Char} (h : c ∈ (trimEndChars s).getLast?) :
    isBlank c = false := by
  rw [trimEndChars, List.getLast?_reverse] at h
  have hhead := List.head?_dropWhile_not isBlank s.reverse
  rw [h] at hhead
  exact hhead

/-- **Trimming keeps the words** -/
theorem words_trim (s : String) : words (trim s) = words s := by
  obtain ⟨lead, trail, hl, ht, hs⟩ := exists_pad s.toList
  have hruns : runs s.toList = runs (trimChars s.toList) := by
    conv_lhs => rw [hs]
    rw [runs_append_blank ht, runs_blank_append hl]
  rw [words, words, trim, String.toList_ofList, hruns]

theorem trim_trim (s : String) : trim (trim s) = trim s := by
  obtain ⟨lead, trail, hl, ht, hs⟩ := exists_pad s.toList
  have htrim : trimChars (trimChars s.toList) = trimChars s.toList := by
    conv_rhs => rw [hs]
    rw [trimChars_append_blank ht, trimChars_blank_append hl]
  rw [trim, trim, String.toList_ofList, htrim]

/-! ## A text of one word -/

theorem allBlank_of_runs {s : List Char} (h : runs s = []) : AllBlank s := by
  induction s with
  | nil => exact allBlank_nil
  | cons c rest ih =>
    rw [runs] at h
    split_ifs at h with hc
    · exact List.forall_mem_cons.2 ⟨hc, ih h⟩
    · unfold joinRun at h
      split at h
      · split_ifs at h
      · cases h

/-- the first run of a text stands between blanks, and the other runs are those of what follows it -/
theorem exists_of_runs_cons {s run : List Char} {more : List (List Char)} (h : runs s = run :: more) :
    ∃ lead rest, AllBlank lead ∧ Apart rest ∧ s = lead ++ run ++ rest ∧ runs rest = more := by
  induction s generalizing run more with
  | nil => cases h
  | cons c s ih =>
    rw [runs] at h
    split_ifs at h with hc
    · obtain ⟨lead, rest, hl, hr, rfl, hmore⟩ := ih h
      exact ⟨c :: lead, rest, List.forall_mem_cons.2 ⟨hc, hl⟩, hr, rfl, hmore⟩
    · cases hfound : runs s with
      | nil =>
        have hs : AllBlank s := allBlank_of_runs hfound
        rw [joinRun_apart (apart_of_allBlank hs)] at h
        cases h
        exact ⟨[], s, allBlank_nil, apart_of_allBlank hs, rfl, rfl⟩
      | cons found others =>
        obtain ⟨lead, rest, hl, hr, hs, hmore⟩ := ih hfound
        cases lead with
        | nil =>
          -- the first run of what follows touches `c`
          have hfront : ∃ d tail, s = d :: tail ∧ isBlank d = false := by
            have hword : IsWord found := isWord_of_mem_runs (by rw [hfound]; exact List.mem_cons_self)
            obtain ⟨d, word, rfl⟩ := List.exists_cons_of_ne_nil hword.1
            exact ⟨d, word ++ rest, hs, hword.2 d List.mem_cons_self⟩
          obtain ⟨d, tail, rfl, hd⟩ := hfront
          rw [hfound, joinRun, if_neg (by simp [hd])] at h
          cases h
          exact ⟨[], rest, allBlank_nil, hr, by rw [hs]; rfl, hmore⟩
        | cons d lead =>
          have happart : Apart s := by
            rw [hs, List.append_assoc]
            exact apart_of_isGap ⟨List.cons_ne_nil _ _, hl⟩ _
          rw [joinRun_apart happart] at h
          cases h
          exact ⟨[], s, allBlank_nil, happart, rfl, rfl⟩

/-- a text of one word is this word among blanks -/
theorem trim_eq_of_words {s word : String} (h : words s = [word]) : trim s = word := by
  have hword : IsWord word.toList := isWord_of_mem_words (by rw [h]; exact List.mem_singleton_self word)
  have hruns : runs s.toList = [word.toList] := by
    have hmap := congrArg (List.map String.toList) h
    simpa [words, List.map_map, Function.comp_def] using hmap
  obtain ⟨lead, rest, hl, -, hs, hrest⟩ := exists_of_runs_cons hruns
  rw [trim, hs, trimChars_pad hl hword (allBlank_of_runs hrest), String.ofList_toList]

/-- a word has one word, itself -/
theorem words_of_isWord {s : String} (h : IsWord s.toList) : words s = [s] := by
  have hruns := runs_word_append h (apart_of_allBlank allBlank_nil)
  rw [List.append_nil] at hruns
  rw [words, hruns]
  simp [runs]

end HostConsole.Text

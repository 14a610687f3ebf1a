/-
Which texts give settings. A text gives settings when it is a document and every name in it is a setting with a value of
its type (`GivenBy`); they are accepted when they are within their limits (`Valid`), and refused for the first limit they
break, in the order of the settings (`FirstBroken`).

Results: the check passes exactly valid settings and finds exactly the first broken limit (`check_eq_none_iff`,
`check_eq_some_iff`), so that a text is read as the settings it gives if these are valid (`ofText_eq_ok_iff`), and
refused for what they break first if they are not (`ofText_eq_invalid_iff`).
-/
import HostConsole.Proofs.Binary.Order
import HostConsole.Proofs.Text.Spacing
import HostConsole.Settings.Decode

namespace HostConsole

/-! ## Blank texts -/

theorem Text.trim_eq_empty_iff {text : String} : trim text = "" ↔ AllBlank text.toList := by
  constructor
  · intro h
    obtain ⟨lead, trail, hl, ht, hs⟩ := exists_pad text.toList
    have hnone : trimChars text.toList = [] := by
      have htrim := congrArg String.toList h
      rwa [trim, String.toList_ofList] at htrim
    rw [hs, hnone, List.append_nil]
    exact fun c hc => (List.mem_append.1 hc).elim (hl c) (ht c)
  · intro h
    have hnone := trimChars_append_blank h []
    rw [List.nil_append] at hnone
    rw [trim, hnone]
    rfl

namespace Settings

variable {settings : Settings} {text : String} {violation : Violation}

/-! ## Limits -/

/-- a side of a graph within its limits -/
def SideWithin (side : ℕ) : Prop :=
  2 ≤ side ∧ side ≤ 4096

/-- settings within their limits -/
structure Valid (settings : Settings) : Prop where
  lines : 1 ≤ settings.maxLogLines
  interval : settings.sampleInterval.IsPositive
  sides : SideWithin settings.graphWidth ∧ SideWithin settings.graphHeight
  key : ¬ Text.AllBlank settings.toggleKey.toList

/-- the first limit that settings break, in the order of the settings: the name of the setting, and what is wrong -/
inductive FirstBroken (settings : Settings) : String → Violation → Prop
  | lines (broken : ¬ 1 ≤ settings.maxLogLines) : FirstBroken settings "max_log_lines" .noLines
  | interval (lines : 1 ≤ settings.maxLogLines) (broken : ¬ settings.sampleInterval.IsPositive) :
    FirstBroken settings "sample_interval_secs" (.interval settings.sampleInterval)
  | sides (lines : 1 ≤ settings.maxLogLines) (interval : settings.sampleInterval.IsPositive)
    (broken : ¬ (SideWithin settings.graphWidth ∧ SideWithin settings.graphHeight)) :
    FirstBroken settings "graph_width/graph_height" (.sides settings.graphWidth settings.graphHeight)
  | key (lines : 1 ≤ settings.maxLogLines) (interval : settings.sampleInterval.IsPositive)
    (sides : SideWithin settings.graphWidth ∧ SideWithin settings.graphHeight)
    (broken : Text.AllBlank settings.toggleKey.toList) : FirstBroken settings "toggle_key" .blankKey

/-! ## The check -/

theorem not_isInterval_iff {seconds : Single} : (!isInterval seconds) = true ↔ ¬ seconds.IsPositive := by
  rw [Binary.isPositive_iff, isInterval, Bool.not_eq_true', ← Bool.not_eq_true, Bool.and_eq_true]

theorem isSide_iff {side : ℕ} : isSide side = true ↔ SideWithin side := by
  rw [isSide, Bool.and_eq_true, decide_eq_true_eq, decide_eq_true_eq]
  rfl

theorem not_isSide_iff {width height : ℕ} :
    (!isSide width || !isSide height) = true ↔ ¬ (SideWithin width ∧ SideWithin height) := by
  rw [← Bool.not_and, Bool.not_eq_true', ← Bool.not_eq_true, Bool.and_eq_true, isSide_iff, isSide_iff]

theorem isEmpty_trim_iff {key : String} : (Text.trim key).isEmpty = true ↔ Text.AllBlank key.toList := by
  rw [String.isEmpty_iff, Text.trim_eq_empty_iff]

/-- the check passes valid settings, and finds the first limit that others break -/
theorem check_cases (settings : Settings) : (settings.Valid ∧ settings.check = none) ∨
    ∃ violation, FirstBroken settings violation.key violation ∧ settings.check = some violation := by
  unfold check
  split_ifs with hlines hinterval hsides hkey
  · exact Or.inr ⟨.noLines, .lines (by omega), rfl⟩
  · exact Or.inr ⟨.interval _, .interval (by omega) (not_isInterval_iff.1 hinterval), rfl⟩
  · rw [not_isInterval_iff, not_not] at hinterval
    exact Or.inr ⟨.sides _ _, .sides (by omega) hinterval (not_isSide_iff.1 hsides), rfl⟩
  · rw [not_isInterval_iff, not_not] at hinterval
    rw [not_isSide_iff, not_not] at hsides
    exact Or.inr ⟨.blankKey, .key (by omega) hinterval hsides (isEmpty_trim_iff.1 hkey), rfl⟩
  · rw [not_isInterval_iff, not_not] at hinterval
    rw [not_isSide_iff, not_not] at hsides
    exact Or.inl ⟨⟨by omega, hinterval, hsides, fun hblank => hkey (isEmpty_trim_iff.2 hblank)⟩, rfl⟩

theorem FirstBroken.not_valid {key : String} (h : FirstBroken settings key violation) : ¬ settings.Valid := by
  rintro ⟨hlines, hinterval, hsides, hkey⟩
  cases h <;> contradiction

/-- no two limits are the first -/
theorem FirstBroken.unique {key other : String} {violation' : Violation} (h : FirstBroken settings key violation)
    (h' : FirstBroken settings other violation') : violation = violation' := by
  cases h <;> cases h' <;> first | rfl | contradiction

theorem check_eq_none_iff : settings.check = none ↔ settings.Valid := by
  rcases settings.check_cases with ⟨hvalid, hcheck⟩ | ⟨violation, hbroken, hcheck⟩
  · simp [hvalid, hcheck]
  · simp [hbroken.not_valid, hcheck]

theorem check_eq_some_iff : settings.check = some violation ↔ FirstBroken settings violation.key violation := by
  rcases settings.check_cases with ⟨hvalid, hcheck⟩ | ⟨first, hbroken, hcheck⟩
  · rw [hcheck]
    exact ⟨nofun, fun h => absurd hvalid h.not_valid⟩
  · rw [hcheck, Option.some.injEq]
    exact ⟨fun h => h ▸ hbroken, fun h => hbroken.unique h⟩

/-! ## Texts -/

/-- the text is a document, every name in it is a setting with a value of its type, and these are the settings -/
def GivenBy (text : String) (settings : Settings) : Prop :=
  ∃ document, Toml.Document.ofText text = .ok document ∧ ofDocument document = .ok settings

theorem ofText_of_givenBy (h : GivenBy text settings) :
    ofText text = (settings.check.map fun violation => .error (.invalid violation)).getD (.ok settings) := by
  obtain ⟨document, hdocument, hsettings⟩ := h
  simp only [ofText, hdocument, hsettings]
  cases settings.check <;> rfl

/-- a text that is accepted, or refused for a limit, gives settings -/
theorem exists_givenBy {result : Except TextError Settings} (h : ofText text = result)
    (hresult : (∃ settings, result = .ok settings) ∨ ∃ violation, result = .error (.invalid violation)) :
    ∃ settings, GivenBy text settings := by
  unfold ofText at h
  split at h
  · subst h
    simp at hresult
  · rename_i document hdocument
    split at h
    · subst h
      simp at hresult
    · rename_i settings hsettings
      exact ⟨settings, document, hdocument, hsettings⟩

/-- a text is accepted exactly if it gives valid settings -/
theorem ofText_eq_ok_iff : ofText text = .ok settings ↔ GivenBy text settings ∧ settings.Valid := by
  rw [← check_eq_none_iff]
  constructor
  · intro h
    obtain ⟨given, hgiven⟩ := exists_givenBy h (Or.inl ⟨settings, rfl⟩)
    rw [ofText_of_givenBy hgiven] at h
    cases hcheck : given.check with
    | none =>
      rw [hcheck] at h
      cases h
      exact ⟨hgiven, hcheck⟩
    | some violation =>
      rw [hcheck] at h
      cases h
  · rintro ⟨hgiven, hcheck⟩
    rw [ofText_of_givenBy hgiven, hcheck]
    rfl

/-- a text is refused for a limit exactly if it is the first one that the settings break which it gives -/
theorem ofText_eq_invalid_iff (h : GivenBy text settings) :
    ofText text = .error (.invalid violation) ↔ FirstBroken settings violation.key violation := by
  rw [ofText_of_givenBy h, ← check_eq_some_iff]
  cases settings.check <;> simp

/-! ## What follows for accepted settings -/

theorem check_of_ofText (h : ofText text = .ok settings) : settings.check = none :=
  check_eq_none_iff.2 (ofText_eq_ok_iff.1 h).2

/-- settings that are accepted have a key that is not blank -/
theorem trim_toggleKey_ne (h : settings.check = none) : Text.trim settings.toggleKey ≠ "" :=
  fun hblank => (check_eq_none_iff.1 h).key (Text.trim_eq_empty_iff.1 hblank)

end Settings

end HostConsole

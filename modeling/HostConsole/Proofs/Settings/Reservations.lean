/-
What the settings of a console make it reserve (`Settings.reservations`). The sides of a graph are bounded, and with
them what it reserves; nothing bounds the log.

Results: what a graph reserves can always be reserved, and the log exactly if it has less than `2 ^ 58` lines
(`find?_reservations`), so settings give a console with a new log exactly if they ask for fewer (`ofSettings_eq`). Valid
settings reserve memory for the lines and sides they ask for (`Valid.bytes_reservations`).
-/
import HostConsole.Console
import HostConsole.Proofs.Settings.Accepted

namespace HostConsole

/-! ## Reservations -/

theorem Reservation.fits_iff {reservation : Reservation} : reservation.fits = true ↔ reservation.bytes ≤ limit :=
  decide_eq_true_iff

theorem RateGraph.clampSide_le (side : ℕ) : clampSide side ≤ maxSide := by
  unfold clampSide maxSide
  omega

theorem RateGraph.clampSide_of_within {side : ℕ} (h : Settings.SideWithin side) : clampSide side = side := by
  obtain ⟨hlow, hhigh⟩ := h
  unfold clampSide maxSide
  omega

/-- what a graph reserves is bounded, whatever sides are asked for -/
theorem RateGraph.fits_of_mem_reservations {width height : ℕ} {reservation : Reservation}
    (h : reservation ∈ (ofSize width height).reservations) : reservation.fits = true := by
  have hwidth := clampSide_le width
  have hpixels : clampSide width * clampSide height ≤ maxSide * maxSide :=
    Nat.mul_le_mul hwidth (clampSide_le height)
  rw [maxSide] at hwidth hpixels
  simp only [reservations, ofSize, Array.size_replicate, List.mem_cons, List.not_mem_nil, or_false] at h
  rw [Reservation.fits_iff, Reservation.limit]
  rcases h with rfl | rfl
  · change clampSide width * 4 ≤ _
    omega
  · change clampSide width * clampSide height * 4 ≤ _
    omega

/-- the memory for the lines of a log can be reserved if they are less than these -/
theorem Journal.fits_reservation_iff {lines : ℕ} : (ofCapacity lines).reservation.fits = true ↔ lines < 2 ^ 58 := by
  rw [Reservation.fits_iff]
  change max lines 1 * 32 ≤ 9223372036854775807 ↔ _
  omega

namespace Settings

variable {settings : Settings}

/-- only the log can be too long to be reserved -/
theorem find?_reservations : (settings.reservations.find? fun reservation => !reservation.fits) =
    if settings.maxLogLines < 2 ^ 58 then none else some ⟨settings.maxLogLines, 32⟩ := by
  by_cases hlines : settings.maxLogLines < 2 ^ 58
  · rw [if_pos hlines, List.find?_eq_none, reservations]
    refine List.forall_mem_cons.2 ⟨?_, fun reservation hmem => ?_⟩
    · simp [Journal.fits_reservation_iff.2 hlines]
    · simp [RateGraph.fits_of_mem_reservations hmem]
  · have hlog : (Journal.ofCapacity settings.maxLogLines).reservation.fits = false :=
      Bool.eq_false_iff.2 fun hfits => hlines (Journal.fits_reservation_iff.1 hfits)
    have hcapacity : max settings.maxLogLines 1 = settings.maxLogLines := by omega
    rw [if_neg hlines, reservations, List.find?_cons_of_pos (by simp [hlog]), Journal.reservation, Journal.ofCapacity,
      hcapacity]

/-- valid settings reserve memory for the lines and sides they ask for -/
theorem Valid.bytes_reservations (h : settings.Valid) : settings.reservations.map Reservation.bytes =
    [settings.maxLogLines * 32, settings.graphWidth * 4, settings.graphWidth * settings.graphHeight * 4] := by
  have hlines : (Journal.ofCapacity settings.maxLogLines).capacity = settings.maxLogLines := Nat.max_eq_left h.lines
  have hwidth := RateGraph.clampSide_of_within h.sides.1
  have hheight := RateGraph.clampSide_of_within h.sides.2
  simp only [reservations, Journal.reservation, RateGraph.reservations, RateGraph.ofSize, Array.size_replicate,
    hlines, hwidth, hheight, List.map_cons, List.map_nil, Reservation.bytes]

end Settings

/-- a console with a new log is made exactly if the log is not too long -/
theorem Console.ofSettings_eq {H : Host} (settings : Settings) (setup : Setup H) (captured : LevelFilter)
    (terminal : Bool) : ofSettings settings setup captured terminal =
      if settings.maxLogLines < 2 ^ 58 then
        .ok (withJournal settings setup (Journal.ofCapacity settings.maxLogLines) captured terminal)
      else .error ⟨settings.maxLogLines, 32⟩ := by
  rw [ofSettings, Settings.find?_reservations]
  split_ifs <;> rfl

end HostConsole

/-
Numbers are read back from their texts. A decimal is read from its positional text with the same value, if not always
with the same coefficient, and to convert it to binary only the value counts (`toBinary_shift`). The shortest decimal
of a finite number converts to that number (`toBinary_shortest`): either it was tried and found to, or it is the exact
value.

Result: `readBinary?_text`. Every binary number, infinities, both zeros and `nan` included, is read back from its text.
-/
import HostConsole.Decimal.Read
import HostConsole.Decimal.Shortest
import HostConsole.Proofs.Binary.Rounding
import HostConsole.Proofs.Decimal.Digits
import HostConsole.Proofs.Text.AsciiCase
import HostConsole.Proofs.Text.Spacing

namespace HostConsole

/-! ## Ranks -/

namespace Binary

variable {F : Format}

theorem number_eq_ofRank (negative : Bool) (rank : ℕ) (h : rank ≤ F.infinity) :
    Binary.number negative rank h = ofRank negative rank := by
  simp only [ofRank, Nat.min_eq_right h]

/-- numbers of one rank differ in the sign only -/
theorem ofRank_sign {a b : ℕ} {sign : Bool} (h : (ofRank sign a : Binary F) = ofRank sign b) (negative : Bool) :
    (ofRank negative a : Binary F) = ofRank negative b := by
  simp only [ofRank, number.injEq, true_and] at h ⊢
  exact h

end Binary

namespace Decimal

variable {F : Format}

/-! ## Conversion to binary -/

/-- the conversion as one ratio, whatever the sign of the exponent -/
theorem toBinary_eq (F : Format) (negative : Bool) (d : Decimal) :
    d.toBinary F negative =
      if d.coefficient = 0 then Binary.zero negative
      else if (2 ^ F.exponentBits : ℕ) < (d.length : ℤ) + d.exponent then Binary.infinite negative
      else if (d.length : ℤ) + d.exponent < -((F.unitBits + 1 : ℕ) : ℤ) then Binary.zero negative
      else Binary.ofRatio negative (d.coefficient * 10 ^ d.exponent.toNat * F.one) (10 ^ (-d.exponent).toNat) := by
  unfold toBinary
  simp only [Nat.pow_eq]
  by_cases hexponent : 0 ≤ d.exponent
  · have hplaces : (-d.exponent).toNat = 0 := by omega
    simp only [hexponent, if_true, hplaces, Nat.pow_zero]
  · have hzeros : d.exponent.toNat = 0 := by omega
    simp only [hexponent, if_false, hzeros, Nat.pow_zero, Nat.mul_one]

/-- the sign goes through the conversion unchanged -/
theorem toBinary_sign {d : Decimal} {rank : ℕ} (h : d.toBinary F false = Binary.ofRank false rank) (negative : Bool) :
    d.toBinary F negative = Binary.ofRank negative rank := by
  rw [toBinary_eq] at h ⊢
  split_ifs at h ⊢
  all_goals exact Binary.ofRank_sign h negative

/-- powers of ten move from the coefficient to the exponent -/
theorem toBinary_shift (F : Format) (negative : Bool) (c : ℕ) (e : ℤ) (k : ℕ) :
    (Decimal.mk (c * 10 ^ k) e).toBinary F negative = (Decimal.mk c (e + k)).toBinary F negative := by
  have hpow : (10 : ℕ) ^ k ≠ 0 := (Nat.pow_pos (by decide)).ne'
  rw [toBinary_eq, toBinary_eq]
  by_cases hc : c = 0
  · simp only [hc, Nat.zero_mul, if_true]
  · have hleading : ((Decimal.mk (c * 10 ^ k) e).length : ℤ) + e = (Decimal.mk c (e + k)).length + (e + k) := by
      rw [length_mul_pow hc e (e + k) k]
      push_cast
      ring
    have hplaces : k + e.toNat + (-(e + k)).toNat = (e + k).toNat + (-e).toNat := by omega
    have hratio : c * 10 ^ k * 10 ^ e.toNat * F.one * 10 ^ (-(e + k)).toNat =
        c * 10 ^ (e + k).toNat * F.one * 10 ^ (-e).toNat :=
      calc c * 10 ^ k * 10 ^ e.toNat * F.one * 10 ^ (-(e + k)).toNat
          = c * F.one * 10 ^ (k + e.toNat + (-(e + k)).toNat) := by rw [Nat.pow_add, Nat.pow_add]; ring
        _ = c * 10 ^ (e + k).toNat * F.one * 10 ^ (-e).toNat := by rw [hplaces, Nat.pow_add]; ring
    have hround : (Binary.ofRatio negative (c * 10 ^ k * 10 ^ e.toNat * F.one) (10 ^ (-e).toNat) : Binary F) =
        Binary.ofRatio negative (c * 10 ^ (e + k).toNat * F.one) (10 ^ (-(e + k)).toNat) := by
      unfold Binary.ofRatio
      rw [F.roundRatio_congr (Nat.pow_pos (by decide)) (Nat.pow_pos (by decide)) hratio]
    simp only [Nat.mul_eq_zero, hc, hpow, or_self, if_false, hleading, hround]

/-! ## The shortest decimal -/

/-- one holds the factors of two of a power of ten -/
theorem one_mul_pow_five (F : Format) : F.one * 5 ^ F.unitBits = 10 ^ F.unitBits :=
  (Nat.mul_pow 2 5 _).symm

/-- the exact value of a finite number has no more digits before the point than the format has binades -/
theorem length_exactDecimal_le {rank : ℕ} (h : rank < F.infinity) :
    (F.exactDecimal (F.units rank)).length ≤ 2 ^ F.exponentBits + F.unitBits := by
  rw [length_le_iff _ (Nat.add_pos_left (Nat.pow_pos (by decide)) _)]
  calc F.units rank * 5 ^ F.unitBits
      < 2 ^ 2 ^ F.exponentBits * F.one * 5 ^ F.unitBits :=
        (Nat.mul_lt_mul_right (Nat.pow_pos (by decide))).2 (Format.units_lt h)
    _ = 2 ^ 2 ^ F.exponentBits * 10 ^ F.unitBits := by rw [Nat.mul_assoc, one_mul_pow_five]
    _ ≤ 10 ^ 2 ^ F.exponentBits * 10 ^ F.unitBits := Nat.mul_le_mul_right _ (Nat.pow_le_pow_left (by decide) _)
    _ = 10 ^ (2 ^ F.exponentBits + F.unitBits) := (Nat.pow_add ..).symm

/-- the exact value of a finite number converts to that number -/
theorem toBinary_exactDecimal {rank : ℕ} (hpos : rank ≠ 0) (h : rank < F.infinity) :
    (F.exactDecimal (F.units rank)).toBinary F false = Binary.ofRank false rank := by
  have hlength := length_exactDecimal_le h
  set d := F.exactDecimal (F.units rank) with hd
  have hcoefficient : d.coefficient = F.units rank * 5 ^ F.unitBits := rfl
  have hexponent : d.exponent = -(F.unitBits : ℤ) := rfl
  have hne : d.coefficient ≠ 0 :=
    hcoefficient ▸ (Nat.mul_pos (Format.units_pos hpos) (Nat.pow_pos (by decide))).ne'
  have hbelow : ¬ ((2 ^ F.exponentBits : ℕ) : ℤ) < d.length + d.exponent := by
    rw [hexponent]
    omega
  have habove : ¬ (d.length : ℤ) + d.exponent < -((F.unitBits + 1 : ℕ) : ℤ) := by
    rw [hexponent]
    omega
  have hratio : d.coefficient * 10 ^ d.exponent.toNat * F.one * 1 = F.units rank * 10 ^ (-d.exponent).toNat := by
    have hzeros : d.exponent.toNat = 0 := by omega
    have hplaces : (-d.exponent).toNat = F.unitBits := by omega
    rw [hzeros, hplaces, ← one_mul_pow_five, hcoefficient]
    ring
  rw [toBinary_eq, if_neg hne, if_neg hbelow, if_neg habove, Binary.ofRatio,
    F.roundRatio_congr (Nat.pow_pos (by decide)) Nat.one_pos hratio, Format.roundRatio_units h]

/-- a decimal that was taken has been tried -/
theorem readsBack_of_withDigits? {rank count : ℕ} {exact d : Decimal} (h : withDigits? F rank exact count = some d) :
    readsBack F rank d = true := by
  simp only [withDigits?] at h
  split at h
  case h_1 hbelow habove =>
    split_ifs at h
    · exact Option.some.inj h ▸ hbelow
    · exact Option.some.inj h ▸ habove
  case h_2 hbelow _ => exact Option.some.inj h ▸ hbelow
  case h_3 _ habove => exact Option.some.inj h ▸ habove
  case h_4 => cases h

/-- zeros at the end do not change the value -/
theorem toBinary_dropZeros (F : Format) (negative : Bool) (fuel : ℕ) (d : Decimal) :
    (dropZeros fuel d).toBinary F negative = d.toBinary F negative := by
  induction fuel generalizing d with
  | zero => rfl
  | succ fuel ih =>
    rw [dropZeros]
    split_ifs with hzero
    · have hc : d.coefficient = d.coefficient / 10 * 10 ^ 1 := by
        simp only [Bool.and_eq_true, decide_eq_true_eq] at hzero
        omega
      rw [ih]
      exact ((toBinary_shift F negative _ d.exponent 1).symm.trans (by rw [← hc]))
    · rfl

/-- **The shortest decimal of a finite number converts to that number** -/
theorem toBinary_shortest {rank : ℕ} (hpos : rank ≠ 0) (h : rank < F.infinity) (negative : Bool) :
    (shortest F rank).toBinary F negative = Binary.ofRank negative rank := by
  refine toBinary_sign ?_ negative
  simp only [shortest, toBinary_dropZeros]
  cases hfound : (List.range' 1 (F.exactDecimal (F.units rank)).length).findSome?
      (withDigits? F rank (F.exactDecimal (F.units rank))) with
  | none => exact toBinary_exactDecimal hpos h
  | some d =>
    obtain ⟨count, -, htried⟩ := List.exists_of_findSome?_eq_some hfound
    exact eq_of_beq (readsBack_of_withDigits? htried)

/-! ## Positional texts -/

/-- digits with a point among them or without one, and the decimal they stand for -/
inductive Plain : List Char → Decimal → Prop
  | whole {digits : List Char} (all_digits : ∀ c ∈ digits, c.isDigit = true) (ne_nil : digits ≠ []) :
      Plain digits ⟨ofDigits digits, 0⟩
  | point {whole fraction : List Char} (whole_digits : ∀ c ∈ whole, c.isDigit = true) (ne_nil : whole ≠ [])
      (fraction_digits : ∀ c ∈ fraction, c.isDigit = true) :
      Plain (whole ++ '.' :: fraction) ⟨ofDigits (whole ++ fraction), -fraction.length⟩

theorem Plain.read? {s : List Char} {d : Decimal} (h : Plain s d) : read? s = some d := by
  cases h with
  | whole hdigits hne =>
    obtain ⟨hrun, hbehind⟩ := Text.span_append hdigits [] fun c hc => by cases hc
    rw [List.append_nil] at hrun hbehind
    simp [Decimal.read?, hrun, hbehind, hne, readExponent?]
  | @point whole fraction hwhole hne hfraction =>
    obtain ⟨hrun, hbehind⟩ := Text.span_append hwhole ('.' :: fraction) fun c hc => by
      cases hc
      decide
    obtain ⟨hrun', hbehind'⟩ := Text.span_append hfraction [] fun c hc => by cases hc
    rw [List.append_nil] at hrun' hbehind'
    simp [Decimal.read?, hrun, hbehind, hrun', hbehind', hne, readExponent?]

theorem Plain.exists_digit {s : List Char} {d : Decimal} (h : Plain s d) :
    ∃ c rest, s = c :: rest ∧ c.isDigit = true := by
  cases h with
  | whole hdigits hne =>
    obtain ⟨c, rest, rfl⟩ := List.exists_cons_of_ne_nil hne
    exact ⟨c, rest, rfl, hdigits c List.mem_cons_self⟩
  | @point whole fraction hwhole hne _ =>
    obtain ⟨c, rest, rfl⟩ := List.exists_cons_of_ne_nil hne
    exact ⟨c, rest ++ '.' :: fraction, rfl, hwhole c List.mem_cons_self⟩

theorem Plain.digit_or_point {s : List Char} {d : Decimal} (h : Plain s d) :
    ∀ c ∈ s, c.isDigit = true ∨ c = '.' := by
  intro c hc
  cases h with
  | whole hdigits _ => exact Or.inl (hdigits c hc)
  | point hwhole _ hfraction =>
    rcases List.mem_append.1 hc with hc | hc
    · exact Or.inl (hwhole c hc)
    · exact (List.mem_cons.1 hc).elim Or.inr fun hc => Or.inl (hfraction c hc)

theorem isDigit_of_mem_zeros {n : ℕ} {c : Char} (h : c ∈ List.replicate n '0') : c.isDigit = true := by
  rw [List.eq_of_mem_replicate h]
  decide

/-- digits with zeros behind them are a whole number -/
theorem plain_whole (c k : ℕ) : Plain ((Nat.repr c).toList ++ List.replicate k '0') ⟨c * 10 ^ k, 0⟩ := by
  have hplain : Plain ((Nat.repr c).toList ++ List.replicate k '0') _ :=
    .whole (fun x hx => (List.mem_append.1 hx).elim isDigit_of_mem_repr isDigit_of_mem_zeros)
      (List.append_ne_nil_of_left_ne_nil (repr_ne_nil c) _)
  rwa [ofDigits_append_zeros, ofDigits_repr] at hplain

/-- digits with a point before the last few of them are a fraction -/
theorem plain_among {c places : ℕ} (h : places < (Nat.repr c).toList.length) :
    Plain ((Nat.repr c).toList.take ((Nat.repr c).toList.length - places) ++
      '.' :: (Nat.repr c).toList.drop ((Nat.repr c).toList.length - places)) ⟨c, -places⟩ := by
  set digits := (Nat.repr c).toList with hdigits
  have hall : ∀ x ∈ digits, x.isDigit = true := fun _ => isDigit_of_mem_repr
  have hne : digits.take (digits.length - places) ≠ [] := by
    refine List.ne_nil_of_length_pos ?_
    rw [List.length_take]
    omega
  have hlength : (digits.drop (digits.length - places)).length = places := by
    rw [List.length_drop]
    omega
  have hplain : Plain (digits.take (digits.length - places) ++ '.' :: digits.drop (digits.length - places)) _ :=
    .point (fun x hx => hall x (List.mem_of_mem_take hx)) hne fun x hx => hall x (List.mem_of_mem_drop hx)
  rwa [List.take_append_drop, hlength, hdigits, ofDigits_repr] at hplain

/-- digits behind a point, with zeros in front to fill the places, are a fraction below one -/
theorem plain_behind {c places : ℕ} (h : (Nat.repr c).toList.length ≤ places) :
    Plain (['0', '.'] ++ List.replicate (places - (Nat.repr c).toList.length) '0' ++ (Nat.repr c).toList)
      ⟨c, -places⟩ := by
  set fraction := List.replicate (places - (Nat.repr c).toList.length) '0' ++ (Nat.repr c).toList with hfraction
  have hlength : fraction.length = places := by
    rw [hfraction, List.length_append, List.length_replicate]
    omega
  have hvalue : ofDigits (['0'] ++ fraction) = c := by
    rw [hfraction, ← List.append_assoc, List.singleton_append, ← List.replicate_succ, ofDigits_zeros_append,
      ofDigits_repr]
  have hplain : Plain (['0'] ++ '.' :: fraction) _ :=
    .point (List.forall_mem_singleton.2 (by decide)) (List.cons_ne_nil _ _) fun x hx =>
      (List.mem_append.1 hx).elim isDigit_of_mem_zeros isDigit_of_mem_repr
  rwa [hvalue, hlength] at hplain

/-- the positional text of a decimal is plain, and stands for a decimal of the same value -/
theorem plain_positional (d : Decimal) :
    ∃ d', Plain d.positional.toList d' ∧
      ∀ (F : Format) (negative : Bool), d'.toBinary F negative = d.toBinary F negative := by
  obtain ⟨c, e⟩ := d
  simp only [positional, String.toList_ofList]
  split_ifs with hwhole hpoint
  · refine ⟨_, plain_whole c e.toNat, fun F negative => ?_⟩
    rw [toBinary_shift, Int.zero_add, Int.toNat_of_nonneg hwhole]
  · have hexponent : -((-e).toNat : ℤ) = e := by omega
    exact ⟨_, plain_among hpoint, fun F negative => by rw [hexponent]⟩
  · have hexponent : -((-e).toNat : ℤ) = e := by omega
    exact ⟨_, plain_behind (not_lt.1 hpoint), fun F negative => by rw [hexponent]⟩

/-! ## Texts of numbers -/

theorem toLower_of_isDigit {c : Char} (h : c.isDigit = true) : c.toLower = c := by
  rcases Text.toLower_cases c with hcapital | hself
  · have hnone : (Text.asciiCapitals.all fun d => !d.isDigit) = true := by decide
    have hc := List.all_eq_true.1 hnone c hcapital
    rw [h] at hc
    cases hc
  · exact hself

/-- a plain text with a sign is no word for a special value -/
theorem readBinary?_of_plain (F : Format) {s : String} {negative : Bool} {body : List Char} {d : Decimal}
    (hs : takeSign s.toList = (negative, body)) (h : Plain body d) : readBinary? F s = some (d.toBinary F negative) := by
  obtain ⟨c, rest, hbody, hc⟩ := h.exists_digit
  have hword : ∀ word : String, word.toList.head?.all (fun c => !c.isDigit) = true →
      String.ofList (body.map Char.toLower) ≠ word := by
    rintro word hword rfl
    simp [hbody, toLower_of_isDigit hc, hc] at hword
  simp only [readBinary?, hs, hword "inf" (by decide), hword "infinity" (by decide), hword "nan" (by decide), h.read?,
    decide_false, Bool.or_self, if_false, Option.map_some, Bool.false_eq_true]

/-- the sign in front of a plain text -/
theorem takeSign_of_plain {s : String} {d : Decimal} (h : Plain s.toList d) (negative : Bool) :
    takeSign ((if negative then "-" else "") ++ s).toList = (negative, s.toList) := by
  obtain ⟨c, rest, hs, hc⟩ := h.exists_digit
  cases negative with
  | true => simp [takeSign]
  | false =>
    have hempty : ((if false = true then "-" else "") ++ s).toList = s.toList := by simp
    rw [hempty]
    refine takeSign_of_isDigit fun x hx => ?_
    rw [hs, List.head?_cons, Option.mem_some_iff] at hx
    exact hx ▸ hc

/-- the text of a finite number is a sign and a plain text of its value -/
theorem exists_plain_text (negative : Bool) {rank : ℕ} (hle : rank ≤ F.infinity) (h : rank ≠ F.infinity) :
    ∃ body d, (Binary.number negative rank hle : Binary F).text = (if negative then "-" else "") ++ body ∧
      Plain body.toList d ∧ d.toBinary F negative = Binary.ofRank negative rank := by
  by_cases hzero : rank = 0
  · subst hzero
    refine ⟨"0", ⟨0, 0⟩, ?_, @Plain.whole ['0'] (List.forall_mem_singleton.2 (by decide)) (by decide), ?_⟩
    · simp only [Binary.text, if_neg h, if_true]
    · rfl
  · obtain ⟨d, hplain, hvalue⟩ := plain_positional (shortest F rank)
    refine ⟨(shortest F rank).positional, d, ?_, hplain, ?_⟩
    · simp only [Binary.text, if_neg h, if_neg hzero]
    · rw [hvalue, toBinary_shortest hzero (lt_of_le_of_ne hle h)]

/-- **Every binary number is read back from its text** -/
theorem readBinary?_text {F : Format} (x : Binary F) : readBinary? F x.text = some x := by
  cases x with
  | nan => simp [Binary.text, readBinary?, takeSign]
  | number negative rank hle =>
    by_cases hinfinite : rank = F.infinity
    · subst hinfinite
      cases negative <;> simp [Binary.text, Binary.number_eq_ofRank, Binary.infinite, readBinary?, takeSign]
    · obtain ⟨body, d, htext, hplain, hvalue⟩ := exists_plain_text negative hle hinfinite
      rw [htext, readBinary?_of_plain F (takeSign_of_plain hplain negative) hplain, hvalue, Binary.number_eq_ofRank]

end Decimal

end HostConsole

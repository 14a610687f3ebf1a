/-
Lines as an input: lines in a row, each ended by a newline (`ofLines`). A byte below 128 stands in the encoding of a
text only as the character of that number, so the newlines of the input are those at the ends of the lines, and a line
ends with the byte of a carriage return exactly if its text does.

Result: `lines_ofLines`. The lines are read back in order, and then those of whatever follows them; all that is lost is
one carriage return at the end of a line (`asRead`).
-/
import Mathlib.Tactic
import HostConsole.Session.Input

namespace HostConsole.Input

/-! ## Bytes of a text -/

/-- the bytes of characters -/
def bytes (s : List Char) : List UInt8 :=
  s.flatMap String.utf8EncodeChar

theorem bytes_append (s t : List Char) : bytes (s ++ t) = bytes s ++ bytes t :=
  List.flatMap_append

theorem toList_toUTF8 (s : String) : s.toUTF8.data.toList = bytes s.toList := by
  have hencode : s.toUTF8 = (bytes s.toList).toByteArray := by
    rw [String.toUTF8_eq_toByteArray, ← String.utf8Encode_toList, List.utf8Encode, bytes]
  rw [hencode, List.data_toByteArray]

/-- a character is one byte with its own number, or all its bytes are 128 or above -/
theorem utf8EncodeChar_cases (c : Char) :
    (c.toNat < 128 ∧ String.utf8EncodeChar c = [UInt8.ofNat c.toNat]) ∨
      ∀ b ∈ String.utf8EncodeChar c, 128 ≤ b.toNat := by
  by_cases hc : c.toNat < 128
  · have hle : c.toNat ≤ 0x7f := by omega
    exact Or.inl ⟨hc, if_pos hle⟩
  · refine Or.inr fun b hb => ?_
    have hv : ¬ c.val.toNat ≤ 0x7f := fun hle => hc (Nat.lt_succ_of_le hle)
    simp only [String.utf8EncodeChar, hv, if_false] at hb
    split_ifs at hb <;> simp only [List.mem_cons, List.not_mem_nil, or_false] at hb <;>
      rcases hb with rfl | rfl | rfl | rfl <;> simp only [UInt8.toNat_ofNat'] <;> omega

/-- a byte below 128 is a character of its own -/
theorem eq_of_mem_utf8EncodeChar {c : Char} {b : UInt8} (hb : b.toNat < 128) (h : b ∈ String.utf8EncodeChar c) :
    c.toNat = b.toNat ∧ String.utf8EncodeChar c = [b] := by
  rcases utf8EncodeChar_cases c with ⟨hc, hone⟩ | hhigh
  · rw [hone, List.mem_singleton] at h
    refine ⟨?_, by rw [hone, h]⟩
    rw [h, UInt8.toNat_ofNat']
    omega
  · exact absurd (hhigh b h) (by omega)

theorem newline_not_mem_bytes {s : List Char} (h : '\n' ∉ s) : newline ∉ bytes s := by
  intro hmem
  obtain ⟨c, hc, hb⟩ := List.mem_flatMap.1 hmem
  have hnumber := (eq_of_mem_utf8EncodeChar (by decide) hb).1
  have hnewline : c = '\n' := Char.toNat_inj.1 hnumber
  exact h (hnewline ▸ hc)

theorem decode_bytes (s : String) : decode (bytes s.toList) = .ok s := by
  have hbytes : (⟨(bytes s.toList).toArray⟩ : ByteArray) = s.toUTF8 := by
    rw [← toList_toUTF8]
  have htext : String.fromUTF8? s.toUTF8 = some s := by
    rw [String.fromUTF8?, String.toUTF8_eq_toByteArray, dif_pos s.isValidUTF8]
    rfl
  rw [decode, hbytes, htext]

/-! ## Lines of an input -/

/-- a line as it is read back: without one carriage return at its end -/
def asRead (line : String) : String :=
  if line.toList.getLast? = some '\r' then String.ofList line.toList.dropLast else line

/-- lines in a row, each ended by a newline, as an input -/
def ofLines (lines : List String) : ByteArray :=
  (String.join (lines.map (· ++ "\n"))).toUTF8

theorem ofLines_cons (line : String) (rest : List String) :
    (ofLines (line :: rest)).data.toList = bytes line.toList ++ newline :: (ofLines rest).data.toList := by
  have hnewline : bytes "\n".toList = [newline] := by decide
  simp only [ofLines, toList_toUTF8, List.map_cons, String.join_cons, String.toList_append, bytes_append, hnewline,
    List.append_assoc, List.singleton_append]

/-- a line up to its newline, and the rest of the input -/
theorem splitFrom_append {run : List UInt8} (h : newline ∉ run) (line rest : List UInt8) :
    splitFrom line (run ++ newline :: rest) = (dropReturn (run.reverse ++ line)).reverse :: splitFrom [] rest := by
  induction run generalizing line with
  | nil => rw [List.nil_append, splitFrom, if_pos rfl, List.reverse_nil, List.nil_append]
  | cons b run ih =>
    obtain ⟨hb, hrun⟩ := not_or.1 (mt List.mem_cons.2 h)
    rw [List.cons_append, splitFrom, if_neg (Ne.symm hb), ih hrun, List.reverse_cons, List.append_assoc,
      List.singleton_append]

/-- what ends with another byte keeps all its bytes; they come last first -/
theorem dropReturn_append {kept : List UInt8} (hne : kept ≠ []) (h : ∀ b ∈ kept, b ≠ carriageReturn)
    (earlier : List UInt8) : dropReturn (kept ++ earlier) = kept ++ earlier := by
  cases kept with
  | nil => exact absurd rfl hne
  | cons b kept => rw [List.cons_append, dropReturn, if_neg (h b List.mem_cons_self)]

/-- the byte of a carriage return is dropped where the character is -/
theorem dropReturn_bytes (line : String) :
    (dropReturn (bytes line.toList).reverse).reverse = bytes (asRead line).toList := by
  rcases List.eq_nil_or_concat line.toList with hnil | ⟨init, c, hline⟩
  · have hlast : line.toList.getLast? ≠ some '\r' := by simp [hnil]
    rw [asRead, if_neg hlast, hnil]
    rfl
  rw [List.concat_eq_append] at hline
  have hlast : line.toList.getLast? = some c := by simp [hline]
  by_cases hc : c = '\r'
  · have hreturn : bytes ['\r'] = [carriageReturn] := by decide
    rw [asRead, if_pos (by rw [hlast, hc]), String.toList_ofList, hline, List.dropLast_concat, bytes_append, hc,
      hreturn, List.reverse_append, List.reverse_singleton, List.singleton_append, dropReturn, if_pos rfl,
      List.reverse_reverse]
  · have hne : (bytes [c]).reverse ≠ [] := by simp [bytes, String.utf8EncodeChar_ne_nil]
    have hkept : ∀ b ∈ (bytes [c]).reverse, b ≠ carriageReturn := by
      rintro b hb rfl
      have hmem : carriageReturn ∈ String.utf8EncodeChar c := by simpa [bytes] using hb
      exact hc (Char.toNat_inj.1 (eq_of_mem_utf8EncodeChar (by decide) hmem).1)
    rw [asRead, if_neg (by rw [hlast]; exact fun h => hc (Option.some.inj h)), hline, bytes_append,
      List.reverse_append, dropReturn_append hne hkept, ← List.reverse_append, List.reverse_reverse]

/-- **The lines of an input are read back in order**, up to one carriage return at the end of each, and then the lines
of what follows them. -/
theorem lines_ofLines {texts : List String} (h : ∀ line ∈ texts, '\n' ∉ line.toList) (tail : ByteArray) :
    lines (ofLines texts ++ tail) = texts.map (fun line => .ok (asRead line)) ++ lines tail := by
  have hsplit : splitFrom [] (ofLines texts ++ tail).data.toList =
      texts.map (fun line => bytes (asRead line).toList) ++ splitFrom [] tail.data.toList := by
    induction texts with
    | nil => simp [ofLines, String.join]
    | cons line rest ih =>
      have hrest := ih fun other hother => h other (List.mem_cons_of_mem line hother)
      have hline := newline_not_mem_bytes (h line List.mem_cons_self)
      rw [ByteArray.data_append, Array.toList_append] at hrest ⊢
      rw [ofLines_cons, List.append_assoc, List.cons_append, splitFrom_append hline, List.append_nil,
        dropReturn_bytes, hrest]
      rfl
  simp only [lines, hsplit, List.map_append, List.map_map, Function.comp_def, decode_bytes]

end HostConsole.Input

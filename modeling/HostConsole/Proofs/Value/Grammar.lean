/-
The grammar of parameter declarations: blanks, an identifier, blanks, and then nothing or a colon with a tag among
blanks (`Written`). A tag names a type when it is one of its aliases once trimmed and in lowercase, and without a tag
the type is text (`TypedBy`).

Result: `ofDeclaration_ok_iff`. A declaration is read as a parameter exactly if it is written so, and there is no
other way to read it.
-/
import HostConsole.Proofs.Text.Spacing
import HostConsole.Proofs.Value.Parameter

namespace HostConsole

/-! ## Aliases of types -/

/-- the words that name a type -/
def ValueType.aliases : ValueType → List String
  | integer => ["int", "integer", "i32", "i64", "long"]
  | float => ["float", "double", "f32", "f64", "number"]
  | boolean => ["bool", "boolean"]
  | text => ["string", "str", "text"]

/-- a tag names a type exactly if it is one of its aliases, trimmed and in lowercase -/
theorem ValueType.ofTag?_eq_some_iff {tag : String} {type : ValueType} :
    ofTag? tag = some type ↔ Text.foldName tag ∈ type.aliases := by
  have hsound : ∀ p ∈ tags, p.1 ∈ p.2.aliases := by decide
  have hcomplete : ∀ word ∈ type.aliases, tags.lookup word = some type := by cases type <;> decide
  refine ⟨fun h => ?_, hcomplete _⟩
  obtain ⟨before, after, hsplit, -⟩ := List.lookup_eq_some_iff.1 h
  exact hsound (Text.foldName tag, type) (by rw [hsplit]; simp)

namespace Parameter

/-! ## Declarations as written -/

/-- a run without blanks and colons -/
def IsTag (tag : String) : Prop :=
  tag.toList ≠ [] ∧ ∀ c ∈ tag.toList, isTagChar c = true

/-- the declaration is this name among blanks, with this tag among blanks behind a colon if there is one -/
inductive Written (declaration : String) : String → Option String → Prop
  | plain {name : String} {lead trail : List Char} (identifier : IsIdentifier name) (lead_blank : Text.AllBlank lead)
      (trail_blank : Text.AllBlank trail) (text : declaration.toList = lead ++ (name.toList ++ trail)) :
      Written declaration name none
  | tagged {name tag : String} {lead gap before after : List Char} (identifier : IsIdentifier name)
      (lead_blank : Text.AllBlank lead) (gap_blank : Text.AllBlank gap) (is_tag : IsTag tag)
      (before_blank : Text.AllBlank before) (after_blank : Text.AllBlank after)
      (text : declaration.toList = lead ++ (name.toList ++ (gap ++ ':' :: (before ++ (tag.toList ++ after))))) :
      Written declaration name (some tag)

/-- the type that a tag gives, or the lack of one -/
inductive TypedBy : Option String → ValueType → Prop
  | untagged : TypedBy none .text
  | tagged {tag : String} {type : ValueType} (named : Text.foldName tag ∈ type.aliases) : TypedBy (some tag) type

/-- the declaration declares this parameter -/
def Declares (declaration : String) (parameter : Parameter) : Prop :=
  ∃ tag, Written declaration parameter.name tag ∧ TypedBy tag parameter.type

/-! ## Characters of the parts -/

theorem isNameChar_of_identifier {name : String} (h : IsIdentifier name) : ∀ c ∈ name.toList, isNameChar c = true := by
  obtain ⟨first, rest, hname, hfirst, hrest⟩ := h
  intro c hc
  rw [hname] at hc
  rcases List.mem_cons.1 hc with rfl | hc
  · exact isNameChar_iff.2 (Or.inl hfirst)
  · exact isNameChar_iff.2 (hrest c hc)

/-- no character of a name is a blank -/
theorem isBlank_of_isNameChar {c : Char} (h : isNameChar c = true) : Text.isBlank c = false := by
  have hle : ∀ a b : Char, a ≤ b ↔ a.toNat ≤ b.toNat := fun a b => UInt32.le_iff_toNat_le
  have hcovers : ∃ run ∈ [(65, 90), (97, 122), (95, 95), (48, 57)], (Text.closedRun run).covers c.toNat = true := by
    simp only [isNameChar_iff, IsLetter, hle] at h
    simp only [Text.covers_closedRun]
    rcases h with (h | h | rfl) | h
    · exact ⟨(65, 90), by simp, h⟩
    · exact ⟨(97, 122), by simp, h⟩
    · exact ⟨(95, 95), by simp, by decide⟩
    · exact ⟨(48, 57), by simp, h⟩
  obtain ⟨run, hrun, hc⟩ := hcovers
  have hapart : ∀ run ∈ [(65, 90), (97, 122), (95, 95), (48, 57)],
      (Text.blankRanges.all fun range => (Text.closedRun run).apart (Text.closedRun range)) = true := by decide
  exact Text.within_eq_false_of_apart (hapart run hrun) hc

/-- no blank belongs to a name -/
theorem isNameChar_of_isBlank {c : Char} (h : Text.isBlank c = true) : isNameChar c = false := by
  refine Bool.eq_false_iff.2 fun hname => ?_
  rw [isBlank_of_isNameChar hname] at h
  cases h

/-! ## Splitting a declaration -/

theorem dropWhile_isBlank_pad {gap rest : List Char} (hg : Text.AllBlank gap)
    (hr : ∀ c ∈ rest.head?, Text.isBlank c = false) : (gap ++ rest).dropWhile Text.isBlank = rest :=
  (Text.span_append hg rest hr).2

/-- the front of blanks and what follows them is a blank, or the front of what follows -/
theorem head_append_cases {gap rest : List Char} {c : Char} (hg : Text.AllBlank gap) (h : c ∈ (gap ++ rest).head?) :
    Text.isBlank c = true ∨ c ∈ rest.head? := by
  cases gap with
  | nil => exact Or.inr h
  | cons d gap =>
    simp only [List.cons_append, List.head?_cons, Option.mem_def, Option.some.injEq] at h
    exact Or.inl (h ▸ hg d List.mem_cons_self)

/-- a run that is not empty is in front of what follows it -/
theorem head_append_mem {run rest : List Char} {c : Char} (hne : run ≠ []) (h : c ∈ (run ++ rest).head?) : c ∈ run := by
  rw [List.head?_append_of_ne_nil run hne] at h
  exact List.mem_of_head? h

/-- a declaration that starts with a name among blanks: splitting finds the name, and what stands behind the blanks -/
theorem split?_of_name {declaration name : String} {lead gap : List Char} (rest : List Char) (hi : IsIdentifier name)
    (hl : Text.AllBlank lead) (hg : Text.AllBlank gap)
    (hr : ∀ c ∈ rest.head?, Text.isBlank c = false ∧ isNameChar c = false)
    (ht : declaration.toList = lead ++ (name.toList ++ (gap ++ rest))) :
    (declaration.toList.dropWhile Text.isBlank).takeWhile isNameChar = name.toList ∧
      ((declaration.toList.dropWhile Text.isBlank).dropWhile isNameChar).dropWhile Text.isBlank = rest ∧
        name.toList.head?.any isNameStart = true := by
  have hin := isNameChar_of_identifier hi
  obtain ⟨first, others, hname, hfirst, -⟩ := hi
  have hbody : (lead ++ (name.toList ++ (gap ++ rest))).dropWhile Text.isBlank = name.toList ++ (gap ++ rest) :=
    dropWhile_isBlank_pad hl fun c hc =>
      isBlank_of_isNameChar (hin c (head_append_mem (by simp [hname]) hc))
  obtain ⟨hrun, hbehind⟩ := Text.span_append hin (gap ++ rest) fun c hc => by
    rcases head_append_cases hg hc with hb | hb
    · exact isNameChar_of_isBlank hb
    · exact (hr c hb).2
  rw [ht, hbody, hrun, hbehind, dropWhile_isBlank_pad hg fun c hc => (hr c hc).1]
  exact ⟨rfl, rfl, by simp [hname, isNameStart_iff.2 hfirst]⟩

theorem isBlank_of_isTagChar {c : Char} (h : isTagChar c = true) : Text.isBlank c = false := by
  simp only [isTagChar, Bool.and_eq_true, Bool.not_eq_true'] at h
  exact h.1

/-- what is written so is split so -/
theorem split?_of_written {declaration name : String} {tag : Option String} (h : Written declaration name tag) :
    split? declaration = some (name, tag) := by
  cases h with
  | plain hi hl ht htext =>
    obtain ⟨hname, hrest, hstart⟩ := split?_of_name [] hi hl ht (by simp) (by rw [htext, List.append_nil])
    simp only [split?, hname, hrest, hstart, if_true, String.ofList_toList]
  | @tagged tag lead gap before after hi hl hg htag hb ha htext =>
    have hcolon : ∀ c ∈ (':' :: (before ++ (tag.toList ++ after))).head?,
        Text.isBlank c = false ∧ isNameChar c = false := by
      intro c hc
      rw [List.head?_cons, Option.mem_def, Option.some.injEq] at hc
      rw [← hc]
      decide
    obtain ⟨hname, hrest, hstart⟩ := split?_of_name _ hi hl hg hcolon htext
    have hbefore : (before ++ (tag.toList ++ after)).dropWhile Text.isBlank = tag.toList ++ after :=
      dropWhile_isBlank_pad hb fun c hc => isBlank_of_isTagChar (htag.2 c (head_append_mem htag.1 hc))
    obtain ⟨hrun, hbehind⟩ := Text.span_append htag.2 after fun c hc => by
      simp [isTagChar, ha c (List.mem_of_head? hc)]
    have hafter : after.all Text.isBlank = true := List.all_eq_true.2 ha
    have hne : tag.toList.isEmpty = false := List.isEmpty_eq_false_iff.2 htag.1
    simp only [split?, hname, hrest, hstart, hbefore, hrun, hbehind, hafter, hne, Bool.not_false, Bool.and_true,
      if_true, String.ofList_toList]

/-- a text is the blanks in front of it and what stands behind them -/
theorem exists_blanks (s : List Char) : ∃ gap, Text.AllBlank gap ∧ s = gap ++ s.dropWhile Text.isBlank :=
  ⟨s.takeWhile Text.isBlank, fun _ hc => List.mem_takeWhile_imp hc, List.takeWhile_append_dropWhile.symm⟩

/-- what is split so is written so -/
theorem written_of_split? {declaration name : String} {tag : Option String}
    (h : split? declaration = some (name, tag)) : Written declaration name tag := by
  have hi := isIdentifier_of_split h
  obtain ⟨lead, hl, hlead⟩ := exists_blanks declaration.toList
  obtain ⟨gap, hg, hgap⟩ := exists_blanks ((declaration.toList.dropWhile Text.isBlank).dropWhile isNameChar)
  have htext : declaration.toList = lead ++ ((declaration.toList.dropWhile Text.isBlank).takeWhile isNameChar ++
      (gap ++ ((declaration.toList.dropWhile Text.isBlank).dropWhile isNameChar).dropWhile Text.isBlank)) := by
    rw [← hgap, List.takeWhile_append_dropWhile, ← hlead]
  simp only [split?] at h
  split at h
  · split at h
    · rename_i hnil
      simp only [Option.some.injEq, Prod.mk.injEq] at h
      obtain ⟨rfl, rfl⟩ := h
      rw [hnil, List.append_nil] at htext
      exact .plain hi hl hg (by rw [String.toList_ofList, ← htext])
    · rename_i behind hcolon
      obtain ⟨before, hb, hbefore⟩ := exists_blanks behind
      split at h
      · rename_i hok
        simp only [Option.some.injEq, Prod.mk.injEq] at h
        obtain ⟨rfl, rfl⟩ := h
        simp only [Bool.and_eq_true, Bool.not_eq_true', List.isEmpty_eq_false_iff] at hok
        have hbehind : behind = before ++ ((behind.dropWhile Text.isBlank).takeWhile isTagChar ++
            (behind.dropWhile Text.isBlank).dropWhile isTagChar) := by
          rw [List.takeWhile_append_dropWhile, ← hbefore]
        rw [hcolon] at htext
        refine .tagged hi hl hg ⟨?_, ?_⟩ hb (List.all_eq_true.1 hok.2) ?_
        · rw [String.toList_ofList]
          exact hok.1
        · rw [String.toList_ofList]
          exact fun c hc => List.mem_takeWhile_imp hc
        · rw [String.toList_ofList, String.toList_ofList, ← hbehind, ← htext]
      · cases h
    · cases h
  · cases h

/-- **A declaration is read as a parameter exactly if it declares it** -/
theorem ofDeclaration_ok_iff {declaration : String} {parameter : Parameter} :
    ofDeclaration declaration = .ok parameter ↔ Declares declaration parameter := by
  constructor
  · intro h
    unfold ofDeclaration at h
    split at h
    · cases h
    · rename_i name hs
      cases h
      exact ⟨none, written_of_split? hs, .untagged⟩
    · rename_i name tag hs
      refine ⟨some tag, ?_⟩
      unfold typeOfTag at h
      split at h
      · rename_i type ht
        cases h
        exact ⟨written_of_split? hs, .tagged (ValueType.ofTag?_eq_some_iff.1 ht)⟩
      · cases h
  · rintro ⟨tag, hw, ht⟩
    obtain ⟨name, type⟩ := parameter
    have hs := split?_of_written hw
    cases ht with
    | untagged => simp only [ofDeclaration, hs]
    | tagged hn =>
      have hof := ValueType.ofTag?_eq_some_iff.2 hn
      simp only [ofDeclaration, hs, typeOfTag, hof, Except.map]

end Parameter

end HostConsole

/-
What becomes of every declaration of a parameter. A declaration is written in at most one way (`Written.unique`): with a
tag or without, or not at all. Without a tag it declares a text; with one it declares a parameter of the type whose word
the tag is in some ASCII case, or is refused for that tag as it stands; and if it is not written at all it is refused as
a whole.

Result: `declaration_classified`, with the way back: a name, a colon and the name of a type, among any blanks, declare
the parameter of that name and type.
-/
import HostConsole.Proofs.Text.Keywords
import HostConsole.Proofs.Value.Grammar

namespace HostConsole

namespace ValueType

/-- the tag is one of the words for the type, in any ASCII case -/
def NamedBy (type : ValueType) (tag : String) : Prop :=
  ∃ word ∈ type.aliases, Text.sameIgnoringAsciiCase tag word = true

variable {type : ValueType} {tag word : String}

theorem isKeyword_of_mem_aliases (h : word ∈ type.aliases) : Text.IsKeyword word := by
  have hall : ∀ type ∈ [integer, float, boolean, text], ∀ word ∈ type.aliases, Text.IsKeyword word := by
    decide +kernel
  exact hall type (by cases type <;> simp) word h

/-- a tag names a type exactly if it is one of the words for it, once trimmed -/
theorem ofTag?_eq_some_iff_trim : ofTag? tag = some type ↔ type.NamedBy (Text.trim tag) := by
  rw [ofTag?_eq_some_iff, Text.foldName]
  constructor
  · intro h
    exact ⟨Text.lower (Text.trim tag), h, (Text.lower_eq_iff (isKeyword_of_mem_aliases h)).1 rfl⟩
  · rintro ⟨word, hword, hsame⟩
    rwa [(Text.lower_eq_iff (isKeyword_of_mem_aliases hword)).2 hsame]

/-- a tag without blanks names a type exactly if it is one of the words for it -/
theorem ofTag?_eq_some_iff_namedBy (htag : ∀ c ∈ tag.toList, Text.isBlank c = false) :
    ofTag? tag = some type ↔ type.NamedBy tag := by
  rw [ofTag?_eq_some_iff_trim, Text.trim_eq_self htag]

theorem ofTag?_eq_none_iff_namedBy (htag : ∀ c ∈ tag.toList, Text.isBlank c = false) :
    ofTag? tag = none ↔ ∀ type : ValueType, ¬ type.NamedBy tag := by
  rw [Option.eq_none_iff_forall_ne_some]
  exact forall_congr' fun type => not_congr (ofTag?_eq_some_iff_namedBy htag)

/-- the name of a type is one of its own words -/
theorem namedBy_name (type : ValueType) : type.NamedBy type.name :=
  ⟨type.name, by cases type <;> decide, Text.sameIgnoringAsciiCase_iff.2 rfl⟩

end ValueType

namespace Parameter

variable {declaration name tag : String} {type : ValueType}

theorem IsTag.notBlank (h : IsTag tag) : ∀ c ∈ tag.toList, Text.isBlank c = false :=
  fun c hc => isBlank_of_isTagChar (h.2 c hc)

theorem Written.isTag (h : Written declaration name (some tag)) : IsTag tag := by
  cases h with
  | tagged _ _ _ htag _ _ _ => exact htag

/-- no declaration is written in two ways -/
theorem Written.unique {name' : String} {tag tag' : Option String} (h : Written declaration name tag)
    (h' : Written declaration name' tag') : name = name' ∧ tag = tag' := by
  have hsplit := (split?_of_written h).symm.trans (split?_of_written h')
  exact Prod.mk.inj (Option.some.inj hsplit)

/-! ## The three ways to end -/

theorem ofDeclaration_of_untagged (h : Written declaration name none) :
    ofDeclaration declaration = .ok ⟨name, .text⟩ := by
  rw [ofDeclaration, split?_of_written h]

theorem ofDeclaration_of_named (h : Written declaration name (some tag)) (htype : type.NamedBy tag) :
    ofDeclaration declaration = .ok ⟨name, type⟩ := by
  have hof := (ValueType.ofTag?_eq_some_iff_namedBy h.isTag.notBlank).2 htype
  rw [ofDeclaration, split?_of_written h]
  simp only [typeOfTag, hof, Except.map]

theorem ofDeclaration_of_unnamed (h : Written declaration name (some tag))
    (htype : ∀ type : ValueType, ¬ type.NamedBy tag) :
    ofDeclaration declaration = .error (.unsupportedType tag) := by
  have hof := (ValueType.ofTag?_eq_none_iff_namedBy h.isTag.notBlank).2 htype
  rw [ofDeclaration, split?_of_written h]
  simp only [typeOfTag, hof, Except.map, Text.trim_eq_self h.isTag.notBlank]

theorem ofDeclaration_of_unwritten (h : ∀ name tag, ¬ Written declaration name tag) :
    ofDeclaration declaration = .error (.malformed declaration) := by
  have hsplit : split? declaration = none := by
    cases hs : split? declaration with
    | none => rfl
    | some found => exact absurd (written_of_split? hs) (h found.1 found.2)
  rw [ofDeclaration, hsplit]

/-- what can become of a declaration -/
inductive Ending (declaration : String) : Except DeclarationError Parameter → Prop
  | untagged {name : String} (written : Written declaration name none) : Ending declaration (.ok ⟨name, .text⟩)
  | named {name tag : String} {type : ValueType} (written : Written declaration name (some tag))
      (named : type.NamedBy tag) : Ending declaration (.ok ⟨name, type⟩)
  | unnamed {name tag : String} (written : Written declaration name (some tag))
      (unnamed : ∀ type : ValueType, ¬ type.NamedBy tag) : Ending declaration (.error (.unsupportedType tag))
  | unwritten (unwritten : ∀ name tag, ¬ Written declaration name tag) :
      Ending declaration (.error (.malformed declaration))

theorem ofDeclaration_of_ending {result : Except DeclarationError Parameter} (h : Ending declaration result) :
    ofDeclaration declaration = result := by
  cases h with
  | untagged h => exact ofDeclaration_of_untagged h
  | named h htype => exact ofDeclaration_of_named h htype
  | unnamed h htype => exact ofDeclaration_of_unnamed h htype
  | unwritten h => exact ofDeclaration_of_unwritten h

/-- every declaration ends in one of these ways -/
theorem exists_ending (declaration : String) : ∃ result, Ending declaration result := by
  by_cases hwritten : ∃ name tag, Written declaration name tag
  · obtain ⟨name, _ | tag, hwritten⟩ := hwritten
    · exact ⟨_, .untagged hwritten⟩
    · by_cases hnamed : ∃ type : ValueType, type.NamedBy tag
      · obtain ⟨type, hnamed⟩ := hnamed
        exact ⟨_, .named hwritten hnamed⟩
      · exact ⟨_, .unnamed hwritten (not_exists.1 hnamed)⟩
  · exact ⟨_, .unwritten fun name tag h => hwritten ⟨name, tag, h⟩⟩

theorem ending_iff {result : Except DeclarationError Parameter} :
    ofDeclaration declaration = result ↔ Ending declaration result := by
  refine ⟨fun h => ?_, ofDeclaration_of_ending⟩
  obtain ⟨found, hfound⟩ := exists_ending declaration
  rwa [← h, ofDeclaration_of_ending hfound]

/-- **Every declaration is classified by its grammar.** It declares a text without a tag, and with a tag a parameter of
the type that the tag is a word for; it is refused for its tag, as it stands, if that is no such word, and in all other
cases as a whole. Name and tag are unique. A name and the name of a type, among blanks, declare that parameter. -/
theorem declaration_classified :
    (∀ (declaration : String) (parameter : Parameter), ofDeclaration declaration = .ok parameter ↔
      (Written declaration parameter.name none ∧ parameter.type = .text) ∨
        ∃ tag, Written declaration parameter.name (some tag) ∧ parameter.type.NamedBy tag) ∧
    (∀ declaration tag : String, ofDeclaration declaration = .error (.unsupportedType tag) ↔
      ∃ name, Written declaration name (some tag) ∧ ∀ type : ValueType, ¬ type.NamedBy tag) ∧
    (∀ declaration text : String, ofDeclaration declaration = .error (.malformed text) ↔
      text = declaration ∧ ∀ name tag, ¬ Written declaration name tag) ∧
    (∀ (declaration name name' : String) (tag tag' : Option String), Written declaration name tag →
      Written declaration name' tag' → name = name' ∧ tag = tag') ∧
    ∀ (name : String) (type : ValueType) (lead gap before after : List Char), IsIdentifier name →
      (∀ blanks ∈ [lead, gap, before, after], Text.AllBlank blanks) →
      ofDeclaration (String.ofList (lead ++ (name.toList ++ (gap ++ ':' :: (before ++ (type.name.toList ++ after)))))) =
        .ok ⟨name, type⟩ := by
  refine ⟨fun declaration parameter => ?_, fun declaration tag => ?_, fun declaration text => ?_,
    fun _ _ _ _ _ h h' => h.unique h', fun name type lead gap before after hname hblank => ?_⟩
  · rw [ending_iff]
    constructor
    · rintro (h | ⟨h, htype⟩)
      · exact Or.inl ⟨h, rfl⟩
      · exact Or.inr ⟨_, h, htype⟩
    · obtain ⟨name, type⟩ := parameter
      rintro (⟨h, rfl⟩ | ⟨tag, h, htype⟩)
      · exact .untagged h
      · exact .named h htype
  · rw [ending_iff]
    constructor
    · rintro ⟨⟩
      exact ⟨_, ‹_›, ‹_›⟩
    · rintro ⟨name, h, htype⟩
      exact .unnamed h htype
  · rw [ending_iff]
    constructor
    · rintro ⟨⟩
      exact ⟨rfl, ‹_›⟩
    · rintro ⟨rfl, h⟩
      exact .unwritten h
  · have htag : IsTag type.name := by
      cases type <;> exact ⟨by decide, List.all_eq_true.1 (by decide)⟩
    have hwritten : Written
        (String.ofList (lead ++ (name.toList ++ (gap ++ ':' :: (before ++ (type.name.toList ++ after))))))
        name (some type.name) :=
      .tagged hname (hblank lead (by simp)) (hblank gap (by simp)) htag (hblank before (by simp))
        (hblank after (by simp)) (String.toList_ofList ..)
    exact ofDeclaration_of_named hwritten type.namedBy_name

example : ofDeclaration " count :INT\n" = .ok ⟨"count", .integer⟩ := by decide +kernel

example : ofDeclaration "count: Ints" = .error (.unsupportedType "Ints") := by decide +kernel

end Parameter

end HostConsole

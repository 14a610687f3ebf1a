/-
No look-alikes of keywords. The console compares texts in the lowercase of the whole Unicode standard with keywords in
ASCII: the two booleans, the tags of types, and the word that asks for help. A character beyond ASCII can have an ASCII
lowercase, as the Kelvin sign has, but none has a letter of these keywords for it.

Result: `no_lookalikes`. An argument reads as a boolean, a tag names a type, a line asks for help and a name is refused
as reserved exactly if the text is a keyword in some ASCII case; tags and names are trimmed first. So none of this
happens to a text that holds a character beyond ASCII once it is trimmed.
-/
import HostConsole.Proofs.Dispatch.Transaction
import HostConsole.Proofs.Value.Access
import HostConsole.Proofs.Value.Declaration

namespace HostConsole

variable {H : Host}

/-- trimming leaves characters of the text -/
theorem Text.IsAscii.trim {s : String} (h : IsAscii s) : IsAscii (trim s) := by
  intro c hc
  obtain ⟨lead, trail, -, -, hpad⟩ := exists_pad s.toList
  apply h c
  rw [Text.trim, String.toList_ofList] at hc
  rw [hpad]
  simp [hc]

/-! ## Booleans and tags -/

namespace ValueType

/-- a word reads as one boolean exactly if it is the name of this boolean in some ASCII case -/
theorem read?_boolean_eq_some_iff {word : String} {b : Bool} : boolean.read? word = some (.boolean b) ↔
    Text.sameIgnoringAsciiCase word (if b then "true" else "false") = true := by
  have htrue : Text.IsKeyword "true" := by decide +kernel
  have hfalse : Text.IsKeyword "false" := by decide +kernel
  have hapart : "true" ≠ "false" := by decide
  cases b with
  | true =>
    simp only [if_true, ← Text.lower_eq_iff htrue, read?]
    split_ifs <;> simp_all
  | false =>
    simp only [Bool.false_eq_true, if_false, ← Text.lower_eq_iff hfalse, read?]
    split_ifs <;> simp_all

/-- what reads as a boolean at all reads as one of the two -/
theorem read?_boolean_eq_none_iff {word : String} : boolean.read? word = none ↔
    boolean.read? word ≠ some (.boolean true) ∧ boolean.read? word ≠ some (.boolean false) := by
  rw [Option.eq_none_iff_forall_ne_some]
  constructor
  · intro h
    exact ⟨h _, h _⟩
  · rintro ⟨htrue, hfalse⟩ value hvalue
    have htype : value.type = boolean := type_of_read? hvalue
    cases value with
    | boolean b => cases b with
      | true => exact htrue hvalue
      | false => exact hfalse hvalue
    | _ => cases htype

theorem isAscii_of_mem_aliases {type : ValueType} {word : String} (h : word ∈ type.aliases) : Text.IsAscii word := by
  have hall : ∀ type ∈ [integer, float, boolean, text], ∀ word ∈ type.aliases, Text.IsAscii word := by decide
  exact hall type (by cases type <;> simp) word h

end ValueType

namespace Parameter

/-- a tag gives a type exactly if it is one of the words for it, once trimmed -/
theorem typeOfTag_eq_ok_iff {tag : String} {type : ValueType} :
    typeOfTag tag = .ok type ↔ type.NamedBy (Text.trim tag) := by
  rw [← ValueType.ofTag?_eq_some_iff_trim, typeOfTag]
  cases ValueType.ofTag? tag <;> simp

theorem typeOfTag_of_unnamed {tag : String} (h : ∀ type : ValueType, ¬ type.NamedBy (Text.trim tag)) :
    typeOfTag tag = .error (.unsupportedType (Text.trim tag)) := by
  cases hresult : typeOfTag tag with
  | ok type => exact absurd (typeOfTag_eq_ok_iff.1 hresult) (h type)
  | error e =>
    unfold typeOfTag at hresult
    split at hresult
    · cases hresult
    · exact hresult.symm

end Parameter

/-! ## The word that asks for help -/

theorem isKeyword_helpWord : Text.IsKeyword helpWord := by
  decide +kernel

namespace Catalog

/-- a line asks for help exactly if its first word is the help word in some ASCII case -/
theorem execute_eq_help_iff (catalog : Catalog H) (captured : LevelFilter) (text : String) (world : H.World) :
    (catalog.execute captured text world).outcome = .ok .help ↔
      ∃ first rest, Text.words text = first :: rest ∧ Text.sameIgnoringAsciiCase first helpWord = true := by
  cases hwords : Text.words text with
  | nil => simp [execute, Line.read?, hwords]
  | cons first rest =>
    have hread := read?_of_words hwords
    simp only [List.cons.injEq]
    constructor
    · intro h
      refine ⟨first, rest, ⟨rfl, rfl⟩, (Text.lower_eq_iff isKeyword_helpWord).1 ?_⟩
      by_contra hne
      simp only [execute, hread, if_neg hne] at h
      split at h
      · cases h
      · split at h <;> cases h
    · rintro ⟨_, _, ⟨rfl, rfl⟩, hsame⟩
      have hasked : Text.lower first = helpWord := (Text.lower_eq_iff isKeyword_helpWord).2 hsame
      simp only [execute, hread, if_pos hasked]

/-- a declaration is refused as reserved exactly if its name is the help word once folded -/
theorem register_eq_reserved_iff {catalog : Catalog H} (hs : Sound catalog) (receivers : Receivers H)
    (declaration : Declaration H) (shown : String) :
    (catalog.register receivers declaration).2 = some (.reservedName shown) ↔
      shown = helpWord ∧ declaration.key = helpWord := by
  rcases register_cases catalog receivers declaration with ⟨hmem, hr⟩ | ⟨-, error, hfault, hr⟩ | ⟨-, hvalid, new, -, hr⟩
  · -- no command of a sound catalog has the reserved name
    have hkey : declaration.key ≠ helpWord := by
      intro hkey
      obtain ⟨i, hi⟩ := Option.isSome_iff_exists.1 (Std.HashMap.mem_iff_isSome_getElem?.1 hmem)
      obtain ⟨command, hcommand, hname⟩ := Option.map_eq_some_iff.1 ((hs.index_iff _ i).1 hi)
      exact hs.not_reserved command (Array.mem_of_getElem? hcommand) (hname.trans hkey)
    simp [hr, hkey]
  · rw [hr, Option.some.injEq]
    cases hfault with
    | invalidName bad =>
      have hkey : declaration.key ≠ helpWord := by
        intro hkey
        rw [hkey] at bad
        exact bad (by decide)
      simp [hkey]
    | reservedName reserved => simp [reserved, eq_comm]
    | unsupportedType _ not_reserved _ => simp [not_reserved]
    | invalidParameter _ not_reserved _ => simp [not_reserved]
    | missingReceiver _ not_reserved _ _ _ => simp [not_reserved]
  · simp [hr, hvalid.not_reserved]

/-- the folded name is the help word exactly if the name is, in some ASCII case, once trimmed -/
theorem key_eq_help_iff {declaration : Declaration H} : declaration.key = helpWord ↔
    Text.sameIgnoringAsciiCase (Text.trim declaration.name) helpWord = true :=
  Text.lower_eq_iff isKeyword_helpWord

/-- **Keywords have no look-alikes.** A word reads as a boolean exactly if it is the name of this boolean in some ASCII
case; a tag gives a type exactly if it is one of the words for it in some ASCII case, once trimmed, and is refused
otherwise; a line asks for help exactly if its first word is the help word in some ASCII case; and a declaration is
refused as reserved, in every catalog reached by registering, exactly if its name is that word once trimmed. Nothing of
this happens to a text that holds a character beyond ASCII once it is trimmed. -/
theorem no_lookalikes :
    (∀ word,
      (ValueType.boolean.read? word = some (.boolean true) ↔ Text.sameIgnoringAsciiCase word "true" = true) ∧
      (ValueType.boolean.read? word = some (.boolean false) ↔ Text.sameIgnoringAsciiCase word "false" = true) ∧
      (ValueType.boolean.read? word = none ↔
        ¬ Text.sameIgnoringAsciiCase word "true" = true ∧ ¬ Text.sameIgnoringAsciiCase word "false" = true)) ∧
    (∀ tag,
      (∀ type : ValueType, Parameter.typeOfTag tag = .ok type ↔
        ∃ word ∈ type.aliases, Text.sameIgnoringAsciiCase (Text.trim tag) word = true) ∧
      ((∀ type : ValueType, ¬ ∃ word ∈ type.aliases, Text.sameIgnoringAsciiCase (Text.trim tag) word = true) →
        Parameter.typeOfTag tag = .error (.unsupportedType (Text.trim tag)))) ∧
    (∀ (catalog : Catalog H) (captured : LevelFilter) (text : String) (world : H.World),
      (catalog.execute captured text world).outcome = .ok .help ↔
        ∃ first rest, Text.words text = first :: rest ∧ Text.sameIgnoringAsciiCase first "help" = true) ∧
    (∀ (calls : List (Call H)) (receivers : Receivers H) (declaration : Declaration H) (shown : String),
      (((empty : Catalog H).registerAll calls).register receivers declaration).2 = some (.reservedName shown) ↔
        shown = "help" ∧ Text.sameIgnoringAsciiCase (Text.trim declaration.name) "help" = true) ∧
    ∀ s, ¬ Text.IsAscii (Text.trim s) →
      ValueType.boolean.read? s = none ∧
      Parameter.typeOfTag s = .error (.unsupportedType (Text.trim s)) ∧
      (∀ (catalog : Catalog H) (captured : LevelFilter) (text : String) (world : H.World) (rest : List String),
        Text.words text = s :: rest → (catalog.execute captured text world).outcome ≠ .ok .help) ∧
      ∀ (calls : List (Call H)) (receivers : Receivers H) (declaration : Declaration H) (shown : String),
        declaration.name = s → (((empty : Catalog H).registerAll calls).register receivers declaration).2 ≠
          some (.reservedName shown) := by
  have hreserved (calls : List (Call H)) (receivers : Receivers H) (declaration : Declaration H) (shown : String) :
      (((empty : Catalog H).registerAll calls).register receivers declaration).2 = some (.reservedName shown) ↔
        shown = "help" ∧ Text.sameIgnoringAsciiCase (Text.trim declaration.name) "help" = true := by
    rw [register_eq_reserved_iff (sound_registerAll sound_empty calls), key_eq_help_iff, helpWord]
  refine ⟨?_, ?_, fun catalog captured text world => execute_eq_help_iff catalog captured text world, hreserved, ?_⟩
  · intro word
    have htrue : ValueType.boolean.read? word = some (.boolean true) ↔
        Text.sameIgnoringAsciiCase word "true" = true := ValueType.read?_boolean_eq_some_iff
    have hfalse : ValueType.boolean.read? word = some (.boolean false) ↔
        Text.sameIgnoringAsciiCase word "false" = true := ValueType.read?_boolean_eq_some_iff
    refine ⟨htrue, hfalse, ?_⟩
    rw [ValueType.read?_boolean_eq_none_iff]
    exact and_congr (not_congr htrue) (not_congr hfalse)
  · intro tag
    exact ⟨fun type => Parameter.typeOfTag_eq_ok_iff, Parameter.typeOfTag_of_unnamed⟩
  · intro s hbeyond
    have hbare : ∀ word, Text.IsAscii word → ¬ Text.sameIgnoringAsciiCase s word = true :=
      fun word hword hsame => hbeyond (Text.isAscii_of_same hsame hword).trim
    have htrimmed : ∀ word, Text.IsAscii word → ¬ Text.sameIgnoringAsciiCase (Text.trim s) word = true :=
      fun word hword hsame => hbeyond (Text.isAscii_of_same hsame hword)
    refine ⟨?_, ?_, ?_, ?_⟩
    · rw [ValueType.read?_boolean_eq_none_iff, ne_eq, ne_eq, ValueType.read?_boolean_eq_some_iff,
        ValueType.read?_boolean_eq_some_iff]
      exact ⟨hbare "true" (by decide), hbare "false" (by decide)⟩
    · apply Parameter.typeOfTag_of_unnamed
      rintro type ⟨word, hword, hsame⟩
      exact htrimmed word (ValueType.isAscii_of_mem_aliases hword) hsame
    · intro catalog captured text world rest hwords hhelp
      obtain ⟨first, others, hsplit, hsame⟩ := (execute_eq_help_iff catalog captured text world).1 hhelp
      rw [hwords, List.cons.injEq] at hsplit
      rw [← hsplit.1] at hsame
      exact hbare "help" (by decide) hsame
    · intro calls receivers declaration shown hname hrefused
      obtain ⟨-, hsame⟩ := (hreserved calls receivers declaration shown).1 hrefused
      rw [hname] at hsame
      exact htrimmed "help" (by decide) hsame

/-- a word that looks like a tag, and keywords in other cases, with blanks around those that are trimmed -/
theorem no_lookalikes_dotted :
    ¬ Text.IsAscii (Text.trim "\u0130nt") ∧
      Parameter.typeOfTag "\u0130nt" = .error (.unsupportedType "\u0130nt") ∧
      ((empty : Catalog Demo.host).execute .off "\u0130nt now" Demo.World.start).outcome ≠ .ok .help ∧
      ((empty : Catalog Demo.host).register .empty (.free "\u0130nt" "" [] fun _ => pure ())).2 ≠
        some (.reservedName "help") ∧
      Parameter.typeOfTag "\u00A0LoNG " = .ok .integer ∧
      ((empty : Catalog Demo.host).execute .off " hElP now" Demo.World.start).outcome = .ok .help ∧
      ((empty : Catalog Demo.host).register .empty (.free "\u3000HELp\n" "" [] fun _ => pure ())).2 =
        some (.reservedName "help") := by
  obtain ⟨-, htag, hhelp, hreserved, hbeyond⟩ := no_lookalikes (H := Demo.host)
  have hdotted : ¬ Text.IsAscii (Text.trim "\u0130nt") := by decide
  obtain ⟨-, htype, hline, hname⟩ := hbeyond "\u0130nt" hdotted
  have hself : Text.trim "\u0130nt" = "\u0130nt" := by decide
  rw [hself] at htype
  refine ⟨hdotted, htype, hline _ _ _ _ ["now"] (by decide), hname [] _ _ _ rfl, ?_, ?_, ?_⟩
  · exact ((htag _).1 _).2 ⟨"long", by decide, by decide⟩
  · exact (hhelp _ _ _ _).2 ⟨"hElP", ["now"], by decide, by decide⟩
  · exact (hreserved [] _ _ _).2 ⟨rfl, by decide⟩

end Catalog

end HostConsole

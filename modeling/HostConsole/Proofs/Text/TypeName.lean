/-
Names of types and their short names. A type is a path of segments, which may have arguments in angle brackets, or it
is built from other types: a tuple, an array, a slice or a reference. The short name is found by a rule on the text
alone (`shortName`): it is what follows the last separator before the first angle bracket, if there is one
(`Qualified`).

Results: the brackets in the name of a type match (`TypeName.balanced_render`); the short name of a path is its last
segment with the arguments (`shortName_path`), that of a reference is that of the type it refers to, and that of a
tuple, an array or a slice with a separator is cut out of its brackets (`not_balanced_shortName`).
-/
import Mathlib.Tactic
import HostConsole.Proofs.Decimal.Digits
import HostConsole.Proofs.Text.Brackets
import HostConsole.Catalog.Command

namespace HostConsole.Text

/-! ## The grammar -/

/-- characters that do not occur in a segment -/
def isMark (c : Char) : Bool :=
  "<>()[]:;,& ".toList.contains c

/-- one part of a path -/
structure Segment where
  letters : List Char
  nonempty : letters ≠ []
  plain : letters.any isMark = false

theorem plain_of_not_isMark {c : Char} (h : isMark c = false) : closing? c = none ∧ ¬ isClosing c = true := by
  constructor
  · unfold closing?
    split <;> first | rfl | cases h
  · intro hclosing
    simp only [isClosing, Bool.or_eq_true, decide_eq_true_eq] at hclosing
    obtain (rfl | rfl) | rfl := hclosing <;> cases h

theorem plain_of_isDigit {c : Char} (h : c.isDigit = true) : closing? c = none ∧ ¬ isClosing c = true := by
  apply plain_of_not_isMark
  by_contra hmark
  rw [Bool.not_eq_false, isMark, List.contains_iff_mem] at hmark
  fin_cases hmark <;> cases h

theorem Segment.not_isMark (segment : Segment) {c : Char} (h : c ∈ segment.letters) : isMark c = false :=
  Bool.eq_false_iff.2 (List.any_eq_false.1 segment.plain c h)

theorem Segment.balanced (segment : Segment) : Balanced segment.letters :=
  balanced_of_plain fun _ hc => plain_of_not_isMark (segment.not_isMark hc)

/-- types, as they are named -/
inductive TypeName where
  | path (modules : List Segment) (name : Segment) (arguments : List TypeName)
  | tuple (items : List TypeName)
  | array (item : TypeName) (size : Nat)
  | slice (item : TypeName)
  | reference (mutable : Bool) (item : TypeName)

namespace TypeName

/-- names with commas between them -/
def separated : List (List Char) → List Char :=
  [',', ' '].intercalate

/-- the arguments of a path, if there are any -/
def angled : List (List Char) → List Char
  | [] => []
  | argument :: rest => '<' :: (separated (argument :: rest) ++ ['>'])

/-- what stands between the brackets of a tuple; a single item has a comma after it -/
def listed : List (List Char) → List Char
  | [item] => item ++ [',']
  | items => separated items

/-- the modules of a path, each with a separator after it -/
def qualifier (modules : List Segment) : List Char :=
  modules.flatMap fun segment => segment.letters ++ [':', ':']

/-- what stands before the type that a reference refers to -/
def sigil (mutable : Bool) : List Char :=
  if mutable then "&mut ".toList else ['&']

mutual

/-- the name of a type -/
def render : TypeName → List Char
  | path modules name arguments => qualifier modules ++ (name.letters ++ angled (renderAll arguments))
  | tuple items => '(' :: (listed (renderAll items) ++ [')'])
  | array item size => '[' :: (render item ++ ("; ".toList ++ (toString size).toList) ++ [']'])
  | slice item => '[' :: (render item ++ [']'])
  | reference mutable item => sigil mutable ++ render item

/-- the names of types -/
def renderAll : List TypeName → List (List Char)
  | [] => []
  | type :: rest => render type :: renderAll rest

end

/-- the name of a type as a text -/
def text (type : TypeName) : String :=
  String.ofList type.render

/-- the type behind references -/
def referent : TypeName → TypeName
  | reference _ item => referent item
  | type => type

/-- a path, with or without arguments -/
def IsPath : TypeName → Prop
  | path .. => True
  | _ => False

theorem renderAll_eq_map (types : List TypeName) : renderAll types = types.map render := by
  induction types with
  | nil => rfl
  | cons type types ih => rw [renderAll, ih, List.map_cons]

/-- what holds of paths and of all types built from types it holds of, holds of every type -/
@[induction_eliminator]
theorem recOn_types {motive : TypeName → Prop}
    (path : ∀ modules name arguments, (∀ type ∈ arguments, motive type) → motive (.path modules name arguments))
    (tuple : ∀ items, (∀ type ∈ items, motive type) → motive (.tuple items))
    (array : ∀ item size, motive item → motive (.array item size))
    (slice : ∀ item, motive item → motive (.slice item))
    (reference : ∀ mutable item, motive item → motive (.reference mutable item)) : ∀ type, motive type
  | .path modules name arguments =>
    path modules name arguments fun type _ => recOn_types path tuple array slice reference type
  | .tuple items => tuple items fun type _ => recOn_types path tuple array slice reference type
  | .array item size => array item size (recOn_types path tuple array slice reference item)
  | .slice item => slice item (recOn_types path tuple array slice reference item)
  | .reference mutable item => reference mutable item (recOn_types path tuple array slice reference item)

/-! ## Brackets in names -/

theorem balanced_separated {names : List (List Char)} (h : ∀ name ∈ names, Balanced name) :
    Balanced (separated names) := by
  induction names with
  | nil => rfl
  | cons name names ih =>
    have hname := h name List.mem_cons_self
    have hnames := ih fun other hother => h other (List.mem_cons_of_mem name hother)
    cases names with
    | nil => simpa [separated] using hname
    | cons next rest =>
      rw [separated, List.intercalate_cons_cons]
      exact (hname.append (by decide)).append hnames

theorem balanced_angled {names : List (List Char)} (h : ∀ name ∈ names, Balanced name) : Balanced (angled names) := by
  cases names with
  | nil => rfl
  | cons name names => exact (balanced_separated h).wrap rfl

theorem balanced_listed {names : List (List Char)} (h : ∀ name ∈ names, Balanced name) : Balanced (listed names) := by
  unfold listed
  split
  · rename_i item
    exact (h item List.mem_cons_self).append rfl
  · exact balanced_separated h

theorem balanced_qualifier (modules : List Segment) : Balanced (qualifier modules) := by
  induction modules with
  | nil => rfl
  | cons segment modules ih =>
    rw [qualifier, List.flatMap_cons]
    exact (segment.balanced.append (by decide)).append ih

theorem balanced_renderAll_of {types : List TypeName} (h : ∀ type ∈ types, Balanced type.render) :
    ∀ name ∈ renderAll types, Balanced name := by
  intro name hname
  rw [renderAll_eq_map, List.mem_map] at hname
  obtain ⟨type, htype, rfl⟩ := hname
  exact h type htype

theorem balanced_sized {item : List Char} (h : Balanced item) (size : Nat) :
    Balanced (item ++ ("; ".toList ++ (toString size).toList)) := by
  have hsize : Balanced (toString size).toList :=
    balanced_of_plain fun c hc => plain_of_isDigit (Decimal.isDigit_of_mem_repr hc)
  exact h.append (Balanced.append (by decide) hsize)

/-- **The brackets in the name of a type match.** -/
theorem balanced_render (type : TypeName) : Balanced type.render := by
  induction type with
  | path modules name arguments ih =>
    exact (balanced_qualifier modules).append (name.balanced.append (balanced_angled (balanced_renderAll_of ih)))
  | tuple items ih => exact (balanced_listed (balanced_renderAll_of ih)).wrap rfl
  | array item size ih => exact (balanced_sized ih size).wrap rfl
  | slice item ih => exact ih.wrap rfl
  | reference mutable item ih =>
    have hsigil : Balanced (sigil mutable) := by cases mutable <;> decide
    exact hsigil.append ih

/-! ## Ends of names -/

theorem render_ne_nil (type : TypeName) : type.render ≠ [] := by
  cases type with
  | path modules name arguments =>
    rw [render]
    simp [name.nonempty]
  | reference mutable item => cases mutable <;> simp [render, sigil]
  | _ => simp [render]

theorem getLast?_bracketed (o c : Char) (inner : List Char) : (o :: (inner ++ [c])).getLast? = some c := by
  rw [← List.cons_append, List.getLast?_concat]

/-- no name ends with a colon -/
theorem getLast?_render (type : TypeName) : type.render.getLast? ≠ some ':' := by
  induction type with
  | path modules name arguments ih =>
    have hname : name.letters.getLast? ≠ some ':' := by
      intro h
      have hmark := name.not_isMark (List.mem_of_getLast? h)
      cases hmark
    have hsome := List.getLast?_eq_some_getLast name.nonempty
    rw [render, List.getLast?_append, List.getLast?_append]
    cases arguments with
    | nil => simpa [renderAll, angled, hsome] using hname
    | cons argument arguments => rw [renderAll, angled, getLast?_bracketed]; simp
  | tuple items ih => rw [render, getLast?_bracketed]; simp
  | array item size ih => rw [render, getLast?_bracketed]; simp
  | slice item ih => rw [render, getLast?_bracketed]; simp
  | reference mutable item ih =>
    rw [render, List.getLast?_append, List.getLast?_eq_some_getLast item.render_ne_nil] at *
    simpa using ih

end TypeName

/-! ## Separators -/

/-- a separator stands before the first angle bracket -/
def Qualified (text : List Char) : Prop :=
  ∃ before after, text = before ++ ':' :: ':' :: after ∧ '<' ∉ before

theorem not_qualified_nil : ¬ Qualified [] := by
  intro h
  obtain ⟨before, after, hsplit, -⟩ := h
  simp at hsplit

theorem qualified_cons_iff {c : Char} {rest : List Char} :
    Qualified (c :: rest) ↔ (c = ':' ∧ rest.head? = some ':') ∨ (c ≠ '<' ∧ Qualified rest) := by
  constructor
  · intro h
    obtain ⟨before, after, hsplit, hbefore⟩ := h
    cases before with
    | nil =>
      cases hsplit
      exact Or.inl ⟨rfl, rfl⟩
    | cons d before =>
      cases hsplit
      rw [List.mem_cons, not_or] at hbefore
      exact Or.inr ⟨Ne.symm hbefore.1, before, after, rfl, hbefore.2⟩
  · intro h
    rcases h with ⟨rfl, hhead⟩ | ⟨hc, before, after, rfl, hbefore⟩
    · obtain ⟨after, rfl⟩ := List.head?_eq_some_iff.1 hhead
      exact ⟨[], after, rfl, by simp⟩
    · exact ⟨c :: before, after, rfl, by simp [Ne.symm hc, hbefore]⟩

/-- what has neither an angle bracket nor a colon does not matter -/
theorem qualified_append_iff {s rest : List Char} (h : ∀ c ∈ s, c ≠ '<' ∧ c ≠ ':') :
    Qualified (s ++ rest) ↔ Qualified rest := by
  induction s with
  | nil => rfl
  | cons c s ih =>
    obtain ⟨hopen, hcolon⟩ := h c List.mem_cons_self
    rw [List.cons_append, qualified_cons_iff]
    simp [hopen, hcolon, ih fun d hd => h d (List.mem_cons_of_mem c hd)]

/-- without a separator before the first angle bracket there is nothing to find -/
theorem shortNameFrom_of_not_qualified {text : List Char} (h : ¬ Qualified text) (best : List Char) :
    shortNameFrom best text = best := by
  induction text with
  | nil => rfl
  | cons c rest ih =>
    rw [qualified_cons_iff, not_or, not_and, not_and_or, not_ne_iff] at h
    rw [shortNameFrom]
    split_ifs with hopen hcolon
    · rfl
    · simp only [Bool.and_eq_true, decide_eq_true_eq] at hcolon
      exact absurd hcolon.2 (h.1 hcolon.1)
    · exact ih (h.2.resolve_left hopen)

/-- with one, what is found is the rest after a separator before the first angle bracket, whatever was found before -/
theorem exists_shortNameFrom {text : List Char} (h : Qualified text) :
    ∃ before after, text = before ++ ':' :: ':' :: after ∧ ∀ best, shortNameFrom best text = after := by
  induction text with
  | nil => exact absurd h not_qualified_nil
  | cons c rest ih =>
    rw [qualified_cons_iff] at h
    have hopen : c ≠ '<' := by
      rcases h with ⟨rfl, -⟩ | ⟨hc, -⟩
      · decide
      · exact hc
    by_cases hrest : Qualified rest
    · obtain ⟨before, after, rfl, hfound⟩ := ih hrest
      refine ⟨c :: before, after, rfl, fun best => ?_⟩
      rw [shortNameFrom, if_neg hopen]
      split_ifs <;> exact hfound _
    · obtain ⟨rfl, hhead⟩ := h.resolve_right fun h => hrest h.2
      obtain ⟨after, rfl⟩ := List.head?_eq_some_iff.1 hhead
      exact ⟨[], after, rfl, fun best => shortNameFrom_of_not_qualified hrest after⟩

/-- what has neither an angle bracket nor a colon is skipped -/
theorem shortNameFrom_append {s : List Char} (h : ∀ c ∈ s, c ≠ '<' ∧ c ≠ ':') (best rest : List Char) :
    shortNameFrom best (s ++ rest) = shortNameFrom best rest := by
  induction s with
  | nil => rfl
  | cons c s ih =>
    obtain ⟨hopen, hcolon⟩ := h c List.mem_cons_self
    rw [List.cons_append, shortNameFrom, if_neg hopen, if_neg (by simp [hcolon])]
    exact ih fun d hd => h d (List.mem_cons_of_mem c hd)

/-- a separator is found, and the search goes on behind it -/
theorem shortNameFrom_separator {rest : List Char} (h : rest.head? ≠ some ':') (best : List Char) :
    shortNameFrom best (':' :: ':' :: rest) = shortNameFrom rest rest := by
  rw [shortNameFrom, if_neg (by decide), if_pos (by simp), shortNameFrom, if_neg (by decide), if_neg (by simpa using h)]
  rfl

theorem Segment.skipped (segment : Segment) : ∀ c ∈ segment.letters, c ≠ '<' ∧ c ≠ ':' := by
  intro c hc
  have hmark := segment.not_isMark hc
  constructor <;> rintro rfl <;> cases hmark

theorem Segment.head?_append (segment : Segment) (rest : List Char) : (segment.letters ++ rest).head? ≠ some ':' := by
  obtain ⟨c, letters, hletters⟩ := List.exists_cons_of_ne_nil segment.nonempty
  have hc := (segment.skipped c (by simp [hletters])).2
  simpa [hletters] using hc

/-! ## Short names of types -/

namespace TypeName

theorem toList_shortName (type : TypeName) :
    (shortName type.text).toList = shortNameFrom type.render type.render := by
  rw [shortName, text, String.toList_ofList, String.toList_ofList]

/-- the modules of a path are left out -/
theorem shortNameFrom_qualifier (modules : List Segment) {rest : List Char} (h : rest.head? ≠ some ':') :
    shortNameFrom (qualifier modules ++ rest) (qualifier modules ++ rest) = shortNameFrom rest rest := by
  induction modules with
  | nil => rfl
  | cons segment modules ih =>
    have hhead : (qualifier modules ++ rest).head? ≠ some ':' := by
      cases modules with
      | nil => exact h
      | cons next modules =>
        rw [qualifier, List.flatMap_cons, List.append_assoc, List.append_assoc]
        exact next.head?_append _
    have hsplit : qualifier (segment :: modules) ++ rest =
        segment.letters ++ ':' :: ':' :: (qualifier modules ++ rest) := by
      simp [qualifier]
    rw [hsplit, shortNameFrom_append segment.skipped, shortNameFrom_separator hhead, ih]

/-- **The short name of a path is its last segment and the arguments.** -/
theorem shortName_path (modules : List Segment) (name : Segment) (arguments : List TypeName) :
    shortName (path modules name arguments).text =
      String.ofList (name.letters ++ angled (arguments.map render)) := by
  have hrest : ∀ best, shortNameFrom best (angled (arguments.map render)) = best := by
    intro best
    cases arguments <;> rfl
  rw [shortName, text, String.toList_ofList, render, renderAll_eq_map,
    shortNameFrom_qualifier modules (name.head?_append _), shortNameFrom_append name.skipped, hrest]

example : shortName "my_game::Pool<my_game::world::Counter>" = "Pool<my_game::world::Counter>" := by decide

/-- without a separator before the first angle bracket the name is its own short name -/
theorem shortName_of_not_qualified {type : TypeName} (h : ¬ Qualified type.render) :
    shortName type.text = type.text := by
  rw [shortName, text, String.toList_ofList, shortNameFrom_of_not_qualified h]

theorem sigil_skipped (mutable : Bool) : ∀ c ∈ sigil mutable, c ≠ '<' ∧ c ≠ ':' := by
  cases mutable <;> simp [sigil]

theorem qualified_reference_iff {mutable : Bool} {item : TypeName} :
    Qualified (reference mutable item).render ↔ Qualified item.render :=
  qualified_append_iff (sigil_skipped mutable)

/-- the short name of a reference is that of the type it refers to, if this has a separator -/
theorem shortName_reference {mutable : Bool} {item : TypeName} (h : Qualified item.render) :
    shortName (reference mutable item).text = shortName item.text := by
  obtain ⟨before, after, -, hfound⟩ := exists_shortNameFrom h
  rw [shortName, shortName, text, text, String.toList_ofList, String.toList_ofList, render,
    shortNameFrom_append (sigil_skipped mutable), hfound, hfound]

/-- the short name of a type is the end of its name, and not empty -/
theorem shortName_suffix (type : TypeName) :
    (shortName type.text).toList ≠ [] ∧ ∃ before, type.render = before ++ (shortName type.text).toList := by
  by_cases h : Qualified type.render
  · obtain ⟨before, after, hsplit, hfound⟩ := exists_shortNameFrom h
    rw [toList_shortName, hfound]
    refine ⟨?_, before ++ [':', ':'], by simpa using hsplit⟩
    -- the name would end with the separator
    intro hnone
    apply type.getLast?_render
    rw [hsplit, hnone]
    simp
  · rw [toList_shortName, shortNameFrom_of_not_qualified h]
    exact ⟨type.render_ne_nil, [], rfl⟩

/-- between brackets, the rest after a separator closes a bracket that it does not open -/
theorem not_balanced_of_bracketed {type : TypeName} {o c : Char} (ho : closing? o = some c) (hcolon : o ≠ ':')
    {inner : List Char} (hinner : Balanced inner) (hrender : type.render = o :: (inner ++ [c]))
    (h : Qualified type.render) : ¬ Balanced (shortName type.text).toList := by
  obtain ⟨before, after, hsplit, hfound⟩ := exists_shortNameFrom h
  have hne := type.shortName_suffix.1
  rw [toList_shortName, hfound] at hne ⊢
  rw [hrender] at hsplit
  cases before with
  | nil => exact absurd (List.cons.inj hsplit).1 hcolon
  | cons d before =>
    have hcut : inner ++ [c] = (before ++ [':', ':']) ++ after := by simpa using (List.cons.inj hsplit).2
    exact not_balanced_of_cut ho hinner hcut hne

/-- the short name of a path behind references names a type: the path without its modules, if no reference stays -/
theorem exists_shortName_of_isPath {type : TypeName} (h : type.referent.IsPath) :
    ∃ other : TypeName, shortName type.text = other.text := by
  induction type with
  | path modules name arguments ih =>
    rw [shortName_path, ← renderAll_eq_map]
    exact ⟨path [] name arguments, rfl⟩
  | reference mutable item ih =>
    by_cases hq : Qualified item.render
    · rw [shortName_reference hq]
      exact ih h
    · exact ⟨_, shortName_of_not_qualified (qualified_reference_iff.not.2 hq)⟩
  | _ => exact absurd h id

/-- the short name of a tuple, an array or a slice, or of a reference to one, is not balanced if there is a separator -/
theorem not_balanced_shortName {type : TypeName} (h : ¬ type.referent.IsPath) (hq : Qualified type.render) :
    ¬ Balanced (shortName type.text).toList := by
  induction type with
  | path modules name arguments ih => exact absurd trivial h
  | tuple items ih =>
    have hitems := balanced_listed (balanced_renderAll_of fun item (_ : item ∈ items) => item.balanced_render)
    exact not_balanced_of_bracketed rfl (by decide) hitems rfl hq
  | array item size ih =>
    exact not_balanced_of_bracketed rfl (by decide) (balanced_sized item.balanced_render size) rfl hq
  | slice item ih => exact not_balanced_of_bracketed rfl (by decide) item.balanced_render rfl hq
  | reference mutable item ih =>
    rw [qualified_reference_iff] at hq
    rw [shortName_reference hq]
    exact ih h hq

/-- **The short name of a type names a type exactly if the type is a path behind its references, or its name has no
separator before the first angle bracket; and exactly then its brackets match.** -/
theorem exists_shortName_iff (type : TypeName) :
    ((∃ other : TypeName, shortName type.text = other.text) ↔ type.referent.IsPath ∨ ¬ Qualified type.render) ∧
      (Balanced (shortName type.text).toList ↔ type.referent.IsPath ∨ ¬ Qualified type.render) := by
  have hnamed : type.referent.IsPath ∨ ¬ Qualified type.render →
      ∃ other : TypeName, shortName type.text = other.text := by
    intro h
    rcases h with hpath | hq
    · exact exists_shortName_of_isPath hpath
    · exact ⟨type, shortName_of_not_qualified hq⟩
  have hbalanced : (∃ other : TypeName, shortName type.text = other.text) → Balanced (shortName type.text).toList := by
    intro h
    obtain ⟨other, hother⟩ := h
    rw [hother, text, String.toList_ofList]
    exact other.balanced_render
  have hcut : Balanced (shortName type.text).toList → type.referent.IsPath ∨ ¬ Qualified type.render := by
    intro h
    by_contra hnot
    rw [not_or, not_not] at hnot
    exact not_balanced_shortName hnot.1 hnot.2 h
  exact ⟨⟨hcut ∘ hbalanced, hnamed⟩, hcut, hbalanced ∘ hnamed⟩

end TypeName

end HostConsole.Text

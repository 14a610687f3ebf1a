/-
What one registration does. A declaration describes a command (`Describes`): folded name, description, parameters and
target with its receiver. It is valid if nothing in it stands against its registration (`Valid`), and otherwise the
first check that fails gives the refusal (`FirstFault`): name, reserved word, parameters in order, receiver.

Results: `resolve_cases` says that resolving decides between the two, and `register_cases` says all that one call to
register can do.
-/
import Mathlib.Tactic
import HostConsole.Catalog.Basic
import HostConsole.Proofs.Text.Lower
import HostConsole.Proofs.Value.Parameter

namespace HostConsole

variable {H : Host}

/-! ## Descriptions and faults -/

/-- the target of a command and the declared target it comes from: a bound one has the receiver of its kind -/
inductive DeclaredTarget.Resolves (receivers : Receivers H) : DeclaredTarget H → Target H → Prop where
  | free (run : Handler H) : Resolves receivers (.free run) (.free run)
  | bound (kind : H.Kind) (run : Receiver H → Handler H) (receiver : Receiver H)
      (found : receivers.find? kind = some receiver) : Resolves receivers (.bound kind run) (.bound receiver run)

namespace Declaration

/-- the command is what the declaration says -/
structure Describes (receivers : Receivers H) (declaration : Declaration H) (command : Command H) : Prop where
  name : command.name = declaration.key
  description : command.description = declaration.description
  parameters : List.Forall₂ (fun text parameter => Parameter.ofDeclaration text = .ok parameter)
    declaration.parameters command.parameters
  target : declaration.target.Resolves receivers command.target

/-- nothing in the declaration itself stands against its registration -/
structure Valid (receivers : Receivers H) (declaration : Declaration H) : Prop where
  name : Text.IsWord declaration.key.toList
  not_reserved : declaration.key ≠ helpWord
  parameters : ∀ text ∈ declaration.parameters, ∃ parameter, Parameter.ofDeclaration text = .ok parameter
  receiver : ∀ kind run, declaration.target = .bound kind run →
    ∃ receiver ∈ receivers.toList, receiver.kind = kind

/-- the parameters before a place are declarations of parameters, and the one there is refused -/
def FirstRefused (declaration : Declaration H) (text : String) (error : Parameter.DeclarationError) : Prop :=
  ∃ before after, declaration.parameters = before ++ text :: after ∧
    (∀ earlier ∈ before, ∃ parameter, Parameter.ofDeclaration earlier = .ok parameter) ∧
    Parameter.ofDeclaration text = .error error

/-- the first check that a declaration fails, and the refusal for it -/
inductive FirstFault (receivers : Receivers H) (declaration : Declaration H) : RegistrationError → Prop where
  | invalidName (bad : ¬ Text.IsWord declaration.key.toList) :
      FirstFault receivers declaration (.invalidName declaration.name)
  | reservedName (reserved : declaration.key = helpWord) :
      FirstFault receivers declaration (.reservedName declaration.key)
  | unsupportedType (name : Text.IsWord declaration.key.toList) (not_reserved : declaration.key ≠ helpWord)
      {text tag : String} (first : declaration.FirstRefused text (.unsupportedType tag)) :
      FirstFault receivers declaration (.unsupportedType declaration.key tag)
  | invalidParameter (name : Text.IsWord declaration.key.toList) (not_reserved : declaration.key ≠ helpWord)
      {text shown : String} (first : declaration.FirstRefused text (.malformed shown)) :
      FirstFault receivers declaration (.invalidParameter declaration.key text)
  | missingReceiver (name : Text.IsWord declaration.key.toList) (not_reserved : declaration.key ≠ helpWord)
      (parameters : ∀ text ∈ declaration.parameters, ∃ parameter, Parameter.ofDeclaration text = .ok parameter)
      {kind : H.Kind} {run : Receiver H → Handler H} (bound : declaration.target = .bound kind run)
      (missing : ∀ receiver ∈ receivers.toList, receiver.kind ≠ kind) :
      FirstFault receivers declaration
        (.missingReceiver declaration.key (Text.shortName (H.kindName kind)))

end Declaration

theorem exists_mem_of_forall₂ {α β : Type} {R : α → β → Prop} {l : List α} {u : List β} (h : List.Forall₂ R l u)
    {a : α} (ha : a ∈ l) : ∃ b ∈ u, R a b := by
  induction h with
  | nil => cases ha
  | cons hr _ ih =>
    rcases List.mem_cons.1 ha with rfl | ha
    · exact ⟨_, List.mem_cons_self, hr⟩
    · obtain ⟨b, hb, hab⟩ := ih ha
      exact ⟨b, List.mem_cons_of_mem _ hb, hab⟩

theorem Receivers.find?_eq_none {receivers : Receivers H} {kind : H.Kind} :
    receivers.find? kind = none ↔ ∀ receiver ∈ receivers.toList, receiver.kind ≠ kind := by
  simp [Receivers.find?]

theorem Receivers.exists_of_find? {receivers : Receivers H} {kind : H.Kind} {receiver : Receiver H}
    (h : receivers.find? kind = some receiver) : ∃ receiver ∈ receivers.toList, receiver.kind = kind :=
  ⟨receiver, List.mem_of_find?_eq_some h, by simpa using List.find?_some h⟩

namespace Catalog

open Declaration

/-! ## The checks, one by one -/

theorem isWord_iff {s : String} : Text.IsWord s.toList ↔ (s.isEmpty || s.toList.any Text.isBlank) = false := by
  rw [Bool.or_eq_false_iff, Text.IsWord, List.any_eq_false]
  exact and_congr (by simp) (by simp)

theorem checkName_of_not_word {name : String} (h : ¬ Text.IsWord (Text.foldName name).toList) :
    checkName name = .error (.invalidName name) := by
  rw [isWord_iff, Bool.not_eq_false] at h
  simp only [checkName, h, if_true]

theorem checkName_of_reserved {name : String} (h : Text.foldName name = helpWord) :
    checkName name = .error (.reservedName (Text.foldName name)) := by
  have hw : (helpWord.isEmpty || helpWord.toList.any Text.isBlank) = false := by decide
  simp only [checkName, h, hw, if_true, Bool.false_eq_true, if_false]

theorem checkName_of_word {name : String} (hw : Text.IsWord (Text.foldName name).toList)
    (hn : Text.foldName name ≠ helpWord) : checkName name = .ok (Text.foldName name) := by
  rw [isWord_iff] at hw
  simp only [checkName, hw, hn, Bool.false_eq_true, if_false]

theorem checkParameters_ok_iff {command : String} {texts : List String} {parameters : List Parameter} :
    checkParameters command texts = .ok parameters ↔
      List.Forall₂ (fun text parameter => Parameter.ofDeclaration text = .ok parameter) texts parameters := by
  induction texts generalizing parameters with
  | nil => cases parameters <;> simp [checkParameters]
  | cons text texts ih =>
    cases hp : Parameter.ofDeclaration text with
    | error e => cases e <;> cases parameters <;> simp [checkParameters, hp]
    | ok parameter =>
      cases hrest : checkParameters command texts with
      | error e => cases parameters <;> simp [checkParameters, hp, hrest, Except.map, ← ih]
      | ok rest =>
        cases parameters with
        | nil => simp [checkParameters, hp, hrest, Except.map]
        | cons first others => simp [checkParameters, hp, hrest, Except.map, ← ih]

/-- a failing check of parameters names the first declaration that is refused -/
theorem checkParameters_error {command : String} {texts : List String} {error : RegistrationError}
    (h : checkParameters command texts = .error error) :
    ∃ before text after, texts = before ++ text :: after ∧
      (∀ earlier ∈ before, ∃ parameter, Parameter.ofDeclaration earlier = .ok parameter) ∧
      ((∃ tag, Parameter.ofDeclaration text = .error (.unsupportedType tag) ∧ error = .unsupportedType command tag) ∨
        ∃ shown, Parameter.ofDeclaration text = .error (.malformed shown) ∧
          error = .invalidParameter command text) := by
  induction texts with
  | nil => cases h
  | cons text texts ih =>
    unfold checkParameters at h
    split at h
    · rename_i parameter hp
      cases hrest : checkParameters command texts with
      | ok rest => rw [hrest] at h; cases h
      | error e =>
        rw [hrest] at h
        cases h
        obtain ⟨before, bad, after, rfl, hbefore, hbad⟩ := ih hrest
        refine ⟨text :: before, bad, after, rfl, fun earlier he => ?_, hbad⟩
        rcases List.mem_cons.1 he with rfl | he
        · exact ⟨parameter, hp⟩
        · exact hbefore earlier he
    · rename_i tag hp
      cases h
      exact ⟨[], text, texts, rfl, by simp, Or.inl ⟨tag, hp, rfl⟩⟩
    · rename_i shown hp
      cases h
      exact ⟨[], text, texts, rfl, by simp, Or.inr ⟨shown, hp, rfl⟩⟩

theorem checkTarget_ok_iff {receivers : Receivers H} {command : String} {declared : DeclaredTarget H}
    {target : Target H} :
    checkTarget receivers command declared = .ok target ↔ declared.Resolves receivers target := by
  cases declared with
  | free run =>
    constructor
    · intro h; cases h; exact .free run
    · intro h; cases h; rfl
  | bound kind run =>
    cases hf : receivers.find? kind with
    | none =>
      simp only [checkTarget, hf, reduceCtorEq, false_iff]
      intro h
      cases h with
      | bound _ _ receiver found => rw [hf] at found; cases found
    | some receiver =>
      simp only [checkTarget, hf]
      constructor
      · intro h; cases h; exact .bound kind run receiver hf
      · intro h
        cases h with
        | bound _ _ other found => rw [hf] at found; cases found; rfl

theorem checkTarget_error {receivers : Receivers H} {command : String} {declared : DeclaredTarget H}
    {error : RegistrationError} (h : checkTarget receivers command declared = .error error) :
    ∃ kind run, declared = .bound kind run ∧ (∀ receiver ∈ receivers.toList, receiver.kind ≠ kind) ∧
      error = .missingReceiver command (Text.shortName (H.kindName kind)) := by
  cases declared with
  | free run => cases h
  | bound kind run =>
    cases hf : receivers.find? kind with
    | some receiver => simp [checkTarget, hf] at h
    | none =>
      simp only [checkTarget, hf] at h
      cases h
      exact ⟨kind, run, rfl, Receivers.find?_eq_none.1 hf, rfl⟩

/-! ## Resolving -/

/-- a fault is one of what validity asks -/
theorem not_valid_of_firstFault {receivers : Receivers H} {declaration : Declaration H} {error : RegistrationError}
    (h : declaration.FirstFault receivers error) : ¬ declaration.Valid receivers := by
  intro hv
  have refused : ∀ {text e}, ¬ declaration.FirstRefused text e := by
    rintro text e ⟨before, after, hsplit, -, he⟩
    obtain ⟨parameter, hp⟩ := hv.parameters text (by simp [hsplit])
    rw [hp] at he
    cases he
  cases h with
  | invalidName bad => exact bad hv.name
  | reservedName reserved => exact hv.not_reserved reserved
  | unsupportedType _ _ first => exact refused first
  | invalidParameter _ _ first => exact refused first
  | missingReceiver _ _ _ bound missing =>
    obtain ⟨receiver, hm, hk⟩ := hv.receiver _ _ bound
    exact missing receiver hm hk

/-- what resolving does: it describes the command of a valid declaration, or it gives the first fault -/
theorem resolve_cases (receivers : Receivers H) (declaration : Declaration H) :
    (declaration.Valid receivers ∧
        ∃ command, resolve receivers declaration = .ok command ∧ declaration.Describes receivers command) ∨
      ∃ error, resolve receivers declaration = .error error ∧ declaration.FirstFault receivers error := by
  by_cases hw : Text.IsWord declaration.key.toList
  case neg =>
    refine Or.inr ⟨.invalidName declaration.name, ?_, .invalidName hw⟩
    simp only [resolve, checkName_of_not_word hw]
    rfl
  by_cases hn : declaration.key = helpWord
  case pos =>
    refine Or.inr ⟨.reservedName declaration.key, ?_, .reservedName hn⟩
    simp only [resolve, checkName_of_reserved hn]
    rfl
  have hname : checkName declaration.name = .ok declaration.key := checkName_of_word hw hn
  cases hp : checkParameters declaration.key declaration.parameters with
  | error e =>
    refine Or.inr ⟨e, ?_, ?_⟩
    · simp only [resolve, hname, hp, bind, Except.bind]
    · obtain ⟨before, text, after, hsplit, hbefore, ⟨tag, he, rfl⟩ | ⟨shown, he, rfl⟩⟩ := checkParameters_error hp
      · exact .unsupportedType hw hn ⟨before, after, hsplit, hbefore, he⟩
      · exact .invalidParameter hw hn ⟨before, after, hsplit, hbefore, he⟩
  | ok parameters =>
    have hforall := checkParameters_ok_iff.1 hp
    have hall : ∀ text ∈ declaration.parameters, ∃ parameter, Parameter.ofDeclaration text = .ok parameter :=
      fun text ht => (exists_mem_of_forall₂ hforall ht).imp fun _ h => h.2
    cases ht : checkTarget receivers declaration.key declaration.target with
    | error e =>
      refine Or.inr ⟨e, ?_, ?_⟩
      · simp only [resolve, hname, hp, ht, bind, Except.bind]
      · obtain ⟨kind, run, hbound, hmissing, rfl⟩ := checkTarget_error ht
        exact .missingReceiver hw hn hall hbound hmissing
    | ok target =>
      have hresolves := checkTarget_ok_iff.1 ht
      refine Or.inl ⟨⟨hw, hn, hall, fun kind run hbound => ?_⟩, ⟨declaration.key, declaration.description, parameters,
        target⟩, ?_, rfl, rfl, hforall, hresolves⟩
      · rw [hbound] at hresolves
        cases hresolves with
        | bound _ _ receiver found => exact Receivers.exists_of_find? found
      · simp only [resolve, hname, hp, ht, bind, Except.bind, pure, Except.pure]

theorem valid_of_resolve {receivers : Receivers H} {declaration : Declaration H} {command : Command H}
    (h : resolve receivers declaration = .ok command) :
    declaration.Valid receivers ∧ declaration.Describes receivers command := by
  rcases resolve_cases receivers declaration with ⟨hv, found, hr, hd⟩ | ⟨error, hr, -⟩
  · rw [h] at hr
    cases hr
    exact ⟨hv, hd⟩
  · rw [h] at hr; cases hr

theorem firstFault_of_resolve {receivers : Receivers H} {declaration : Declaration H} {error : RegistrationError}
    (h : resolve receivers declaration = .error error) : declaration.FirstFault receivers error := by
  rcases resolve_cases receivers declaration with ⟨-, found, hr, -⟩ | ⟨fault, hr, hf⟩
  · rw [h] at hr; cases hr
  · rw [h] at hr
    cases hr
    exact hf

/-! ## One call to register -/

/-- what registering does: the name is taken, or the declaration has a fault, or its command comes to the end -/
theorem register_cases (catalog : Catalog H) (receivers : Receivers H) (declaration : Declaration H) :
    (declaration.key ∈ catalog.index ∧
        catalog.register receivers declaration = (catalog, some (.duplicate declaration.key))) ∨
      (declaration.key ∉ catalog.index ∧ ∃ error, declaration.FirstFault receivers error ∧
        catalog.register receivers declaration = (catalog, some error)) ∨
      (declaration.key ∉ catalog.index ∧ declaration.Valid receivers ∧
        ∃ command, declaration.Describes receivers command ∧
          catalog.register receivers declaration = (catalog.push command, none)) := by
  by_cases hc : declaration.key ∈ catalog.index
  · refine Or.inl ⟨hc, ?_⟩
    rw [register, if_pos (Std.HashMap.contains_iff_mem.2 hc)]
  · have hf : ¬ catalog.index.contains declaration.key = true := fun h => hc (Std.HashMap.contains_iff_mem.1 h)
    cases hr : resolve receivers declaration with
    | error e =>
      refine Or.inr (Or.inl ⟨hc, e, firstFault_of_resolve hr, ?_⟩)
      simp only [register, if_neg hf, hr]
    | ok command =>
      obtain ⟨hv, hd⟩ := valid_of_resolve hr
      refine Or.inr (Or.inr ⟨hc, hv, command, hd, ?_⟩)
      simp only [register, if_neg hf, hr]

/-- a valid declaration of a new name is accepted -/
theorem accepted_of_valid {catalog : Catalog H} {receivers : Receivers H} {declaration : Declaration H}
    (hnew : declaration.key ∉ catalog.index) (hv : declaration.Valid receivers) :
    (catalog.register receivers declaration).2 = none := by
  rcases register_cases catalog receivers declaration with ⟨hm, -⟩ | ⟨-, e, hf, -⟩ | ⟨-, -, command, -, hr⟩
  · exact absurd hm hnew
  · exact absurd hv (not_valid_of_firstFault hf)
  · rw [hr]

end Catalog

end HostConsole

/-
Which declarations a catalog is built from. Whether a declaration gets in depends on what became of all before it;
here the same selection is stated without a state: a declaration is accepted if it is valid and no valid one before it
has its name (`Accepted`).

Result: `build_selects`. The commands are those of the accepted declarations, in order. For every other one, in order,
there is one warning and nothing else: it says that the name is taken exactly if an accepted declaration before it has
that name, and otherwise it names the first check that fails.
-/
import Mathlib.Data.List.Infix
import HostConsole.Demo.Host
import HostConsole.Proofs.Catalog.Registration

namespace HostConsole.Catalog

variable {H : Host}

/-! ## Declarations and those before them -/

/-- each element with those before it -/
def withEarlier {α : Type} (list : List α) : List (List α × α) :=
  list.inits.zip list

theorem withEarlier_snoc {α : Type} (list : List α) (a : α) :
    withEarlier (list ++ [a]) = withEarlier list ++ [(list, a)] := by
  induction list with
  | nil => rfl
  | cons b list ih =>
    have hcons : ∀ l : List α, withEarlier (b :: l) = ([], b) :: (withEarlier l).map (Prod.map (b :: ·) id) := by
      intro l
      simp [withEarlier, List.zip_map_left]
    rw [List.cons_append, hcons, hcons, ih]
    simp

/-! ## The selection -/

instance (receivers : Receivers H) (declaration : Declaration H) : Decidable (declaration.Valid receivers) :=
  decidable_of_iff ((resolve receivers declaration).toOption.isSome = true) <| by
    rcases resolve_cases receivers declaration with ⟨hv, command, hr, -⟩ | ⟨error, hr, hf⟩
    · simp [hr, hv, Except.toOption]
    · simp [hr, not_valid_of_firstFault hf, Except.toOption]

/-- the declaration is valid, and no valid one before it has its name -/
def Accepted (receivers : Receivers H) (earlier : List (Declaration H)) (declaration : Declaration H) : Prop :=
  declaration.Valid receivers ∧ ∀ other ∈ earlier, other.Valid receivers → other.key ≠ declaration.key

instance (receivers : Receivers H) (earlier : List (Declaration H)) (declaration : Declaration H) :
    Decidable (Accepted receivers earlier declaration) :=
  inferInstanceAs (Decidable (_ ∧ _))

/-- the declarations accepted, in order -/
def accepted (receivers : Receivers H) (declarations : List (Declaration H)) : List (Declaration H) :=
  ((withEarlier declarations).filter fun p => Accepted receivers p.1 p.2).map Prod.snd

/-- the other declarations, in order, each with those before it -/
def refused (receivers : Receivers H) (declarations : List (Declaration H)) :
    List (List (Declaration H) × Declaration H) :=
  (withEarlier declarations).filter fun p => ¬ Accepted receivers p.1 p.2

/-- why a declaration is refused after others: its name is taken, or else its first fault -/
structure Refusal (receivers : Receivers H) (earlier : List (Declaration H)) (declaration : Declaration H)
    (error : RegistrationError) : Prop where
  duplicate_iff : error = .duplicate declaration.key ↔
    ∃ other ∈ accepted receivers earlier, other.key = declaration.key
  firstFault : (∀ other ∈ accepted receivers earlier, other.key ≠ declaration.key) →
    declaration.FirstFault receivers error

/-- the entry is the warning for a refused declaration -/
def Warns (receivers : Receivers H) (p : List (Declaration H) × Declaration H) (entry : Entry) : Prop :=
  ∃ error, Refusal receivers p.1 p.2 error ∧ entry = ⟨.warning, error.message⟩

variable {receivers : Receivers H} {declarations : List (Declaration H)} {declaration : Declaration H}

theorem accepted_snoc_of_accepted (h : Accepted receivers declarations declaration) :
    accepted receivers (declarations ++ [declaration]) = accepted receivers declarations ++ [declaration] := by
  simp [accepted, withEarlier_snoc, h]

theorem accepted_snoc_of_not (h : ¬ Accepted receivers declarations declaration) :
    accepted receivers (declarations ++ [declaration]) = accepted receivers declarations := by
  simp [accepted, withEarlier_snoc, h]

/-- valid declarations of different names are all accepted -/
theorem accepted_eq_self (hv : ∀ declaration ∈ declarations, declaration.Valid receivers)
    (hn : (declarations.map Declaration.key).Nodup) : accepted receivers declarations = declarations := by
  induction declarations using List.reverseRecOn with
  | nil => rfl
  | append_singleton declarations declaration ih =>
    rw [List.map_append, List.nodup_append] at hn
    have ha : Accepted receivers declarations declaration := by
      refine ⟨hv declaration (by simp), fun other ho _ hkey => ?_⟩
      exact hn.2.2 other.key (List.mem_map_of_mem ho) declaration.key (by simp) hkey
    rw [accepted_snoc_of_accepted ha, ih (fun other ho => hv other (List.mem_append_left _ ho)) hn.1]

theorem refused_snoc_of_accepted (h : Accepted receivers declarations declaration) :
    refused receivers (declarations ++ [declaration]) = refused receivers declarations := by
  simp [refused, withEarlier_snoc, h]

theorem refused_snoc_of_not (h : ¬ Accepted receivers declarations declaration) :
    refused receivers (declarations ++ [declaration]) =
      refused receivers declarations ++ [(declarations, declaration)] := by
  simp [refused, withEarlier_snoc, h]

/-- a name is the name of a valid declaration if it is so without the last one, or the last one is valid and has it -/
theorem exists_valid_snoc (name : String) :
    (∃ other ∈ declarations ++ [declaration], other.Valid receivers ∧ other.key = name) ↔
      (∃ other ∈ declarations, other.Valid receivers ∧ other.key = name) ∨
        (declaration.Valid receivers ∧ declaration.key = name) := by
  simp only [List.mem_append, List.mem_singleton, or_and_right, exists_or, exists_eq_left]

/-- a declaration that is not accepted adds no name: if it is valid, a valid one before it has its name -/
theorem exists_valid_snoc_of_not (h : ¬ Accepted receivers declarations declaration) (name : String) :
    (∃ other ∈ declarations ++ [declaration], other.Valid receivers ∧ other.key = name) ↔
      ∃ other ∈ declarations, other.Valid receivers ∧ other.key = name := by
  rw [exists_valid_snoc]
  refine ⟨fun hname => hname.elim id ?_, Or.inl⟩
  rintro ⟨hv, rfl⟩
  by_contra hnone
  exact h ⟨hv, fun other hm hother hkey => hnone ⟨other, hm, hother, hkey⟩⟩

/-- the names accepted are the names of valid declarations: the first one of each name is accepted -/
theorem exists_accepted_iff (receivers : Receivers H) (declarations : List (Declaration H)) (name : String) :
    (∃ other ∈ accepted receivers declarations, other.key = name) ↔
      ∃ other ∈ declarations, other.Valid receivers ∧ other.key = name := by
  induction declarations using List.reverseRecOn with
  | nil => simp [accepted, withEarlier]
  | append_singleton declarations declaration ih =>
    by_cases ha : Accepted receivers declarations declaration
    · rw [accepted_snoc_of_accepted ha, exists_valid_snoc]
      simp only [List.mem_append, List.mem_singleton, or_and_right, exists_or, exists_eq_left, ih, ha.1, true_and]
    · rw [accepted_snoc_of_not ha, exists_valid_snoc_of_not ha, ih]

theorem firstFault_ne_duplicate {error : RegistrationError} (h : declaration.FirstFault receivers error)
    (name : String) : error ≠ .duplicate name := by
  cases h <;> simp

/-! ## Building -/

/-- what building leaves after some declarations -/
structure Built (receivers : Receivers H) (declarations : List (Declaration H)) (state : Catalog H × List Entry) :
    Prop where
  commands : List.Forall₂ (Declaration.Describes receivers) (accepted receivers declarations)
    state.1.commands.toList
  entries : List.Forall₂ (Warns receivers) (refused receivers declarations) state.2
  index : ∀ name, name ∈ state.1.index ↔ ∃ other ∈ declarations, other.Valid receivers ∧ other.key = name

theorem built_empty (receivers : Receivers H) : Built receivers [] (empty, []) := by
  refine ⟨?_, ?_, ?_⟩ <;> simp [accepted, refused, withEarlier, empty]

/-- a refusal leaves the commands and adds its warning -/
theorem built_refused {state : Catalog H × List Entry} {error : RegistrationError}
    (h : Built receivers declarations state) (hnot : ¬ Accepted receivers declarations declaration)
    (hr : Refusal receivers declarations declaration error) :
    Built receivers (declarations ++ [declaration]) (state.1, state.2 ++ [⟨.warning, error.message⟩]) := by
  refine ⟨?_, ?_, fun name => ?_⟩
  · rw [accepted_snoc_of_not hnot]
    exact h.commands
  · rw [refused_snoc_of_not hnot]
    exact List.rel_append h.entries (.cons ⟨error, hr, rfl⟩ .nil)
  · rw [h.index, exists_valid_snoc_of_not hnot]

/-- an accepted declaration adds its command and no warning -/
theorem built_accepted {state : Catalog H × List Entry} {command : Command H}
    (h : Built receivers declarations state) (ha : Accepted receivers declarations declaration)
    (hd : declaration.Describes receivers command) :
    Built receivers (declarations ++ [declaration]) (state.1.push command, state.2) := by
  refine ⟨?_, ?_, fun name => ?_⟩
  · rw [accepted_snoc_of_accepted ha]
    simpa [push] using List.rel_append h.commands (.cons hd .nil)
  · rw [refused_snoc_of_accepted ha]
    exact h.entries
  · rw [exists_valid_snoc]
    simp only [push, Std.HashMap.mem_insert, beq_iff_eq, h.index, hd.name, ha.1, true_and, or_comm]

theorem registerNoting_built {state : Catalog H × List Entry} (h : Built receivers declarations state)
    (declaration : Declaration H) :
    Built receivers (declarations ++ [declaration]) (registerNoting receivers state declaration) := by
  -- the index knows the names of the accepted declarations
  have htaken : declaration.key ∈ state.1.index ↔
      ∃ other ∈ accepted receivers declarations, other.key = declaration.key := by
    rw [h.index, exists_accepted_iff]
  rcases register_cases state.1 receivers declaration with
    ⟨hm, hr⟩ | ⟨hm, error, hf, hr⟩ | ⟨hm, hv, command, hd, hr⟩
  · simp only [registerNoting, hr]
    refine built_refused h (fun ha => ?_) ⟨iff_of_true rfl (htaken.1 hm), fun hnone => ?_⟩
    · obtain ⟨other, ho, hv, hk⟩ := (h.index _).1 hm
      exact ha.2 other ho hv hk
    · obtain ⟨other, ho, hk⟩ := htaken.1 hm
      exact absurd hk (hnone other ho)
  · simp only [registerNoting, hr]
    refine built_refused h (fun ha => not_valid_of_firstFault hf ha.1) ⟨?_, fun _ => hf⟩
    exact iff_of_false (firstFault_ne_duplicate hf _) (mt htaken.2 hm)
  · simp only [registerNoting, hr]
    exact built_accepted h ⟨hv, fun other ho hother hk => hm ((h.index _).2 ⟨other, ho, hother, hk⟩)⟩ hd

theorem build_built (receivers : Receivers H) (declarations : List (Declaration H)) :
    Built receivers declarations (build receivers declarations) := by
  induction declarations using List.reverseRecOn with
  | nil => exact built_empty receivers
  | append_singleton declarations declaration ih =>
    rw [build, List.foldl_append]
    exact registerNoting_built ih declaration

/-- **A catalog is built from the first valid declaration of each name, and every other one is reported once.** -/
theorem build_selects (receivers : Receivers H) (declarations : List (Declaration H)) :
    List.Forall₂ (Declaration.Describes receivers) (accepted receivers declarations)
        (build receivers declarations).1.commands.toList ∧
      List.Forall₂ (Warns receivers) (refused receivers declarations) (build receivers declarations).2 :=
  ⟨(build_built receivers declarations).commands, (build_built receivers declarations).entries⟩

/-- a command that does nothing -/
def plainSave : Declaration Demo.host :=
  .free "save" "" [] fun _ => pure ()

/-- another one of its name, in another spelling and with a parameter -/
def loudSave : Declaration Demo.host :=
  .free " SAVE" "" ["slot:int"] fun _ => pure ()

theorem build_selects_saves :
    let built := build .empty [plainSave, loudSave]
    built.1.commands.toList.map Command.name = ["save"] ∧ built.1.commands.toList.map Command.parameters = [[]] ∧
      built.2 = [⟨.warning, "Command save already registered."⟩] := by
  intro built
  have hplain : Accepted .empty [] plainSave := by decide +kernel
  have hloud : ¬ Accepted .empty [plainSave] loudSave := by decide +kernel
  have haccepted : accepted .empty [plainSave, loudSave] = [plainSave] := by
    simp [accepted, withEarlier, hplain, hloud]
  have hrefused : refused .empty [plainSave, loudSave] = [([plainSave], loudSave)] := by
    simp [refused, withEarlier, hplain, hloud]
  obtain ⟨hcommands, hentries⟩ := build_selects .empty [plainSave, loudSave]
  rw [haccepted] at hcommands
  rw [hrefused] at hentries
  obtain ⟨command, others, hdescribes, hnone, hbuilt⟩ := List.forall₂_cons_left_iff.1 hcommands
  obtain rfl := List.forall₂_nil_left_iff.1 hnone
  obtain ⟨entry, others, ⟨error, hrefusal, rfl⟩, hnone, hnoted⟩ := List.forall₂_cons_left_iff.1 hentries
  obtain rfl := List.forall₂_nil_left_iff.1 hnone
  have hname : command.name = "save" := hdescribes.name.trans (by decide +kernel)
  have hparameters : command.parameters = [] := List.forall₂_nil_left_iff.1 hdescribes.parameters
  have htaken : plainSave ∈ accepted .empty [plainSave] := by simp [accepted, withEarlier, hplain]
  have herror : error = .duplicate loudSave.key :=
    hrefusal.duplicate_iff.2 ⟨plainSave, htaken, by decide +kernel⟩
  have hmessage : (RegistrationError.duplicate loudSave.key).message = "Command save already registered." := by
    decide +kernel
  refine ⟨?_, ?_, ?_⟩
  · rw [hbuilt, List.map_singleton, hname]
  · rw [hbuilt, List.map_singleton, hparameters]
  · rw [hnoted, herror, hmessage]

end HostConsole.Catalog

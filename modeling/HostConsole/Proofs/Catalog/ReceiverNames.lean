/-
The name of a type in the refusal of a bound command. A bound declaration without an instance of its kind is refused
with the short name of the kind (`register_missingReceiver`); this is for a reader, who has to find the type by it.

Result: `shown_receiver`. The short name is the end of the full one, and exactly the last segment with the arguments for
a path. It is the name of a type for every path behind references, and for every type whose name has no separator before
the first angle bracket. Of a tuple, an array or a slice with a separator there, it is the end behind the separator,
which closes a bracket that it does not open (`pair_cut`).
-/
import HostConsole.Proofs.Catalog.Registration
import HostConsole.Proofs.Text.TypeName

namespace HostConsole

open Text (TypeName Segment Balanced Qualified)

variable {H : Host}

namespace Catalog

/-- a refusal for want of an instance names the kind that the declaration is bound to, by its short name -/
theorem register_missingReceiver {catalog : Catalog H} {receivers : Receivers H} {declaration : Declaration H}
    {command shown : String}
    (h : (catalog.register receivers declaration).2 = some (.missingReceiver command shown)) :
    ∃ kind run, declaration.target = .bound kind run ∧ (∀ receiver ∈ receivers.toList, receiver.kind ≠ kind) ∧
      command = declaration.key ∧ shown = Text.shortName (H.kindName kind) := by
  rcases register_cases catalog receivers declaration with ⟨-, hr⟩ | ⟨-, error, hfault, hr⟩ | ⟨-, -, accepted, -, hr⟩
  · rw [hr] at h
    cases h
  · rw [hr, Option.some.injEq] at h
    cases hfault with
    | missingReceiver _ _ _ bound missing =>
      rw [RegistrationError.missingReceiver.injEq] at h
      exact ⟨_, _, bound, missing, h.1.symm, h.2.symm⟩
    | _ => simp at h
  · rw [hr] at h
    cases h

/-- a host with one kind, of this name, and without instances -/
def namedHost (name : String) : Host where
  World := Unit
  Kind := Unit
  Instance := fun _ => Empty
  kindName := fun _ => name

/-- a command bound to the kind of the host -/
def namedDeclaration (name : String) : Declaration (namedHost name) :=
  .bound () "one" "" [] nofun

theorem register_namedDeclaration (name : String) :
    (empty : Catalog (namedHost name)).register .empty (namedDeclaration name) =
      (empty, some (.missingReceiver "one" (Text.shortName name))) := by
  have hfold : Text.foldName "one" = "one" := by decide +kernel
  have hname : checkName "one" = .ok (Text.foldName "one") :=
    checkName_of_word (by rw [hfold]; decide) (by rw [hfold]; decide)
  have hresolve : resolve .empty (namedDeclaration name) = .error (.missingReceiver "one" (Text.shortName name)) := by
    simp only [resolve, namedDeclaration, Declaration.bound, hname, hfold]
    rfl
  simp [register, empty, hresolve]

/-- **How refusals name types.** The short name of a type is the end of its name, and not empty. It names a type, and
its brackets match, exactly if the type is a path behind its references, or its name has no separator before the first
angle bracket. The short name of a path is its last segment with the arguments, that of a reference is that of the type
it refers to, and without such a separator a name is its own short name. A refusal for want of an instance shows the
short name of the kind that the declaration is bound to. -/
theorem shown_receiver :
    (∀ type : TypeName, Text.shortName type.text ≠ "" ∧ (∃ before, type.text = before ++ Text.shortName type.text) ∧
      ((∃ other : TypeName, Text.shortName type.text = other.text) ↔
        type.referent.IsPath ∨ ¬ Qualified type.render) ∧
      (Balanced (Text.shortName type.text).toList ↔ type.referent.IsPath ∨ ¬ Qualified type.render)) ∧
    (∀ modules name arguments, Text.shortName (TypeName.path modules name arguments).text =
      String.ofList (name.letters ++ TypeName.angled (arguments.map TypeName.render))) ∧
    (∀ mutable item, Qualified item.render →
      Text.shortName (TypeName.reference mutable item).text = Text.shortName item.text) ∧
    (∀ type : TypeName, ¬ Qualified type.render → Text.shortName type.text = type.text) ∧
    ∀ (catalog : Catalog H) (receivers : Receivers H) (declaration : Declaration H) (command shown : String),
      (catalog.register receivers declaration).2 = some (.missingReceiver command shown) →
        (∃ kind run, declaration.target = .bound kind run ∧ (∀ receiver ∈ receivers.toList, receiver.kind ≠ kind) ∧
          shown = Text.shortName (H.kindName kind)) ∧
        (RegistrationError.missingReceiver command shown).message =
          "Instance of " ++ shown ++ " not found for command '" ++ declaration.key ++ "'." := by
  refine ⟨fun type => ?_, TypeName.shortName_path, fun mutable item => TypeName.shortName_reference,
    fun type => TypeName.shortName_of_not_qualified, fun catalog receivers declaration command shown h => ?_⟩
  · obtain ⟨hne, before, hbefore⟩ := type.shortName_suffix
    refine ⟨by simpa using hne, ⟨String.ofList before, ?_⟩, type.exists_shortName_iff⟩
    calc type.text = String.ofList (before ++ (Text.shortName type.text).toList) := congrArg String.ofList hbefore
      _ = String.ofList before ++ Text.shortName type.text := by rw [String.ofList_append, String.ofList_toList]
  · obtain ⟨kind, run, htarget, hmissing, rfl, hshown⟩ := register_missingReceiver h
    exact ⟨⟨kind, run, htarget, hmissing, hshown⟩, rfl⟩

/-- the path `alloc::string::String` -/
def stringType : TypeName :=
  .path [⟨"alloc".toList, by decide, by decide⟩, ⟨"string".toList, by decide, by decide⟩]
    ⟨"String".toList, by decide, by decide⟩ []

/-- a primitive type is a path without modules -/
def byteType : TypeName :=
  .path [] ⟨"u8".toList, by decide, by decide⟩ []

/-- the path `game::Registry`, with a pair and a string as its arguments -/
def registryType : TypeName :=
  .path [⟨"game".toList, by decide, by decide⟩] ⟨"Registry".toList, by decide, by decide⟩
    [.tuple [stringType, byteType], stringType]

theorem shown_receiver_registry :
    registryType.text = "game::Registry<(alloc::string::String, u8), alloc::string::String>" ∧
      Text.shortName registryType.text = "Registry<(alloc::string::String, u8), alloc::string::String>" ∧
      Text.shortName (TypeName.reference true registryType).text = Text.shortName registryType.text ∧
      (∃ other : TypeName, Text.shortName (TypeName.reference true registryType).text = other.text) ∧
      ((empty : Catalog (namedHost registryType.text)).register .empty (namedDeclaration registryType.text)).2 =
        some (.missingReceiver "one" (Text.shortName registryType.text)) ∧
      ∃ kind run, (namedDeclaration registryType.text).target = .bound kind run := by
  obtain ⟨hnamed, hpath, hreference, -, hrefused⟩ := shown_receiver (H := namedHost registryType.text)
  have hregister := congrArg Prod.snd (register_namedDeclaration registryType.text)
  obtain ⟨⟨kind, run, htarget, -⟩, -⟩ := hrefused _ _ _ _ _ hregister
  have hqualified : Qualified registryType.render :=
    ⟨"game".toList, "Registry<(alloc::string::String, u8), alloc::string::String>".toList, by decide, by decide⟩
  refine ⟨by decide, (hpath _ _ _).trans (by decide), hreference true _ hqualified, ?_, hregister, kind, run, htarget⟩
  obtain ⟨-, -, hiff, -⟩ := hnamed (.reference true registryType)
  exact hiff.2 (Or.inl trivial)

/-- the pair of a string and a byte is shown as the end of its name behind the last separator, which is not a type -/
theorem pair_cut :
    (TypeName.tuple [stringType, byteType]).text = "(alloc::string::String, u8)" ∧
      Text.shortName "(alloc::string::String, u8)" = "String, u8)" ∧
      ¬ Balanced "String, u8)".toList ∧
      (∀ other : TypeName, other.text ≠ "String, u8)") ∧
      (build .empty [namedDeclaration "(alloc::string::String, u8)"]).2 =
        [⟨.warning, "Instance of String, u8) not found for command 'one'."⟩] := by
  have hshort : Text.shortName "(alloc::string::String, u8)" = "String, u8)" := by decide
  have hbrackets : ¬ Balanced "String, u8)".toList := by decide
  refine ⟨by decide, hshort, hbrackets, ?_, ?_⟩
  · intro other hother
    apply hbrackets
    rw [← hother, TypeName.text, String.toList_ofList]
    exact other.balanced_render
  · have hregister := register_namedDeclaration "(alloc::string::String, u8)"
    rw [hshort] at hregister
    simp only [build, List.foldl_cons, List.foldl_nil, registerNoting, hregister]
    rfl

end Catalog

end HostConsole

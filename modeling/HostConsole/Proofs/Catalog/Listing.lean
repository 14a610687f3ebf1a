/-
The listing, line by line. A line is read without the catalog (`Listed.ofLine`): the name goes up to the first space,
behind it come the parameters, each in angle brackets, and what is left is the description behind its dash.

Result: `listing_read_back`. The listing consists of the lines of all commands, one command after the other; a command
has one line more than line breaks in its description. On the first of them its name, its parameters and the first line
of its description can be read, whatever these are; so if no description has a line break, each command has one line,
and the lines tell all of it. A description with a line break makes the listing longer than the catalog
(`listing_longer`).
-/
import HostConsole.Proofs.Catalog.HelpText
import HostConsole.Proofs.Catalog.Invariant
import HostConsole.Proofs.Text.Breaks

namespace HostConsole

variable {H : Host}

open HelpText Text

/-! ## A reader of lines -/

/-- what a line of the listing tells -/
structure Listed where
  name : List Char
  parameters : List (List Char)
  description : List Char
  deriving DecidableEq

/-- the groups in angle brackets at the front, each behind a space, and what follows them; `opened` is what has been
read of a group that is not closed yet -/
def HelpText.groups : (opened : Option (List Char)) → List Char → List (List Char) × List Char
  | some group, '>' :: rest =>
    let (more, behind) := groups none rest
    (group :: more, behind)
  | some group, c :: rest => groups (some (group ++ [c])) rest
  | none, ' ' :: '<' :: rest => groups (some []) rest
  | _, rest => ([], rest)

/-- a line of the listing, read -/
def Listed.ofLine (line : List Char) : Listed :=
  let (parameters, behind) := groups none (line.dropWhile (· != ' '))
  ⟨line.takeWhile (· != ' '), parameters, behind.drop 3⟩

theorem HelpText.groups_opened {name : List Char} (h : '>' ∉ name) (group rest : List Char) :
    groups (some group) (name ++ '>' :: rest) = ((group ++ name) :: (groups none rest).1, (groups none rest).2) := by
  induction name generalizing group with
  | nil => simp [groups]
  | cons c name ih =>
    obtain ⟨hc, hname⟩ := not_or.1 (List.mem_cons.not.1 h)
    rw [List.cons_append, groups, ih hname, List.append_assoc]
    · rfl
    · exact Ne.symm hc

theorem HelpText.groups_placeholder {parameter : Parameter} (h : Parameter.IsIdentifier parameter.name)
    (rest : List Char) : groups none (placeholder parameter ++ rest) =
      (parameter.name.toList :: (groups none rest).1, (groups none rest).2) := by
  have htext : placeholder parameter ++ rest = ' ' :: '<' :: (parameter.name.toList ++ '>' :: rest) := by
    simp [placeholder]
  rw [htext, groups, groups_opened (Parameter.not_mem_name h (by decide)), List.nil_append]

/-- the groups are read in order, if no further one follows -/
theorem HelpText.groups_flatMap {parameters : List Parameter}
    (h : ∀ parameter ∈ parameters, Parameter.IsIdentifier parameter.name) {rest : List Char}
    (hrest : groups none rest = ([], rest)) :
    groups none (parameters.flatMap placeholder ++ rest) =
      (parameters.map fun parameter => parameter.name.toList, rest) := by
  induction parameters with
  | nil => exact hrest
  | cons parameter parameters ih =>
    rw [List.flatMap_cons, List.append_assoc, groups_placeholder (h parameter List.mem_cons_self),
      ih fun other ho => h other (List.mem_cons_of_mem parameter ho)]
    rfl

/-! ## The lines of one command -/

namespace Command

variable {command : Command H}

/-- what the listing is to tell of a command -/
def listed (command : Command H) : Listed :=
  ⟨command.name.toList, command.parameters.map fun parameter => parameter.name.toList, command.description.toList⟩

/-- the description as the first line of a command shows it -/
def firstRemark (command : Command H) : List Char :=
  if command.description.isEmpty then [] else " - ".toList ++ firstLine command.description

/-- the first line of a command -/
def firstHelpLine (command : Command H) : List Char :=
  command.name.toList ++ (command.parameters.flatMap placeholder ++ command.firstRemark)

theorem drop_firstRemark (command : Command H) : command.firstRemark.drop 3 = firstLine command.description := by
  unfold firstRemark
  split_ifs with hempty
  · rw [String.isEmpty_iff.1 hempty]
    rfl
  · rfl

theorem splitOn_remark (command : Command H) :
    command.remark.splitOn '\n' = command.firstRemark :: (linesOf command.description).tail := by
  unfold remark firstRemark
  split_ifs with hempty
  · rw [String.isEmpty_iff.1 hempty]
    rfl
  · exact splitOn_append (by decide) command.description.toList

/-- the name is a word, and the parameters are identifiers -/
structure Named (command : Command H) : Prop where
  word : IsWord command.name.toList
  identifiers : ∀ parameter ∈ command.parameters, Parameter.IsIdentifier parameter.name

/-- only the description breaks the line of a command -/
theorem Named.linesOf_helpLine (h : command.Named) :
    linesOf command.helpLine = command.firstHelpLine :: (linesOf command.description).tail := by
  have hname : '\n' ∉ command.name.toList := fun hmem => absurd (h.word.2 '\n' hmem) (by decide)
  have hparameters : '\n' ∉ command.parameters.flatMap placeholder := by
    intro hmem
    obtain ⟨parameter, hp, hbreak⟩ := List.mem_flatMap.1 hmem
    have hnone := Parameter.not_mem_name (h.identifiers parameter hp) (c := '\n') (by decide)
    simp [placeholder, hnone] at hbreak
  rw [linesOf, command.toList_helpLine, splitOn_append hname, splitOn_append hparameters, command.splitOn_remark]
  rfl

theorem Named.length_linesOf (h : command.Named) :
    (linesOf command.helpLine).length = command.description.toList.count '\n' + 1 := by
  rw [h.linesOf_helpLine, ← Text.length_linesOf, linesOf_eq_cons command.description]
  rfl

/-- the first line of a command tells its name, its parameters and the first line of its description -/
theorem Named.ofLine_firstHelpLine (h : command.Named) : Listed.ofLine command.firstHelpLine =
    { command.listed with description := firstLine command.description } := by
  have hname : ∀ c ∈ command.name.toList, (c != ' ') = true := fun c hc =>
    bne_iff_ne.2 fun hspace => absurd (h.word.2 c hc) (by rw [hspace]; decide)
  have hremark : groups none command.firstRemark = ([], command.firstRemark) := by
    unfold firstRemark
    split_ifs <;> rfl
  have hbehind : ∀ c ∈ (command.parameters.flatMap placeholder ++ command.firstRemark).head?,
      (c != ' ') = false := by
    unfold firstRemark
    cases command.parameters <;> split_ifs <;> simp [placeholder]
  obtain ⟨hrun, hrest⟩ := span_append hname _ hbehind
  simp only [Listed.ofLine, firstHelpLine, hrun, hrest, groups_flatMap h.identifiers hremark, drop_firstRemark, listed]

end Command

namespace Catalog

/-! ## The lines of the listing -/

theorem linesOf_helpListing {catalog : Catalog H} (h : catalog.isEmpty = false) :
    linesOf catalog.helpListing = catalog.commands.toList.flatMap fun command => linesOf command.helpLine := by
  have hne : (catalog.commands.toList.map Command.helpLine).map String.toList ≠ [] := by
    simpa [isEmpty] using h
  rw [helpListing, h, if_neg Bool.false_ne_true, linesOf, String.toList_intercalate]
  refine (splitOn_intercalate hne).trans ?_
  rw [List.map_map, List.flatMap_map]
  rfl

theorem named_registerAll (calls : List (Call H)) :
    ∀ command ∈ ((empty : Catalog H).registerAll calls).commands.toList, command.Named := by
  have hsound : Sound ((empty : Catalog H).registerAll calls) := sound_registerAll sound_empty calls
  intro command hm
  rw [Array.mem_toList_iff] at hm
  exact ⟨hsound.words command hm, hsound.identifiers command hm⟩

/-- there is a line for each command and one for each break in a description -/
theorem length_flatMap_helpLine {commands : List (Command H)} (h : ∀ command ∈ commands, command.Named) :
    (commands.flatMap fun command => linesOf command.helpLine).length =
      commands.length + (commands.map fun command => command.description.toList.count '\n').sum := by
  induction commands with
  | nil => rfl
  | cons command commands ih =>
    obtain ⟨hcommand, hcommands⟩ := List.forall_mem_cons.1 h
    rw [List.flatMap_cons, List.length_append, hcommand.length_linesOf, ih hcommands, List.length_cons, List.map_cons,
      List.sum_cons]
    omega

/-- **The listing can be read back**, as far as lines go. It has the lines of every command in turn: one, and one more
for each line break in its description. The first of them tells the name, the parameters and the first line of the
description. So there are as many lines as commands exactly if no description has a line break, and then the lines tell
all commands in order. -/
theorem listing_read_back (calls : List (Call H)) (h : ((empty : Catalog H).registerAll calls).isEmpty = false) :
    let catalog := (empty : Catalog H).registerAll calls
    let commands := catalog.commands.toList
    let lines := linesOf catalog.helpListing
    lines.length = catalog.size + (commands.map fun command => command.description.toList.count '\n').sum ∧
      (lines.length = catalog.size ↔ ∀ command ∈ commands, '\n' ∉ command.description.toList) ∧
      lines = commands.flatMap (fun command => linesOf command.helpLine) ∧
      (∀ command ∈ commands, ∃ first, linesOf command.helpLine = first :: (linesOf command.description).tail ∧
        Listed.ofLine first = { command.listed with description := firstLine command.description }) ∧
      ((∀ command ∈ commands, '\n' ∉ command.description.toList) →
        lines.map Listed.ofLine = commands.map Command.listed) := by
  intro catalog commands lines
  have hnamed : ∀ command ∈ commands, command.Named := named_registerAll calls
  have hlines : lines = commands.flatMap fun command => linesOf command.helpLine := linesOf_helpListing h
  have hlength : lines.length =
      catalog.size + (commands.map fun command => command.description.toList.count '\n').sum := by
    rw [hlines, length_flatMap_helpLine hnamed]
    rfl
  have hfirst : ∀ command ∈ commands, ∃ first, linesOf command.helpLine = first :: (linesOf command.description).tail ∧
      Listed.ofLine first = { command.listed with description := firstLine command.description } := fun command hm =>
    ⟨_, (hnamed command hm).linesOf_helpLine, (hnamed command hm).ofLine_firstHelpLine⟩
  refine ⟨hlength, ?_, hlines, hfirst, fun hbreaks => ?_⟩
  · rw [hlength, Nat.add_eq_left, List.sum_eq_zero_iff, List.forall_mem_map]
    exact forall₂_congr fun command _ => List.count_eq_zero
  · have hone : ∀ command ∈ commands, (linesOf command.helpLine).map Listed.ofLine = [command.listed] := by
      intro command hm
      rw [(hnamed command hm).linesOf_helpLine, linesOf_eq_singleton (hbreaks command hm), List.tail_cons,
        List.map_singleton, (hnamed command hm).ofLine_firstHelpLine, firstLine_eq_self (hbreaks command hm)]
      rfl
    rw [hlines, List.map_flatMap, List.flatMap_congr hone]
    exact List.map_eq_flatMap.symm

/-- registering one declaration that resolves makes a catalog of one command -/
theorem commands_registerAll_singleton {call : Call H} {command : Command H}
    (h : resolve call.1 call.2 = .ok command) : ((empty : Catalog H).registerAll [call]).commands = #[command] := by
  have hregister : (empty : Catalog H).register call.1 call.2 = (empty.push command, none) := by
    simp [register, h, empty]
  change (empty.register call.1 call.2).1.commands = #[command]
  rw [hregister]
  rfl

/-- a name and a description that look like placeholders -/
def bracketedCall : Call Demo.host :=
  (.empty, .free "A<b>" "<c> - d" ["x:int"] fun _ => pure ())

theorem listing_read_back_bracketed :
    let catalog := (empty : Catalog Demo.host).registerAll [bracketedCall]
    (linesOf catalog.helpListing).length = catalog.size ∧
      (linesOf catalog.helpListing).map Listed.ofLine = [⟨"a<b>".toList, ["x".toList], "<c> - d".toList⟩] := by
  intro catalog
  have hcommands : catalog.commands =
      #[⟨"a<b>", "<c> - d", [⟨"x", .integer⟩], .free fun _ => pure ()⟩] :=
    commands_registerAll_singleton rfl
  have hempty : catalog.isEmpty = false := by
    rw [isEmpty, hcommands]
    rfl
  obtain ⟨-, hiff, -, -, hread⟩ := listing_read_back [bracketedCall] hempty
  have hbreaks : ∀ command ∈ catalog.commands.toList, '\n' ∉ command.description.toList := by
    simp [hcommands]
  refine ⟨hiff.2 hbreaks, (hread hbreaks).trans ?_⟩
  rw [hcommands]
  rfl

/-- one command with a description of two lines -/
def twoLineCall : Call Demo.host :=
  (.empty, .free "one" "First\nSecond" [] fun _ => pure ())

/-- a listing may have more lines than there are commands -/
theorem listing_longer :
    let catalog := (empty : Catalog Demo.host).registerAll [twoLineCall]
    catalog.size = 1 ∧ linesOf catalog.helpListing = ["one - First".toList, "Second".toList] := by
  intro catalog
  have hcommands : catalog.commands = #[⟨"one", "First\nSecond", [], .free fun _ => pure ()⟩] :=
    commands_registerAll_singleton rfl
  have hempty : catalog.isEmpty = false := by
    rw [isEmpty, hcommands]
    rfl
  refine ⟨by rw [size, hcommands]; rfl, ?_⟩
  rw [linesOf_helpListing hempty, hcommands]
  decide +kernel

end Catalog

end HostConsole

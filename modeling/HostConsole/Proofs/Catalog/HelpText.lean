/-
What help texts show, read off the texts alone. A page shows its parameters in its last block, behind the last blank
line, as the lines that start with a dash: `- name: type` (`parameterLines`, `shown?`). The listing shows them as
groups in angle brackets right behind the name of a command (`placeholders`).

Results: the page of a command shows the parameters of the command, in order and with their types, whatever its
description is (`shown_page`), and in the listing there are as many placeholders behind its name (`exists_listed`). A
page is never the text for an unknown command (`helpPage_eq_notFound_iff`).
-/
import Mathlib.Data.List.DropRight
import HostConsole.Catalog.Help
import HostConsole.Proofs.Value.Grammar

namespace HostConsole

variable {H : Host}

/-! ## Readers of help texts -/

namespace HelpText

/-- the lines behind the last blank line -/
def lastBlock (text : String) : List (List Char) :=
  (text.toList.splitOn '\n').rtakeWhile fun line => !decide (Text.AllBlank line)

/-- the lines of the last block that start with a dash -/
def parameterLines (text : String) : List (List Char) :=
  (lastBlock text).filter fun line => ['-', ' '].isPrefixOf line

/-- the type of a name -/
def typeNamed? (name : List Char) : Option ValueType :=
  [.integer, .float, .boolean, .text].find? fun type => type.name.toList == name

/-- the parameter shown on a line: a dash, the name up to the colon, and behind it the name of the type -/
def shown? (line : List Char) : Option Parameter :=
  let body := line.drop 2
  (typeNamed? ((body.dropWhile (· != ':')).drop 2)).map (⟨String.ofList (body.takeWhile (· != ':')), ·⟩)

/-- how many groups in angle brackets, each behind a blank, stand at the front; `inside` says that the first of them is
open already -/
def placeholdersFrom (inside : Bool) : List Char → ℕ
  | [] => 0
  | c :: rest =>
    if inside then if c = '>' then placeholdersFrom false rest + 1 else placeholdersFrom true rest
    else if c = ' ' ∧ rest.head? = some '<' then placeholdersFrom true rest
    else 0

/-- how many placeholders stand at the front of a text -/
def placeholders (text : List Char) : ℕ :=
  placeholdersFrom false text

/-- the text for a word that no command has for a name -/
def notFound (name : String) : String :=
  "Command '" ++ name ++ "' not found."

end HelpText

open HelpText

/-! ## Characters of a parameter -/

theorem Parameter.not_mem_name {parameter : Parameter} (h : IsIdentifier parameter.name) {c : Char}
    (hc : isNameChar c = false) : c ∉ parameter.name.toList := fun hmem => by
  rw [isNameChar_of_identifier h c hmem] at hc
  cases hc

/-- no type has a line break in its name -/
theorem ValueType.newline_not_mem_name (type : ValueType) : '\n' ∉ type.name.toList := by
  cases type <;> decide

/-- the name of a type names it -/
theorem HelpText.typeNamed?_name (type : ValueType) : typeNamed? type.name.toList = some type := by
  cases type <;> decide

/-! ## Pages -/

/-- the line of a parameter on a page -/
def Parameter.helpLine (parameter : Parameter) : List Char :=
  "- ".toList ++ (parameter.name.toList ++ ": ".toList ++ parameter.type.name.toList)

theorem Parameter.shown?_helpLine {parameter : Parameter} (h : IsIdentifier parameter.name) :
    shown? parameter.helpLine = some parameter := by
  have hname : ∀ c ∈ parameter.name.toList, (c != ':') = true := fun c hc =>
    bne_iff_ne.2 fun hcolon => not_mem_name h (by decide) (hcolon ▸ hc)
  obtain ⟨hrun, hbehind⟩ := Text.span_append hname (':' :: ' ' :: parameter.type.name.toList) fun c hc => by
    cases hc
    decide
  have hbody : parameter.helpLine.drop 2 = parameter.name.toList ++ ':' :: ' ' :: parameter.type.name.toList := by
    simp [helpLine]
  simp only [shown?, hbody, hrun, hbehind, List.drop_succ_cons, List.drop_zero, typeNamed?_name, Option.map_some,
    String.ofList_toList]

theorem Parameter.newline_not_mem_helpLine {parameter : Parameter} (h : IsIdentifier parameter.name) :
    '\n' ∉ parameter.helpLine := by
  have hname := not_mem_name h (c := '\n') (by decide)
  have htype := parameter.type.newline_not_mem_name
  simp [helpLine, hname, htype]

/-- the last block of a page starts behind an empty line: all of its own lines hold something -/
theorem HelpText.lastBlock_append (front : List Char) {block : List (List Char)} {text : String}
    (ht : text.toList = front ++ '\n' :: '\n' :: ['\n'].intercalate block) (hne : block ≠ [])
    (hb : ∀ line ∈ block, '\n' ∉ line ∧ ¬ Text.AllBlank line) : lastBlock text = block := by
  have hlines : text.toList.splitOn '\n' = front.splitOn '\n' ++ ([] :: block) := by
    rw [ht, List.splitOn_append_cons_self, ← List.nil_append ('\n' :: _), List.splitOn_append_cons_self,
      List.splitOn_intercalate '\n' (fun line hl => (hb line hl).1) hne]
    rfl
  have hblock : ∀ line ∈ block.reverse, (!decide (Text.AllBlank line)) = true := fun line hl => by
    simpa using (hb line (List.mem_reverse.1 hl)).2
  rw [lastBlock, hlines, List.rtakeWhile, List.reverse_append, List.reverse_cons, List.append_assoc,
    List.takeWhile_append_of_pos hblock]
  simp [Text.allBlank_nil]

namespace Command

/-- the lines of the last block of a page -/
def helpBlock (command : Command H) : List (List Char) :=
  if command.parameters.isEmpty then ["Arguments: none".toList]
  else "Arguments:".toList :: command.parameters.map Parameter.helpLine

theorem toList_helpParameters (command : Command H) :
    command.helpParameters.toList = ['\n'].intercalate command.helpBlock := by
  unfold helpParameters helpBlock
  split_ifs with hempty
  · rw [List.intercalate_singleton]
  · have hlines : (command.parameters.map fun parameter => "- " ++ parameter.name ++ ": " ++ parameter.type.name).map
        String.toList = command.parameters.map Parameter.helpLine := by
      simp [Parameter.helpLine, Function.comp_def]
    have hne : command.parameters.map Parameter.helpLine ≠ [] := by
      simpa using hempty
    rw [List.intercalate_cons_of_ne_nil hne, ← hlines, String.toList_append, String.toList_intercalate]
    rfl

/-- the lines of a block have no line break in them, and each holds something -/
theorem mem_helpBlock {command : Command H}
    (h : ∀ parameter ∈ command.parameters, Parameter.IsIdentifier parameter.name) :
    ∀ line ∈ command.helpBlock, '\n' ∉ line ∧ ¬ Text.AllBlank line := by
  intro line hl
  unfold helpBlock at hl
  split_ifs at hl with hempty
  · rw [List.mem_singleton.1 hl]
    decide
  · rcases List.mem_cons.1 hl with rfl | hl
    · decide
    · obtain ⟨parameter, hp, rfl⟩ := List.mem_map.1 hl
      exact ⟨Parameter.newline_not_mem_helpLine (h parameter hp), fun hblank =>
        absurd (hblank '-' List.mem_cons_self) (by decide)⟩

/-- **A page shows the parameters**, in order and with their types -/
theorem shown_page {command : Command H}
    (h : ∀ parameter ∈ command.parameters, Parameter.IsIdentifier parameter.name) :
    (parameterLines (command.name ++ "\n" ++ command.description ++ "\n\n" ++ command.helpParameters)).map shown? =
      command.parameters.map some := by
  have hblock : lastBlock (command.name ++ "\n" ++ command.description ++ "\n\n" ++ command.helpParameters) =
      command.helpBlock := by
    refine lastBlock_append (command.name ++ "\n" ++ command.description).toList ?_ ?_ (mem_helpBlock h)
    · rw [String.toList_append, String.toList_append, toList_helpParameters, List.append_assoc]
      rfl
    · unfold helpBlock
      split_ifs <;> exact List.cons_ne_nil _ _
  rw [parameterLines, hblock, helpBlock]
  split_ifs with hempty
  · rw [List.isEmpty_iff.1 hempty]
    rfl
  · have hdashes : ∀ line ∈ command.parameters.map Parameter.helpLine, ['-', ' '].isPrefixOf line = true := by
      intro line hl
      obtain ⟨parameter, -, rfl⟩ := List.mem_map.1 hl
      rfl
    rw [List.filter_cons_of_neg (by decide), List.filter_eq_self.2 hdashes, List.map_map]
    exact List.map_congr_left fun parameter hp => Parameter.shown?_helpLine (h parameter hp)

end Command

/-! ## The listing -/

namespace HelpText

/-- one placeholder -/
def placeholder (parameter : Parameter) : List Char :=
  " <".toList ++ (parameter.name.toList ++ ">".toList)

/-- inside a placeholder nothing counts up to its end -/
theorem placeholdersFrom_inside {name : List Char} (h : '>' ∉ name) (rest : List Char) :
    placeholdersFrom true (name ++ '>' :: rest) = placeholdersFrom false rest + 1 := by
  induction name with
  | nil => simp [placeholdersFrom]
  | cons c name ih =>
    have hc : c ≠ '>' := fun he => h (he ▸ List.mem_cons_self)
    simp [placeholdersFrom, hc, ih fun hmem => h (List.mem_cons_of_mem c hmem)]

theorem placeholders_append {parameter : Parameter} (h : Parameter.IsIdentifier parameter.name) (rest : List Char) :
    placeholders (placeholder parameter ++ rest) = placeholders rest + 1 := by
  have hname := Parameter.not_mem_name h (c := '>') (by decide)
  have htext : placeholder parameter ++ rest = ' ' :: '<' :: (parameter.name.toList ++ '>' :: rest) := by
    simp [placeholder]
  rw [placeholders, htext]
  simp only [placeholdersFrom, Bool.false_eq_true, if_false, List.head?_cons, and_self, if_true,
    placeholdersFrom_inside hname]
  rfl

/-- there are as many placeholders at the front as parameters, if no further one follows -/
theorem placeholders_flatMap {parameters : List Parameter} (h : ∀ parameter ∈ parameters,
    Parameter.IsIdentifier parameter.name) {rest : List Char} (hrest : placeholders rest = 0) :
    placeholders (parameters.flatMap placeholder ++ rest) = parameters.length := by
  induction parameters with
  | nil => exact hrest
  | cons parameter parameters ih =>
    rw [List.flatMap_cons, List.append_assoc, placeholders_append (h parameter List.mem_cons_self),
      ih fun other ho => h other (List.mem_cons_of_mem parameter ho), List.length_cons]

/-- an entry of a text whose entries are joined by line breaks: the earlier ones stand in front of it, and behind it the
text ends or the line breaks -/
theorem exists_intercalate (earlier : List (List Char)) (entry : List Char) (later : List (List Char)) :
    ∃ rest, ['\n'].intercalate (earlier ++ entry :: later) = earlier.flatMap (· ++ ['\n']) ++ (entry ++ rest) ∧
      ∀ c ∈ rest.head?, c = '\n' := by
  induction earlier with
  | nil =>
    cases later with
    | nil => exact ⟨[], by simp, by simp⟩
    | cons next later => exact ⟨'\n' :: ['\n'].intercalate (next :: later), by simp, by simp⟩
  | cons first earlier ih =>
    obtain ⟨rest, hrest, hhead⟩ := ih
    have hne : earlier ++ entry :: later ≠ [] := by simp
    exact ⟨rest, by simp [List.intercalate_cons_of_ne_nil hne, hrest], hhead⟩

end HelpText

/-- the description as the line of a command shows it -/
def Command.remark (command : Command H) : List Char :=
  if command.description.isEmpty then [] else " - ".toList ++ command.description.toList

/-- the line of a command: its name, the placeholders, and the description -/
theorem Command.toList_helpLine (command : Command H) : command.helpLine.toList =
    command.name.toList ++ (command.parameters.flatMap placeholder ++ command.remark) := by
  have hplaceholders : (String.join (command.parameters.map fun parameter => " <" ++ parameter.name ++ ">")).toList =
      command.parameters.flatMap placeholder := by
    induction command.parameters with
    | nil => rfl
    | cons parameter parameters ih => simp [placeholder, ih]
  rw [helpLine, String.toList_append, String.toList_append, hplaceholders, List.append_assoc, remark]
  split_ifs
  · rfl
  · rw [String.toList_append]

/-- a description is no further placeholder, whatever follows on other lines -/
theorem Command.placeholders_remark (command : Command H) {rest : List Char} (h : ∀ c ∈ rest.head?, c = '\n') :
    placeholders (command.remark ++ rest) = 0 := by
  unfold remark
  split_ifs
  · cases rest with
    | nil => rfl
    | cons c rest =>
      rw [h c rfl]
      rfl
  · rfl

namespace Catalog

variable {catalog : Catalog H} {command : Command H} {token : String}

/-- **The listing shows as many placeholders as parameters**, right behind the name of a command, which stands after the
lines of all earlier commands -/
theorem exists_listed (hm : command ∈ catalog.commands)
    (h : ∀ parameter ∈ command.parameters, Parameter.IsIdentifier parameter.name) :
    ∃ earlier later after, catalog.commands.toList = earlier ++ command :: later ∧
      catalog.helpListing.toList =
        earlier.flatMap (fun other => other.helpLine.toList ++ ['\n']) ++ (command.name.toList ++ after) ∧
      placeholders after = command.parameters.length := by
  obtain ⟨earlier, later, hsplit⟩ := List.append_of_mem (Array.mem_toList_iff.2 hm)
  obtain ⟨rest, htext, hrest⟩ := exists_intercalate (earlier.map fun other => other.helpLine.toList)
    command.helpLine.toList (later.map fun other => other.helpLine.toList)
  refine ⟨earlier, later, command.parameters.flatMap placeholder ++ (command.remark ++ rest), hsplit, ?_,
    placeholders_flatMap h (command.placeholders_remark hrest)⟩
  have hempty : catalog.isEmpty = false := by
    rw [isEmpty, ← Array.isEmpty_toList, hsplit]
    simp
  have hlines : (catalog.commands.toList.map Command.helpLine).map String.toList =
      (earlier.map fun other => other.helpLine.toList) ++
        command.helpLine.toList :: later.map fun other => other.helpLine.toList := by
    simp [hsplit, Function.comp_def]
  rw [helpListing, hempty, if_neg Bool.false_ne_true, String.toList_intercalate, hlines]
  refine htext.trans ?_
  rw [List.flatMap_map, command.toList_helpLine, List.append_assoc, List.append_assoc]

theorem helpPage_of_find? (h : catalog.find? token = some command) : catalog.helpPage token =
    command.name ++ "\n" ++ command.description ++ "\n\n" ++ command.helpParameters := by
  rw [helpPage, h]

/-- the page of a command has several lines, and the text for an unknown word has one -/
theorem helpPage_eq_notFound_iff (ht : Text.IsWord token.toList) :
    catalog.helpPage token = notFound token ↔ catalog.find? token = none := by
  cases hf : catalog.find? token with
  | none => simp [helpPage, hf, notFound]
  | some command =>
    have hbreak : '\n' ∈ (catalog.helpPage token).toList := by
      rw [helpPage_of_find? hf]
      simp
    have hword : '\n' ∉ token.toList := fun hmem => absurd (ht.2 '\n' hmem) (by decide)
    have hnone : '\n' ∉ (notFound token).toList := by
      simp [notFound, hword]
    simp only [reduceCtorEq, iff_false]
    exact fun he => hnone (he ▸ hbreak)

end Catalog

end HostConsole

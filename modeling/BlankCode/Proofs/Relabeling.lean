/-
Module: BlankCode.Proofs.Relabeling
Purpose: The names of labels do not matter. Linking asks of two labels whether they are the same,
  and nothing else; so commands whose labels are renamed, different ones to different ones, become
  the same code, or are refused for the same reason at the same place, with the new name in the
  report.
Main exports: Command.relabel, Linking.relabel, Linking.Occurs, Linking.Renamed,
  Linking.marks_relabel_iff, Linking.faulty_relabel, Linking.Compiles.relabel,
  Linking.Links.relabel, Relabeling.link_relabel
-/
import BlankCode.Proofs.Linker
import Mathlib.Data.Set.Operations

namespace BlankCode

namespace Command

variable (rename : Label → Label) (command : Command)

/-- The command with its label renamed. Only what a command that takes a label has for its argument
is one. -/
def relabel : Command :=
  match command.mnemonic.parameter, command.argument with
  | .label, .label label => { command with argument := .label (rename label) }
  | _, _ => command

@[simp] theorem mnemonic_relabel : (command.relabel rename).mnemonic = command.mnemonic := by
  unfold relabel
  split <;> rfl

/-- A label is what is there afterwards if one was there before. -/
theorem argument_relabel_of_takes {command : Command}
    (takes : command.mnemonic.parameter = .label) {label : Label} :
    (command.relabel rename).argument = .label label ↔
      ∃ old, command.argument = .label old ∧ rename old = label := by
  rcases command with ⟨mnemonic, argument⟩
  dsimp only at takes
  cases argument <;> simp [relabel, takes]

/-- A command that takes no label, or has none, stays as it is. -/
theorem relabel_of_other {command : Command} (other : command.mnemonic.parameter ≠ .label) :
    command.relabel rename = command := by
  unfold relabel
  split
  · rename_i takes _
    exact absurd takes other
  · rfl

theorem relabel_of_lacks {command : Command} (lacks : ∀ label, command.argument ≠ .label label) :
    command.relabel rename = command := by
  unfold relabel
  split
  · rename_i given
    exact absurd given (lacks _)
  · rfl

theorem relabel_label {mnemonic : Mnemonic} (takes : mnemonic.parameter = .label)
    (label : Label) :
    relabel rename ⟨mnemonic, .label label⟩ = ⟨mnemonic, .label (rename label)⟩ := by
  simp [relabel, takes]

end Command

namespace Linking

/-- Commands with their labels renamed. -/
def relabel (rename : Label → Label) (commands : List Command) : List Command :=
  commands.map (Command.relabel rename)

/-- A label that some command takes. -/
def Occurs (commands : List Command) (label : Label) : Prop :=
  ∃ command ∈ commands, command.mnemonic.parameter = .label ∧ command.argument = .label label

/-- Two reports that say the same of the same place, the one with the label that stands there and
the other with its new name. -/
inductive Renamed (commands : List Command) (rename : Label → Label) :
    LinkError → LinkError → Prop where
  | invalidCommand (complaint : String) :
      Renamed commands rename (.invalidCommand complaint) (.invalidCommand complaint)
  | duplicateLabel {index : Nat} {label : Label} (marks : Marks commands index label)
      (previous : Nat) :
      Renamed commands rename (.duplicateLabel label.letters index previous)
        (.duplicateLabel (rename label).letters index previous)
  | labelPastEnd {last : Nat} {label : Label} (marks : Marks commands last label)
      (latest : ∀ later other, last < later → ¬ Marks commands later other) :
      Renamed commands rename (.labelPastEnd label.letters) (.labelPastEnd (rename label).letters)
  | undefinedLabel {position : Nat} {label : Label} (refers : Refers commands position label) :
      Renamed commands rename (.undefinedLabel label.letters position)
        (.undefinedLabel (rename label).letters position)

variable {commands : List Command} {rename : Label → Label}

/-! ### Commands, marks and references -/

theorem getElem?_relabel (index : Nat) :
    (relabel rename commands)[index]? = commands[index]?.map (Command.relabel rename) :=
  List.getElem?_map

/-- Marks stay marks, and instructions stay instructions. -/
theorem body_relabel (commands : List Command) :
    body (relabel rename commands) = relabel rename (body commands) := by
  unfold body relabel
  rw [List.filter_map]
  congr 2
  funext command
  simp

theorem address_relabel (rename : Label → Label) (index : Nat) :
    address (relabel rename commands) index = address commands index := by
  unfold address
  rw [relabel, ← List.map_take, ← relabel, body_relabel, relabel, List.length_map]

/-- A command that has a label afterwards had the one that became it before. -/
theorem getElem?_relabel_label_iff {index : Nat} {mnemonic : Mnemonic} {label : Label}
    (takes : mnemonic.parameter = .label) :
    (relabel rename commands)[index]? = some ⟨mnemonic, .label label⟩ ↔
      ∃ old, commands[index]? = some ⟨mnemonic, .label old⟩ ∧ rename old = label := by
  rw [getElem?_relabel]
  constructor
  · intro there
    obtain ⟨command, isThere, became⟩ := Option.map_eq_some_iff.mp there
    have same : command.mnemonic = mnemonic := by
      rw [← command.mnemonic_relabel rename, became]
    subst same
    have hasLabel := congrArg Command.argument became
    obtain ⟨old, given, isNew⟩ := (Command.argument_relabel_of_takes rename takes).mp hasLabel
    exact ⟨old, given ▸ isThere, isNew⟩
  · rintro ⟨old, isThere, rfl⟩
    rw [isThere, Option.map_some, Command.relabel_label rename takes]

theorem marks_relabel_iff {index : Nat} {label : Label} :
    Marks (relabel rename commands) index label ↔
      ∃ old, Marks commands index old ∧ rename old = label :=
  getElem?_relabel_label_iff rfl

theorem Marks.relabel {index : Nat} {label : Label} (marks : Marks commands index label) :
    Marks (relabel rename commands) index (rename label) :=
  marks_relabel_iff.mpr ⟨label, marks, rfl⟩

theorem refers_relabel_iff {position : Nat} {label : Label} :
    Refers (relabel rename commands) position label ↔
      ∃ old, Refers commands position old ∧ rename old = label := by
  unfold Refers
  rw [body_relabel]
  constructor
  · rintro ⟨mnemonic, refers, there⟩
    have takes := (Mnemonic.refersToLabel_iff.mp refers).1
    obtain ⟨old, isThere, isNew⟩ := (getElem?_relabel_label_iff takes).mp there
    exact ⟨old, ⟨mnemonic, refers, isThere⟩, isNew⟩
  · rintro ⟨old, ⟨mnemonic, refers, isThere⟩, isNew⟩
    have takes := (Mnemonic.refersToLabel_iff.mp refers).1
    exact ⟨mnemonic, refers, (getElem?_relabel_label_iff takes).mpr ⟨old, isThere, isNew⟩⟩

theorem dangles_relabel_iff {index : Nat} :
    Dangles (relabel rename commands) index ↔ Dangles commands index := by
  unfold Dangles
  constructor
  · rintro ⟨⟨label, marks⟩, onlyMarks⟩
    obtain ⟨old, marksOld, _⟩ := marks_relabel_iff.mp marks
    refine ⟨⟨old, marksOld⟩, ?_⟩
    intro later command behind there
    rw [← command.mnemonic_relabel rename]
    apply onlyMarks later _ behind
    rw [getElem?_relabel, there, Option.map_some]
  · rintro ⟨⟨label, marks⟩, onlyMarks⟩
    refine ⟨⟨rename label, marks.relabel⟩, ?_⟩
    intro later command behind there
    rw [getElem?_relabel] at there
    obtain ⟨old, isThere, rfl⟩ := Option.map_eq_some_iff.mp there
    rw [Command.mnemonic_relabel]
    exact onlyMarks later old behind isThere

/-- The new commands become what the old ones become. -/
theorem Compiles.relabel {command : Command} {instruction : Instruction}
    (compiles : Compiles commands command instruction) :
    Compiles (relabel rename commands) (command.relabel rename) instruction := by
  cases compiles with
  | number takes =>
      rw [Command.relabel_of_other rename (by simp [takes])]
      exact .number takes
  | plain takes =>
      rw [Command.relabel_of_other rename (by simp [takes])]
      exact .plain takes
  | reference refers marks =>
      rw [Command.relabel_label rename (Mnemonic.refersToLabel_iff.mp refers).1,
        ← address_relabel rename]
      exact .reference refers marks.relabel

theorem occurs_of_marks {index : Nat} {label : Label} (marks : Marks commands index label) :
    Occurs commands label :=
  ⟨_, List.mem_of_getElem? marks, rfl, rfl⟩

theorem occurs_of_refers {position : Nat} {label : Label}
    (refers : Refers commands position label) : Occurs commands label := by
  obtain ⟨mnemonic, isReference, there⟩ := refers
  have takes := (Mnemonic.refersToLabel_iff.mp isReference).1
  exact ⟨_, List.mem_of_mem_filter (List.mem_of_getElem? there), takes, rfl⟩

/-! ### Results -/

section

variable (injective : Set.InjOn rename {label | Occurs commands label})
include injective

/-- A label that occurs is marked where its new name is. -/
theorem marks_of_relabel {index : Nat} {label : Label} (occurs : Occurs commands label)
    (marks : Marks (relabel rename commands) index (rename label)) :
    Marks commands index label := by
  obtain ⟨old, marksOld, same⟩ := marks_relabel_iff.mp marks
  exact injective (occurs_of_marks marksOld) occurs same ▸ marksOld

/-- A command that is in error is so with another label, too. -/
theorem faulty_relabel {index : Nat} {error : LinkError} (fault : Faulty commands index error) :
    ∃ other, Faulty (relabel rename commands) index other ∧
      Renamed commands rename error other := by
  have stays {command : Command} (there : commands[index]? = some command)
      (same : command.relabel rename = command) :
      (relabel rename commands)[index]? = some command := by
    rw [getElem?_relabel, there, Option.map_some, same]
  cases fault with
  | @placeholder command there noCommand =>
      have other : command.mnemonic.parameter ≠ .label := by
        rcases noCommand with absent | count
        · simp [absent, Mnemonic.parameter]
        · simp [count, Mnemonic.parameter]
      have same := stays there (command.relabel_of_other rename other)
      exact ⟨_, .placeholder same noCommand, .invalidCommand _⟩
  | @number command there takes lacks =>
      have same := stays there (command.relabel_of_other rename (by simp [takes]))
      exact ⟨_, .number same takes lacks, .invalidCommand _⟩
  | @label command there takes lacks =>
      have same := stays there (command.relabel_of_lacks rename lacks)
      exact ⟨_, .label same takes lacks, .invalidCommand _⟩
  | @duplicate label previous marks before marked first =>
      refine ⟨_, .duplicate marks.relabel before marked.relabel ?_, .duplicateLabel marks previous⟩
      intro earlier isBefore marksEarlier
      exact first earlier isBefore (marks_of_relabel injective (occurs_of_marks marks) marksEarlier)

/-- Nothing is in error only on account of its new label. -/
theorem exists_faulty_of_relabel {index : Nat} {other : LinkError}
    (fault : Faulty (relabel rename commands) index other) :
    ∃ error, Faulty commands index error := by
  have before {command : Command} (there : (relabel rename commands)[index]? = some command) :
      ∃ old, commands[index]? = some old ∧ old.relabel rename = command := by
    rw [getElem?_relabel] at there
    exact Option.map_eq_some_iff.mp there
  cases fault with
  | placeholder there noCommand =>
      obtain ⟨old, isThere, rfl⟩ := before there
      rw [Command.mnemonic_relabel] at noCommand
      exact ⟨_, .placeholder isThere noCommand⟩
  | number there takes lacks =>
      obtain ⟨old, isThere, rfl⟩ := before there
      rw [Command.mnemonic_relabel] at takes
      rw [old.relabel_of_other rename (by simp [takes])] at lacks
      exact ⟨_, .number isThere takes lacks⟩
  | label there takes lacks =>
      obtain ⟨old, isThere, rfl⟩ := before there
      rw [Command.mnemonic_relabel] at takes
      refine ⟨_, .label isThere takes ?_⟩
      intro label given
      exact lacks _ ((Command.argument_relabel_of_takes rename takes).mpr ⟨label, given, rfl⟩)
  | duplicate marks isBefore marked =>
      obtain ⟨label, marksOld, rfl⟩ := marks_relabel_iff.mp marks
      exact faulty_of_marks marksOld isBefore
        (marks_of_relabel injective (occurs_of_marks marksOld) marked)

theorem sound_relabel (sound : Sound commands) : Sound (relabel rename commands) := by
  intro index other fault
  obtain ⟨error, faultOld⟩ := exists_faulty_of_relabel injective fault
  exact sound index error faultOld

/-- Renaming leaves the results of linking as they are, but for the label in an error. -/
theorem Links.relabel {result : Except LinkError (List Instruction)}
    (links : Links commands result) :
    match result with
    | .ok instructions => Links (relabel rename commands) (.ok instructions)
    | .error error => ∃ other, Links (relabel rename commands) (.error other) ∧
        Renamed commands rename error other := by
  have noneLeft (noneDangles : ∀ index, ¬ Dangles commands index) :
      ∀ index, ¬ Dangles (Linking.relabel rename commands) index := fun index dangles =>
    noneDangles index (dangles_relabel_iff.mp dangles)
  cases links with
  | @faulty index error fault first =>
      obtain ⟨other, faultToo, renamed⟩ := faulty_relabel injective fault
      refine ⟨other, .faulty faultToo ?_, renamed⟩
      intro earlier before _ faultEarlier
      obtain ⟨error, faultOld⟩ := exists_faulty_of_relabel injective faultEarlier
      exact first earlier before error faultOld
  | @pastEnd index last label sound dangles marks latest =>
      refine ⟨_, .pastEnd (sound_relabel injective sound) (dangles_relabel_iff.mpr dangles)
        marks.relabel ?_, .labelPastEnd marks latest⟩
      intro later _ behind marksLater
      obtain ⟨old, marksOld, _⟩ := marks_relabel_iff.mp marksLater
      exact latest later old behind marksOld
  | @undefined position label sound noneDangles refers nowhere first =>
      refine ⟨_, .undefined (sound_relabel injective sound) (noneLeft noneDangles)
        (refers_relabel_iff.mpr ⟨label, refers, rfl⟩) ?_ ?_, .undefinedLabel refers⟩
      · intro index marks
        exact nowhere index (marks_of_relabel injective (occurs_of_refers refers) marks)
      · intro earlier before _ refersEarlier
        obtain ⟨old, refersOld, rfl⟩ := refers_relabel_iff.mp refersEarlier
        obtain ⟨index, marks⟩ := first earlier before old refersOld
        exact ⟨index, marks.relabel⟩
  | linked sound noneDangles defined compiled =>
      refine .linked (sound_relabel injective sound) (noneLeft noneDangles) ?_ ?_
      · intro position _ refers
        obtain ⟨old, refersOld, rfl⟩ := refers_relabel_iff.mp refers
        obtain ⟨index, marks⟩ := defined position old refersOld
        exact ⟨index, marks.relabel⟩
      · rw [body_relabel]
        exact List.forall₂_map_left_iff.mpr (compiled.imp fun _ _ => Compiles.relabel)

end

end Linking

namespace Relabeling

open Linking

/-- When labels are renamed so that different labels among the commands have different new names,
then the commands become the same instructions if they become any, and are refused if they are, for
the same reason and at the same indices and positions, and what label is reported is the new name of
the one that stands there. -/
theorem link_relabel {commands : List Command} {rename : Label → Label}
    (injective : Set.InjOn rename {label | Occurs commands label}) :
    (∀ program, link commands = .ok program →
      ∃ other, link (relabel rename commands) = .ok other ∧
        other.instructions = program.instructions) ∧
    ∀ error, link commands = .error error →
      ∃ other, link (relabel rename commands) = .error other ∧
        Renamed commands rename error other := by
  constructor
  · intro program linked
    exact exists_link_of_links ((links_of_link linked).relabel injective)
  · intro error failed
    obtain ⟨other, links, renamed⟩ := (links_of_link_error failed).relabel injective
    exact ⟨other, link_of_links_error links, renamed⟩

/-- A loop with a way out, which leads to a label that is not marked. -/
def astray : List Command :=
  [⟨.mark, .label [0x20]⟩, ⟨.readNumber, .absent⟩, ⟨.jumpIfZero, .label [0x09, 0x20]⟩,
    ⟨.jump, .label [0x20]⟩]

/-- Tells two labels apart, and no others. -/
def coarse (label : Label) : Label :=
  if label = [0x20] then [0x09] else []

/-- The two labels that occur are told apart, so that the reference at the same position is found to
lead nowhere. -/
theorem link_relabel_astray :
    Set.InjOn coarse {label | Occurs astray label} ∧
      link astray = .error (.undefinedLabel "TS" 1) ∧
      link (relabel coarse astray) = .error (.undefinedLabel "" 1) ∧
      Renamed astray coarse (.undefinedLabel "TS" 1) (.undefinedLabel "" 1) := by
  have injective : Set.InjOn coarse {label | Occurs astray label} := by
    have occurring {label : Label} (occurs : Occurs astray label) :
        label = [0x20] ∨ label = [0x09, 0x20] := by
      obtain ⟨command, member, takes, given⟩ := occurs
      simp only [astray, List.mem_cons, List.not_mem_nil, or_false] at member
      rcases member with rfl | rfl | rfl | rfl <;> simp_all
    intro label occurs other occursToo same
    rcases occurring occurs with rfl | rfl <;> rcases occurring occursToo with rfl | rfl <;>
      simp_all [coarse]
  have failed : link astray = .error (.undefinedLabel "TS" 1) := by decide +kernel
  have failedToo : link (relabel coarse astray) = .error (.undefinedLabel "" 1) := by
    decide +kernel
  obtain ⟨other, fails, renamed⟩ := (link_relabel injective).2 _ failed
  obtain rfl := Except.error.inj (failedToo.symm.trans fails)
  exact ⟨injective, failed, failedToo, renamed⟩

end Relabeling

end BlankCode

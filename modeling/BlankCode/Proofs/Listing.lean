/-
Module: BlankCode.Proofs.Listing
Purpose: The listing identifies the program. Its lines end at line feeds, each line tells its
  command, and so a listing is read back as the commands that it was made for; sources with the same
  listing are the same program. A source that is no program has no listing, not even of the commands
  in front of the mistake.
Main exports: Lists, Listing.written, Listing.read, Listing.read_written, Listing.invoke_list,
  Listing.listing_identifies
-/
import BlankCode.Proofs.Agreement
import BlankCode.Proofs.Listing.Line
import BlankCode.Proofs.Verbosity.Log
import Mathlib.Data.Set.Function

namespace BlankCode

/-- A command line that asks for the listing of a source. -/
structure Lists (files : Files) (words : List Text) (options : Options) (source : Source) :
    Prop where
  asks : Request.ofWords words = .proceed options
  listed : options.list = true
  named : ∃ bytes, Utf8.encodeName? options.file = some bytes ∧ 0 ∉ bytes
  opens : files options.file = .ok source

namespace Session

/-- Lines are printed behind what was printed before. -/
theorem printed_printLines (session : Session) (lines : List String) :
    (session.printLines lines).printed =
      session.printed ++ String.join (lines.map (· ++ "\n")) := by
  have characters (string : String) :
      (Text.ofString string).filterMap CodePoint.toChar? = string.toList :=
    Text.characters_ofString string
  apply String.toList_injective
  simp only [printed, printLines, Streams.output, Streams.append, Text.characters,
    String.toList_append, String.toList_ofList, String.toList_join, List.reverse_append,
    List.reverse_reverse, List.filterMap_append, List.filterMap_flatMap, characters,
    List.flatMap_map]

/-- Logging is not printing. -/
theorem printed_log (session : Session) (mark : String) (lines : List Text) :
    (session.log mark lines).printed = session.printed := by
  rw [printed, terminal_log, printed]

end Session

namespace Listing

/-! ### A listing as a whole -/

/-- What is printed for commands. -/
def written (commands : List Command) : String :=
  String.join ((commands.map Command.listing).map (· ++ "\n"))

/-- The lines of a text that ends each of them, without their ends. -/
def lines (printed : String) : List String :=
  (printed.toList.splitOn '\n').dropLast.map String.ofList

/-- The commands that a listing was printed for. -/
def read (printed : String) : Option (List Command) :=
  (lines printed).mapM fun line => command? (textOf line)

variable {each : List String} {commands : List Command}

/-- Lines are told apart by their ends. Nothing stands behind the last of these. -/
theorem splitOn_lines (isLine : ∀ line ∈ each, OneLine line) :
    (each.flatMap fun line => line.toList ++ ['\n']).splitOn '\n' =
      each.map String.toList ++ [[]] := by
  induction each with
  | nil => rfl
  | cons line rest ih =>
      obtain ⟨first, others⟩ := List.forall_mem_cons.mp isLine
      have unbroken : ∀ char ∈ line.toList, (char == '\n') = false := by
        intro char among
        rw [beq_eq_false_iff_ne]
        rintro rfl
        exact first among
      rw [List.flatMap_cons, List.append_assoc, List.singleton_append, List.splitOn,
        List.splitOnP_append_cons_of_forall_mem unbroken _ (by decide)]
      exact congrArg (line.toList :: ·) (ih others)

theorem lines_join (isLine : ∀ line ∈ each, OneLine line) :
    lines (String.join (each.map (· ++ "\n"))) = each := by
  have chars : (String.join (each.map (· ++ "\n"))).toList =
      each.flatMap fun line => line.toList ++ ['\n'] := by
    simp [List.flatMap_map]
  rw [lines, chars, splitOn_lines isLine, List.dropLast_concat, List.map_map]
  simp

/-- A listing is read back as the commands that it was made for. -/
theorem read_written (legible : ∀ command ∈ commands, Legible command) :
    read (written commands) = some commands := by
  rw [read, written, lines_join (List.forall_mem_map.mpr fun command among =>
    (legible command among).oneLine_listing), List.mapM_map]
  induction commands with
  | nil => rfl
  | cons command rest ih =>
      obtain ⟨first, others⟩ := List.forall_mem_cons.mp legible
      rw [List.mapM_cons, Function.comp_apply, first.textOf_listing, first.command?_text,
        Option.bind_eq_bind, Option.bind_some, ih others]
      rfl

/-! ### Commands of sources -/

/-- The commands of all sources. -/
def parsed : Set Command :=
  { command | ∃ source : Source, ∃ commands, source.parse = .ok commands ∧ command ∈ commands }

theorem legible_of_parsed : ∀ command ∈ parsed, Legible command := by
  rintro command ⟨source, commands, parses, among⟩
  obtain ⟨pieces, spells, _⟩ := Grammar.exists_pieces_of_parse (Source.parse_eq_ok_iff.mp parses).2
  obtain ⟨piece, spelled⟩ := spells.exists_piece command among
  exact .of_spells spelled

/-- No two commands have the same text. -/
theorem text_injOn : Set.InjOn Command.text parsed := by
  intro command isRead other isOther same
  have told := (legible_of_parsed command isRead).command?_text
  rw [same, (legible_of_parsed other isOther).command?_text] at told
  exact (Option.some.inj told).symm

/-- The listing of a source tells its commands. -/
theorem read_of_parse {source : Source} (parses : source.parse = .ok commands) :
    read (written commands) = some commands :=
  read_written fun command among => legible_of_parsed command ⟨source, commands, parses, among⟩

/-! ### Command lines that ask for a listing -/

section

variable {files : Files} {words : List Text} {options : Options} {source : Source}

open Session

/-- All commands are printed, and nothing else, whatever is logged besides. -/
theorem invoke_of_parse (lists : Lists files words options source)
    (parses : source.parse = .ok commands) (input : String) (tried : Nat) :
    ∃ last, (start input).invoke files words tried = some (.exit 0, last) ∧
      last.printed = written commands := by
  obtain ⟨noted, nothing, staged⟩ : ∃ noted : Session, noted.printed = "" ∧
      (start input).stage files words =
        .finished (.exit 0) (noted.printLines (commands.map Command.listing)) := by
    rw [stage_of_opens lists.asks lists.named lists.opens, prepare, parses]
    dsimp only
    rw [lists.listed, if_pos rfl]
    exact ⟨_, printed_log _ _ _, rfl⟩
  refine ⟨_, by rw [invoke, staged], ?_⟩
  rw [printed_printLines, nothing, String.empty_append, written]

/-- Nothing is printed of a source that is no program. -/
theorem invoke_of_refused (lists : Lists files words options source) {defeat : Defeat}
    (refused : source.parse = .error defeat) (input : String) (tried : Nat) :
    ∃ ending last, (start input).invoke files words tried = some (ending, last) ∧
      last.printed = "" ∧ (source.refusal? = none → ending = .exit 1) := by
  have staged : (start input).stage files words =
      .finished (((start input).configure options.verbose).yield defeat).1
        (((start input).configure options.verbose).yield defeat).2 := by
    rw [stage_of_opens lists.asks lists.named lists.opens, prepare, refused]
  refine ⟨_, _, by rw [invoke, staged], ?_, fun given => ?_⟩
  · cases defeat <;> rfl
  · rcases Source.parse_error_cases refused with noBytes | ⟨error, _, rfl⟩
    · cases given.symm.trans noBytes
    · rfl

end

/-! ### Main result -/

open Session

/-- The listing identifies the program. Each line of it tells its command: it is visible
characters only, its text is told from it, whether it was padded or was too long for that, and the
command is told from the text, so that no two commands that were read have the same text. Thus the
commands are read back from what is printed, and two sources print the same exactly if they have the
same commands. A source that is no program prints nothing, and ends badly if it has bytes at all. -/
theorem listing_identifies {files otherFiles : Files} {words otherWords : List Text}
    {options otherOptions : Options} {source other : Source}
    (lists : Lists files words options source)
    (otherLists : Lists otherFiles otherWords otherOptions other)
    (input otherInput : String) (tried otherTried : Nat) :
    (∀ command ∈ parsed, Legible command) ∧ Set.InjOn Command.text parsed ∧
    (∀ {commands others : List Command},
      source.parse = .ok commands → other.parse = .ok others →
        ∃ last otherLast, (start input).invoke files words tried = some (.exit 0, last) ∧
          (start otherInput).invoke otherFiles otherWords otherTried =
            some (.exit 0, otherLast) ∧
          last.printed = written commands ∧ read last.printed = some commands ∧
          (last.printed = otherLast.printed ↔ commands = others)) ∧
    ∀ {defeat : Defeat}, source.parse = .error defeat →
      ∃ ending last, (start input).invoke files words tried = some (ending, last) ∧
        last.printed = "" ∧ (source.refusal? = none → ending = .exit 1) := by
  refine ⟨legible_of_parsed, text_injOn, ?_, ?_⟩
  · intro commands others parses otherParses
    obtain ⟨last, came, printed⟩ := invoke_of_parse lists parses input tried
    obtain ⟨otherLast, otherCame, otherPrinted⟩ :=
      invoke_of_parse otherLists otherParses otherInput otherTried
    have told := read_of_parse parses
    have otherTold := read_of_parse otherParses
    refine ⟨last, otherLast, came, otherCame, printed, ?_, ?_⟩
    · rw [printed, told]
    · rw [printed, otherPrinted]
      constructor
      · intro same
        rw [same, otherTold] at told
        exact (Option.some.inj told).symm
      · rintro rfl
        rfl
  · intro defeat refused
    exact invoke_of_refused lists refused input tried

/-- A number and a label too long to be padded. -/
def tagged : Source :=
  .whole (.text (.ofString "  \t\t \t\n\n   \t \t \t \t \t \t \t \t\n"))

/-- The same with leading zeros. -/
def padded : Source :=
  .whole (.text (.ofString "  \t   \t \t\n\n   \t \t \t \t \t \t \t \t\n"))

/-- The same with a beginning of a command behind it. -/
def broken : Source :=
  .whole (.text (.ofString "  \t\t \t\n\n   \t \t \t \t \t \t \t \t\n\n\n"))

def taggedCommands : List Command :=
  [⟨.push, .integer (-5)⟩, ⟨.mark, .label (List.replicate 8 [0x20, 0x09]).flatten⟩]

def shelf : Files :=
  Directory.open? ⟨[(.ofString "tagged.ws", tagged), (.ofString "padded.ws", padded),
    (.ofString "broken.ws", broken)]⟩

/-- Leading zeros are not listed, and neither is anything of what breaks off. -/
theorem listing_identifies_tagged :
    ∃ last otherLast failed,
      (start "").invoke shelf (["tagged.ws", "-l"].map Text.ofString) 0 =
        some (.exit 0, last) ∧
      (start "").invoke shelf (["padded.ws", "--list"].map Text.ofString) 0 =
        some (.exit 0, otherLast) ∧
      (start "").invoke shelf (["broken.ws", "-vl"].map Text.ofString) 0 =
        some (.exit 1, failed) ∧
      last.printed = "Push(-5)                IMP:Stack Manipulation\n" ++
        "Label('STSTSTSTSTSTSTST')IMP:Flow Control\n" ∧
      last.printed = otherLast.printed ∧ read last.printed = some taggedCommands ∧
      failed.printed = "" := by
  have lists : Lists shelf (["tagged.ws", "-l"].map Text.ofString)
      { file := .ofString "tagged.ws", list := true } tagged := {
    asks := rfl
    listed := rfl
    named := ⟨Utf8.encode "tagged.ws", by decide +kernel, by decide +kernel⟩
    opens := rfl }
  have otherLists : Lists shelf (["padded.ws", "--list"].map Text.ofString)
      { file := .ofString "padded.ws", list := true } padded := {
    asks := rfl
    listed := rfl
    named := ⟨Utf8.encode "padded.ws", by decide +kernel, by decide +kernel⟩
    opens := rfl }
  have brokenLists : Lists shelf (["broken.ws", "-vl"].map Text.ofString)
      { file := .ofString "broken.ws", list := true, verbose := true } broken := {
    asks := rfl
    listed := rfl
    named := ⟨Utf8.encode "broken.ws", by decide +kernel, by decide +kernel⟩
    opens := rfl }
  have parses : tagged.parse = .ok taggedCommands := rfl
  have otherParses : padded.parse = .ok taggedCommands := rfl
  obtain ⟨defeat, refused⟩ : ∃ defeat, broken.parse = .error defeat := ⟨_, rfl⟩
  obtain ⟨_, _, identifies, _⟩ := listing_identifies lists otherLists "" "" 0 0
  obtain ⟨last, otherLast, came, otherCame, printed, told, same⟩ := identifies parses otherParses
  obtain ⟨_, _, _, refuses⟩ := listing_identifies brokenLists lists "" "" 0 0
  obtain ⟨ending, failed, failedCame, nothing, ends⟩ := refuses refused
  obtain rfl := ends (by simp [broken])
  refine ⟨last, otherLast, failed, came, otherCame, failedCame, ?_, same.mpr rfl, told, nothing⟩
  rw [printed]
  decide +kernel

end Listing

end BlankCode

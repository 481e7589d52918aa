/-
Module: BlankCode.Proofs.Lookahead
Purpose: A machine never looks further into its input than it reads. Whatever stands behind the
  lines that it was given makes no difference to it and is left as it is, until it asks for more
  than those lines; and all the while what is unread only gets shorter, and what is written only
  longer.
Main exports: Streams.followedBy, Streams.read_followedBy, Machine.MeetsEnd, Machine.meetsEnd_iff,
  Machine.mirrored_followedBy, Machine.iterate_step_followedBy, Lookahead.streams_continue
-/
import BlankCode.Proofs.Aftermath
import BlankCode.Proofs.Record

namespace BlankCode

/-- A text of whole lines: one that a line feed ends, unless it is empty. -/
def Text.WholeLines (text : Text) : Prop :=
  text = [] ∨ [CodePoint.lineFeed] <:+ text

/-- What is left of whole lines, wherever they are cut, is empty or ends as they do. -/
theorem Text.WholeLines.suffix {text rest : Text} (whole : text.WholeLines) (left : rest <:+ text) :
    rest.WholeLines := by
  rcases whole with rfl | ends
  · exact Or.inl (List.suffix_nil.mp left)
  · cases rest with
    | nil => exact Or.inl rfl
    | cons point others =>
        right
        exact List.suffix_of_suffix_length_le ends left (Nat.le_add_left 1 others.length)

namespace Streams

/-- Streams whose unread text is followed by another one. -/
def followedBy (following : Text) (streams : Streams) : Streams :=
  { streams with unread := streams.unread ++ following }

/-- What is refused of an output is put down to an exception. -/
theorem write_raised {streams next : Streams} {output : Console.Output} {fault : Console.Fault}
    (handed : Console.write streams output = (.error fault, next)) (text : String) :
    fault.error ≠ .console text none := by
  simp only [Console.write, write] at handed
  cases output with
  | char value =>
      dsimp only at handed
      split at handed
      · cases handed
      · cases handed
        unfold noCharacter
        intro same
        split at same <;> cases same
  | number value =>
      dsimp only at handed
      split at handed
      · cases handed
      · cases handed
        intro same
        cases same

/-- So is what is refused of a line. Only at the end of the text is there no exception. -/
theorem unread_of_refused {streams next : Streams} {query : Console.Query} {fault : Console.Fault}
    {text : String} (asked : Console.read streams query = (.error fault, next))
    (refused : fault.error = .console text none) : streams.unread = [] := by
  rcases streams with ⟨unread, written⟩
  cases unread with
  | nil => rfl
  | cons point rest =>
      cases query with
      | char => cases asked
      | number =>
          obtain ⟨reply, -⟩ := Prod.mk.inj asked
          split at reply
          · cases reply
          · rename_i defect _
            cases reply
            cases defect <;> cases refused

/-- What is written does not depend on what is to be read. -/
theorem write_followedBy (following : Text) (streams : Streams) (output : Console.Output) :
    Console.write (streams.followedBy following) output =
      Prod.map id (followedBy following) (Console.write streams output) := by
  simp only [Console.write, write]
  cases output with
  | char value =>
      dsimp only
      cases CodePoint.ofInt? value <;> rfl
  | number value =>
      dsimp only
      split <;> rfl

/-- Nor does a reply depend on what follows the lines that are unread, as long as there are any:
neither a character nor a line reaches beyond them. -/
theorem read_followedBy (following : Text) {streams : Streams}
    (lines : [CodePoint.lineFeed] <:+ streams.unread) (query : Console.Query) :
    Console.read (streams.followedBy following) query =
      Prod.map id (followedBy following) (Console.read streams query) := by
  have ends : CodePoint.lineFeed ∈ streams.unread := lines.mem List.mem_cons_self
  rcases streams with ⟨unread, written⟩
  cases unread with
  | nil => cases ends
  | cons point rest =>
      cases query with
      | char => rfl
      | number =>
          have line := splitLine_append_of_mem ends following
          simp only [Console.read, read, followedBy, List.cons_append] at line ⊢
          rw [line]
          generalize splitLine (point :: rest) = parts
          rfl

end Streams

namespace Machine

variable {μ : Type} [Memory μ] {program : Program} {machine : Machine Streams μ}

/-- In its next step a machine asks for a character or a number, and has nothing left to read. -/
structure MeetsEnd (program : Program) (machine : Machine Streams μ) : Prop where
  running : machine.status = .running
  asks : ∃ instruction ∈ program.fetch? machine.counter, ∃ query : Console.Query,
    instruction.operation = query.operation
  addressed : machine.stack ≠ []
  exhausted : machine.console.unread = []

/-- That is when the step fails for a refusal of the console, which no exception has caused. -/
theorem meetsEnd_iff :
    machine.MeetsEnd program ↔
      machine.status = .running ∧
        ∃ text, (machine.step program).failure? = some (.execution (.console text none)) := by
  constructor
  · rintro ⟨running, ⟨⟨operation, argument⟩, found, query, rfl⟩, addressed, exhausted⟩
    obtain ⟨address, rest, top⟩ := List.exists_cons_of_ne_nil addressed
    refine ⟨running, ?_⟩
    rw [step_of_fetch? running found]
    rcases machine with ⟨⟨unread, written⟩, heap, counter, stack, calls, status⟩
    subst running top exhausted
    cases query with
    | char | number => exact ⟨_, rfl⟩
  · rintro ⟨running, text, failed⟩
    obtain ⟨error, left, isError, fails, _⟩ := Aftermath.fails_of_step running failed
    cases isError
    cases fails with
    | @faulted instruction _ _ found performs =>
        generalize reported : ExecutionError.console text none = error at performs
        cases performs with
        | refused reason => cases reason <;> cases reported
        | misplaced | readMisplaced => cases reported
        | unwritten _ _ reply => exact absurd reported.symm (Streams.write_raised reply text)
        | unread top reply reads =>
            exact ⟨running, ⟨instruction, found, _, reads⟩,
              List.ne_nil_of_mem (top ▸ List.mem_cons_self),
              Streams.unread_of_refused reply reported.symm⟩

omit [Memory μ] in
/-- To a machine that does not meet the end it makes no difference what follows its lines. -/
theorem mirrored_followedBy (following : Text) {instruction : Instruction}
    (whole : machine.console.unread.WholeLines) (goesOn : ¬ machine.MeetsEnd program)
    (running : machine.status = .running)
    (found : program.fetch? machine.counter = some instruction) :
    machine.Mirrored (Streams.followedBy following) instruction where
  write := fun output _ _ => Streams.write_followedBy following machine.console output
  read := by
    intro query reads addressed
    rcases whole with exhausted | lines
    · exact absurd ⟨running, ⟨instruction, found, query, reads⟩, addressed, exhausted⟩ goesOn
    · exact Streams.read_followedBy following lines query

/-- In any number of steps in which the end is not met a machine does the same when its lines are
followed by a text, which stays behind what is left of them. -/
theorem iterate_step_followedBy (following : Text) (machine : Machine Streams μ)
    (whole : machine.console.unread.WholeLines) (steps : Nat)
    (goesOn : ∀ earlier < steps, ¬ ((step program)^[earlier] machine).MeetsEnd program) :
    (step program)^[steps] (machine.mapConsole (Streams.followedBy following)) =
      ((step program)^[steps] machine).mapConsole (Streams.followedBy following) := by
  apply iterate_step_of_mirrored
  intro earlier inTime running instruction found
  have left : ((step program)^[earlier] machine).console.unread.WholeLines :=
    whole.suffix (continues_iterate program earlier machine).unread
  exact mirrored_followedBy following left (goesOn earlier inTime) running found

end Machine

namespace Lookahead

open Machine (reached)
open Streams (ofInput)

/-- Two machines that are the same but for a text that one of them has yet to read behind all that
the other has yet to read. -/
structure Precedes (following : Text) (alone followed : Machine Streams) : Prop where
  counter : followed.counter = alone.counter
  stack : followed.stack = alone.stack
  calls : followed.calls = alone.calls
  heap : followed.heap = alone.heap
  running : followed.isRunning = alone.isRunning
  failure : followed.failure? = alone.failure?
  output : followed.console.output = alone.console.output
  unread : followed.console.unread = alone.console.unread ++ following

/-- The unread text is at all times what is left at the end of the input, and only ever shrinks, and
the output only ever grows at its end. An input of whole lines may be followed by any text: the
machine is the same after as many steps, as long as it does not meet the end of those lines in them,
and all of the text that follows is unread. -/
theorem streams_continue (program : Program) (input : Text) :
    (∀ earlier more,
      (reached Heap program (ofInput input) earlier).console.unread <:+ input ∧
        (reached Heap program (ofInput input) (earlier + more)).console.unread <:+
          (reached Heap program (ofInput input) earlier).console.unread ∧
        (reached Heap program (ofInput input) earlier).console.output <+:
          (reached Heap program (ofInput input) (earlier + more)).console.output) ∧
      (input = [] ∨ [CodePoint.lineFeed] <:+ input →
        ∀ (following : Text) (steps : Nat),
          (∀ earlier < steps, ¬ (reached Heap program (ofInput input) earlier).MeetsEnd program) →
          Precedes following (reached Heap program (ofInput input) steps)
            (reached Heap program (ofInput (input ++ following)) steps)) := by
  constructor
  · intro earlier more
    have early : (ofInput input).Continues (reached Heap program (ofInput input) earlier).console :=
      Machine.continues_iterate program earlier (Machine.start (ofInput input))
    have late : (reached Heap program (ofInput input) earlier).console.Continues
        (reached Heap program (ofInput input) (earlier + more)).console :=
      Machine.continues_of_le program _ (Nat.le_add_right earlier more)
    exact ⟨early.unread, late.unread, late.output⟩
  · intro whole following steps goesOn
    have followed : reached Heap program (ofInput (input ++ following)) steps =
        (reached Heap program (ofInput input) steps).mapConsole (Streams.followedBy following) :=
      Machine.iterate_step_followedBy following (.start (ofInput input)) whole steps goesOn
    rw [followed]
    exact ⟨rfl, rfl, rfl, rfl, rfl, rfl, rfl, rfl⟩

/-- Reads a number, a character and a number again, which it has no address for. -/
def misplaced : Program :=
  .ofInstructions [⟨.push, 0⟩, ⟨.readNumber, 0⟩, ⟨.push, 1⟩, ⟨.readChar, 0⟩, ⟨.push, 1⟩,
    ⟨.retrieve, 0⟩, ⟨.writeNumber, 0⟩, ⟨.push, -1⟩, ⟨.readNumber, 0⟩]

/-- The last step fails, having read the last line and nothing of what follows it. -/
theorem streams_continue_misplaced :
    (reached Heap misplaced (ofInput (.ofString "7\nx8\n")) 9).failure? =
        some (.execution (.negativeAddress "store to" (-1))) ∧
      (reached Heap misplaced (ofInput (.ofString "7\nx8\n")) 9).console.unread = [] ∧
      Precedes (.ofString "9\n") (reached Heap misplaced (ofInput (.ofString "7\nx8\n")) 9)
        (reached Heap misplaced (ofInput (.ofString "7\nx8\n" ++ .ofString "9\n")) 9) := by
  have lines : [CodePoint.lineFeed] <:+ Text.ofString "7\nx8\n" := by decide +kernel
  have failures : ∀ earlier < 9,
      ((reached Heap misplaced (ofInput (.ofString "7\nx8\n")) earlier).step misplaced).failure? ∈
        [none, some (.execution (.negativeAddress "store to" (-1)))] := by
    decide +kernel
  have goesOn : ∀ earlier < 9,
      ¬ (reached Heap misplaced (ofInput (.ofString "7\nx8\n")) earlier).MeetsEnd misplaced := by
    intro earlier inTime meets
    obtain ⟨_, text, failed⟩ := Machine.meetsEnd_iff.mp meets
    have other := failures earlier inTime
    rw [failed] at other
    simp at other
  refine ⟨by decide +kernel, by decide +kernel, ?_⟩
  exact (streams_continue misplaced (.ofString "7\nx8\n")).2 (Or.inr lines) (.ofString "9\n") 9
    goesOn

end Lookahead

end BlankCode

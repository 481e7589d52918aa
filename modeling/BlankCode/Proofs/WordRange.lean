/-
Module: BlankCode.Proofs.WordRange
Purpose: All data of a machine are words. Literals have at most 63 bits, results of arithmetic and
  numbers that are read are wrapped, and everything else on the stack, on the heap or handed to the
  console was on the stack or on the heap before. Addresses that are stored to are not negative. The
  same goes for whatever else is true of every word.
Main exports: WordRange.Measure, WordRange.Tame, WordRange.Meets, WordRange.Guarded.step,
  WordRange.inRange_of_straight, WordRange.data_inRange
-/
import BlankCode.Console.Script
import BlankCode.Console.Terminal
import BlankCode.Proofs.Grammar
import BlankCode.Proofs.Linker
import BlankCode.Proofs.Record

namespace BlankCode.WordRange

open Linking Machine Word

/-! ### Literals -/

/-- The argument of an instruction that is no jump is the number of a command, which has at most 63
bits, or zero. -/
theorem inRange_of_straight {source : Source} {program : Program}
    (loaded : source.load = .ok program) {instruction : Instruction}
    (member : instruction ∈ program.instructions) (straight : instruction.operation.isJump = false) :
    InRange instruction.argument := by
  obtain ⟨commands, parsed, linked⟩ := exists_link_of_load loaded
  obtain ⟨pieces, spells, _⟩ := Grammar.exists_pieces_of_parse (Source.parse_eq_ok_iff.mp parsed).2
  cases links_of_link linked with
  | linked _ _ _ compiled =>
      obtain ⟨command, inBody, compiles⟩ := exists_compiles compiled member
      have bounds := (spells.argument_bounds command (List.mem_of_mem_filter inBody)).1
      rw [compiles.operation_eq, Mnemonic.isJump_operation] at straight
      cases compiles with
      | @number _ value =>
          have short := bounds value rfl
          unfold InRange
          dsimp only
          omega
      | reference refers => exact absurd (refers.symm.trans straight) nofun
      | plain =>
          show InRange 0
          decide

/-- So what a program pushes is a word. -/
theorem inRange_of_push {source : Source} {program : Program} (loaded : source.load = .ok program)
    {instruction : Instruction} (member : instruction ∈ program.instructions)
    (isPush : instruction.operation = .push) : InRange instruction.argument :=
  inRange_of_straight loaded member (by rw [isPush]; rfl)

/-! ### The heap -/

/-- Where nothing was stored zero is fetched. -/
theorem fetch_cases (heap : Heap) (address : Int) :
    heap.fetch address = 0 ∨ (address, heap.fetch address) ∈ heap.cells := by
  simp only [Heap.cells, Heap.fetch, Std.TreeMap.mem_toList_iff_getElem?_eq_some,
    Std.TreeMap.getD_eq_getD_getElem?]
  cases heap.written[address]? with
  | none => exact Or.inl rfl
  | some value => exact Or.inr rfl

/-! ### Measures -/

/-- What is asked of the data of a machine: something of values that every word meets, and something
of addresses that every value meets that is not negative. -/
structure Measure where
  value : Int → Prop
  address : Int → Prop
  word : ∀ {number}, InRange number → value number
  place : ∀ {number}, 0 ≤ number → value number → address number

/-- The measure of words. The addresses among them are not negative. -/
def words : Measure where
  value := InRange
  address := fun number => 0 ≤ number ∧ InRange number
  word := id
  place := And.intro

variable {measure : Measure}

/-! ### The console -/

variable {σ : Type}

/-- Consoles that stay among themselves as long as what they are handed meets a measure, and whose
characters meet it. Nothing is asked of the numbers that they read. -/
structure Tame [Console σ] (measure : Measure) (good : σ → Prop) : Prop where
  write : ∀ console output, good console → measure.value output.value →
    good (Console.write console output).2
  read : ∀ console query, good console → good (Console.read console query).2
  char : ∀ console value next, good console → Console.read console .char = (.ok value, next) →
    measure.value value

theorem Tame.written [Console σ] {good : σ → Prop} (tame : Tame measure good) {console next : σ}
    {output : Console.Output} {answer : Except Console.Fault Unit} (isGood : good console)
    (meets : measure.value output.value) (reply : Console.write console output = (answer, next)) :
    good next := by
  have after := tame.write console output isGood meets
  rwa [reply] at after

theorem Tame.asked [Console σ] {good : σ → Prop} (tame : Tame measure good) {console next : σ}
    {query : Console.Query} {answer : Except Console.Fault Int} (isGood : good console)
    (reply : Console.read console query = (answer, next)) : good next := by
  have after := tame.read console query isGood
  rwa [reply] at after

/-- What is kept of a reply meets the measure. -/
theorem Tame.kept [Console σ] {good : σ → Prop} (tame : Tame measure good) {console next : σ}
    {query : Console.Query} {value : Int} (isGood : good console)
    (reply : Console.read console query = (.ok value, next)) :
    measure.value (query.kept value) := by
  cases query with
  | char => exact tame.char console value next isGood reply
  | number => exact measure.word (inRange_wrap value)

/-- Every code point is a word. -/
theorem tame_streams (measure : Measure) : Tame measure fun _ : Streams => True where
  write := fun _ _ _ _ => trivial
  read := fun _ _ _ => trivial
  char := by
    intro streams value next _ reply
    simp only [Console.read, Streams.read] at reply
    split at reply
    · cases reply
    · rename_i point rest _
      cases reply
      have bound := point.isLt
      apply measure.word
      unfold InRange
      omega

/-- What is read from encoded streams is what is read from plain ones. -/
theorem tame_terminal (measure : Measure) : Tame measure fun _ : Terminal => True where
  write := fun _ _ _ _ => trivial
  read := fun _ _ _ => trivial
  char := by
    intro terminal value next _ reply
    obtain ⟨same, _⟩ := Prod.mk.inj reply
    exact (tame_streams measure).char terminal.streams value _ trivial (Prod.ext same rfl)

/-- A script may lay down any characters that are words, and any numbers. -/
theorem tame_script :
    Tame words fun script : Script => ∀ value, .ok value ∈ script.charReads → InRange value where
  write := by
    rintro script (value | value) words _ <;> exact words
  read := by
    rintro script (_ | _) words
    · exact fun value member => words value (List.mem_of_mem_tail member)
    · exact words
  char := by
    rintro ⟨_, _, _ | ⟨first, rest⟩, _, _⟩ value next words ⟨⟩
    exact words value List.mem_cons_self

/-- Consoles on whose records there is only what meets a measure. -/
def Kept (measure : Measure) (good : σ → Prop) (recorded : Recorded σ) : Prop :=
  good recorded.console ∧ ∀ output ∈ recorded.handed, measure.value output.value

theorem Tame.recorded [Console σ] {good : σ → Prop} (tame : Tame measure good) :
    Tame measure (Kept measure good) where
  write := by
    rintro recorded output ⟨isGood, before⟩ meets
    exact ⟨tame.write _ _ isGood meets, List.forall_mem_cons.mpr ⟨meets, before⟩⟩
  read := by
    rintro recorded query ⟨isGood, before⟩
    exact ⟨tame.read _ query isGood, before⟩
  char := by
    rintro recorded value next ⟨isGood, _⟩ reply
    exact tame.char _ value _ isGood (congrArg (Prod.map id Recorded.console) reply)

/-! ### The machine -/

/-- A machine whose values, on the stack and on the heap, and whose addresses meet a measure. -/
structure Meets (measure : Measure) (machine : Machine σ) : Prop where
  stack : ∀ value ∈ machine.stack, measure.value value
  heap : ∀ cell ∈ machine.heap.cells, measure.address cell.1 ∧ measure.value cell.2

/-- Such a machine that has a good console. -/
structure Guarded (measure : Measure) (good : σ → Prop) (machine : Machine σ) : Prop
    extends Meets measure machine where
  console : good machine.console

variable {good : σ → Prop} {machine : Machine σ}

theorem guarded_start {console : σ} (isGood : good console) :
    Guarded measure good (Machine.start console : Machine σ) where
  stack := nofun
  heap := nofun
  console := isGood

theorem Guarded.raise (guarded : Guarded measure good machine) (program : Program)
    (error : ExecutionError) : Guarded measure good (machine.raise program error) := by
  refine raise_cases (motive := Guarded measure good) (fun _ => ?_) fun _ => guarded
  unfold Machine.fail
  split
  · exact guarded
  · exact { guarded with }

theorem Guarded.stop (guarded : Guarded measure good machine) :
    Guarded measure good machine.stop := by
  unfold Machine.stop
  split
  · exact { guarded with }
  · exact guarded

/-- Less on the stack, and another good console. -/
theorem Guarded.shrink (guarded : Guarded measure good machine) {rest : List Int} {console : σ}
    (below : rest <:+ machine.stack) (isGood : good console) :
    Guarded measure good { machine with stack := rest, console := console } where
  stack := fun value member => guarded.stack value (below.mem member)
  heap := guarded.heap
  console := isGood

/-- A value more on the heap. -/
theorem Guarded.store (guarded : Guarded measure good machine) {address value : Int}
    (addressed : 0 ≤ address) (meetsToo : measure.value address) (meets : measure.value value) :
    Guarded measure good { machine with heap := Memory.store machine.heap address value } := by
  refine { guarded with heap := ?_ }
  intro cell member
  rcases Heap.mem_cells_store member with rfl | before
  · exact ⟨measure.place addressed meetsToo, meets⟩
  · exact guarded.heap cell before

/-- What an instruction leaves on the stack meets the measure. -/
theorem Guarded.meets_of_provides (guarded : Guarded measure good machine)
    {instruction : Instruction}
    (literal : instruction.operation = .push → measure.value instruction.argument) {value : Int}
    (origin : Provides machine instruction value) : measure.value value := by
  cases origin with
  | kept there => exact guarded.stack value there
  | pushed isPush => exact literal isPush
  | computed result => exact measure.word (inRange_wrap result)
  | fetched address =>
      show measure.value (machine.heap.fetch address)
      rcases fetch_cases machine.heap address with zero | there
      · rw [zero]
        exact measure.word (by decide)
      · exact (guarded.heap _ there).2

variable [Console σ] {program : Program}

/-- An outcome of an instruction whose literal meets the measure leaves a machine that does. -/
theorem Guarded.settle (tame : Tame measure good) {instruction : Instruction}
    (literal : instruction.operation = .push → measure.value instruction.argument)
    (guarded : Guarded measure good machine) {outcome : Outcome σ Heap}
    (performs : Performs machine instruction outcome) :
    Guarded measure good (outcome.settle program) := by
  cases performs with
  | refused => exact guarded.raise _ _
  | rearranged origin =>
      exact { guarded with
        stack := fun value member => guarded.meets_of_provides literal (origin value member) }
  | @stored value address rest top addressed =>
      have meets := guarded.stack value (top ▸ List.mem_cons_self)
      have meetsToo := guarded.stack address (top ▸ List.mem_cons_of_mem _ List.mem_cons_self)
      have below : rest <:+ machine.stack := ⟨[value, address], top.symm⟩
      exact (guarded.shrink below guarded.console).store addressed meetsToo meets
  | @misplaced value address rest top =>
      have below : rest <:+ machine.stack := ⟨[value, address], top.symm⟩
      exact (guarded.shrink below guarded.console).raise _ _
  | called | returned => exact { guarded with }
  | went _ below => exact { guarded.shrink below guarded.console with }
  | exited => exact guarded.stop
  | @wrote value _ output _ top hands reply =>
      have meets := guarded.stack value (top ▸ List.mem_cons_self)
      have isGood := tame.written guarded.console (hands ▸ meets) reply
      exact guarded.shrink ⟨[value], top.symm⟩ isGood
  | @unwritten value _ output _ _ top hands reply =>
      have meets := guarded.stack value (top ▸ List.mem_cons_self)
      have isGood := tame.written guarded.console (hands ▸ meets) reply
      exact (guarded.shrink ⟨[value], top.symm⟩ isGood).raise _ _
  | @read address _ _ _ _ top reply addressed =>
      have meetsToo := guarded.stack address (top ▸ List.mem_cons_self)
      have asked := guarded.shrink ⟨[address], top.symm⟩ (tame.asked guarded.console reply)
      exact asked.store addressed meetsToo (tame.kept guarded.console reply)
  | @readMisplaced address _ _ _ _ top reply =>
      exact (guarded.shrink ⟨[address], top.symm⟩ (tame.asked guarded.console reply)).raise _ _
  | @unread address _ _ _ _ top reply =>
      exact (guarded.shrink ⟨[address], top.symm⟩ (tame.asked guarded.console reply)).raise _ _

/-- A step of a program whose literals meet the measure leaves a machine that does. -/
theorem Guarded.step (tame : Tame measure good)
    (literals : ∀ instruction ∈ program.instructions, instruction.operation = .push →
      measure.value instruction.argument)
    (guarded : Guarded measure good machine) : Guarded measure good (machine.step program) := by
  apply step_cases
  · intro _
    exact guarded
  · intro _ _
    exact guarded.raise _ _
  · intro instruction outcome _ found performs
    have literal := literals instruction (Program.inside_of_fetch? found).2.2
    have advanced : Guarded measure good { machine with counter := machine.counter + 1 } :=
      { guarded with }
    exact advanced.settle tame literal performs

/-- So it is with any number of steps of a program. -/
theorem guarded_reached (tame : Tame measure good)
    (literals : ∀ instruction ∈ program.instructions, instruction.operation = .push →
      measure.value instruction.argument)
    {console : σ} (isGood : good console) (steps : Nat) :
    Guarded measure good (reached Heap program console steps) :=
  Function.Iterate.rec (Guarded measure good) (guarded_start isGood)
    (fun _ => Guarded.step tame literals) steps

/-! ### Runs -/

/-- The machine after some steps whose console was under observation. -/
def observed (program : Program) (console : σ) (steps : Nat) : Machine (Recorded σ) :=
  reached Heap program ⟨console, []⟩ steps

/-- All data of a run are words: those that the machine holds after some steps, and those that its
console has been handed by then. They are on the record of a run that takes the same course. -/
structure AllWords (program : Program) (console : σ) (steps : Nat) : Prop where
  held : Meets words (reached Heap program console steps)
  same : (observed program console steps).mapConsole Recorded.console =
    reached Heap program console steps
  handed : ∀ output ∈ (observed program console steps).console.handed, InRange output.value

theorem allWords (tame : Tame words good)
    (literals : ∀ instruction ∈ program.instructions, instruction.operation = .push →
      InRange instruction.argument)
    {console : σ} (isGood : good console) (steps : Nat) : AllWords program console steps := by
  have plain := guarded_reached tame literals isGood steps
  have kept : Kept words good ⟨console, []⟩ := ⟨isGood, List.forall_mem_nil _⟩
  have observed := guarded_reached tame.recorded literals kept steps
  have same := iterate_step_mapConsole Recorded.mirrors_console program steps
    (Machine.start ⟨console, []⟩ : Machine (Recorded σ))
  exact ⟨plain.toMeets, same.symm, observed.console.2⟩

/-- Of every source that loads, and after any number of steps, all data are words on streams with
any input, and on every console whose characters are words. -/
theorem data_inRange {source : Source} {program : Program} (loaded : source.load = .ok program) :
    (∀ input steps, AllWords program (Streams.ofInput input) steps) ∧
    ∀ {σ : Type} [Console σ] {good : σ → Prop}, Tame words good →
      ∀ console, good console → ∀ steps, AllWords program console steps := by
  have literals : ∀ instruction ∈ program.instructions, instruction.operation = .push →
      InRange instruction.argument := fun _ => inRange_of_push loaded
  constructor
  · intro input steps
    exact allWords (tame_streams words) literals trivial steps
  · intro σ _ good tame console isGood steps
    exact allWords tame literals isGood steps

/-- Reads a number, stores it, fetches it again, and writes it. -/
def echo : Source :=
  .whole (.bytes [0x20, 0x20, 0x20, 0x0A, 0x20, 0x0A, 0x20, 0x09, 0x0A, 0x09, 0x09, 0x09, 0x09,
    0x09, 0x09, 0x0A, 0x20, 0x09])

/-- The least number that is too large for a word comes back as the least word, whether it is read
from a text or from a script. -/
theorem data_inRange_echo :
    ∃ program, echo.load = .ok program ∧
      AllWords program (Streams.ofInput (Text.ofString "9223372036854775808")) 5 ∧
      AllWords program ({ numberReads := [.ok 0x8000000000000000] } : Script) 5 ∧
      (observed program (Streams.ofInput (Text.ofString "9223372036854775808")) 5).console.handed =
        [.number (-0x8000000000000000)] ∧
      (observed program ({ numberReads := [.ok 0x8000000000000000] } : Script) 5).console.handed =
        [.number (-0x8000000000000000)] := by
  have loaded : echo.load = .ok _ := rfl
  have ranges := data_inRange loaded
  refine ⟨_, rfl, ranges.1 _ 5, ranges.2 tame_script _ ?_ 5, ?_, ?_⟩
  · rintro value ⟨⟩
  · decide +kernel
  · decide +kernel

end BlankCode.WordRange

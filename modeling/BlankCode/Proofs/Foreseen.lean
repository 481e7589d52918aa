/-
Module: BlankCode.Proofs.Foreseen
Purpose: What can come of a source at all: its output, or one of fourteen kinds of failure. A source
  cannot spell a command that linking finds invalid, and linked code holds no invalid operation.
  With every mishap exposed nothing else comes of it, as long as its limit can be written.
Main exports: Failure.Foreseen, Linking.foreseen_of_link, Source.foreseen_of_load,
  foreseen_of_evaluate, Exposed.evaluate_foreseen
-/
import BlankCode.Proofs.Confinement
import BlankCode.Proofs.Grammar
import BlankCode.Proofs.Exposure.Loading
import BlankCode.Proofs.Exposure.Running
import BlankCode.Proofs.Limits

namespace BlankCode

/-- The failures that a source may end with. -/
inductive Failure.Foreseen : Failure → Prop where
  | unexpectedByte (byte : Int) (state reason : String) :
      Foreseen (.parse (.unexpectedByte byte state reason))
  | unexpectedEnd (during : String) : Foreseen (.parse (.unexpectedEnd during))
  | numberTooLarge : Foreseen (.parse .numberTooLarge)
  | duplicateLabel (label : String) (index previous : Int) :
      Foreseen (.link (.duplicateLabel label index previous))
  | labelPastEnd (label : String) : Foreseen (.link (.labelPastEnd label))
  | undefinedLabel (label : String) (position : Int) :
      Foreseen (.link (.undefinedLabel label position))
  | stackUnderflow : Foreseen (.execution .stackUnderflow)
  | negativeAddress (action : String) (address : Int) :
      Foreseen (.execution (.negativeAddress action address))
  | emptyCallStack : Foreseen (.execution .emptyCallStack)
  | counterOutOfRange (index : Int) : Foreseen (.execution (.counterOutOfRange index))
  | divisionByZero (operation : String) : Foreseen (.execution (.divisionByZero operation))
  | invalidArgument (complaint : String) : Foreseen (.execution (.invalidArgument complaint))
  | negativeCount (action : String) (count : Int) :
      Foreseen (.execution (.negativeCount action count))
  | console (message : String) (cause : Option String) :
      Foreseen (.execution (.console message cause))
  | stepLimit (steps : Int) : Foreseen (.execution (.stepLimit steps))

open Failure (Foreseen)

/-! ### Linking -/

/-- What is spelled is a command, and has an argument of the kind that it takes. -/
theorem Grammar.Spells.complaint? {command : Command} {piece : List Token}
    (spells : Spells command piece) (index : Nat) : command.complaint? index = none := by
  have isCommand {mnemonic : Mnemonic} {spelling : List Token}
      (spelled : mnemonic.spelling? = some spelling) : mnemonic.isCommand = true := by
    rw [← mnemonic.spelling?_isSome, spelled]
    rfl
  cases spells with
  | plain spelled takes | number spelled takes | label spelled takes =>
      simp [Command.complaint?, isCommand spelled, takes]

theorem Grammar.SpellsAll.complaint? {commands : List Command} {pieces : List (List Token)}
    (spells : SpellsAll commands pieces) :
    ∀ command ∈ commands, ∀ index, command.complaint? index = none := by
  intro command among
  obtain ⟨piece, spelled⟩ := spells.exists_piece command among
  exact spelled.complaint?

/-- The commands of a source can only be at odds with one another. -/
theorem Linking.foreseen_of_link {source : Source} {commands : List Command} {error : LinkError}
    (parsed : source.parse = .ok commands) (failed : link commands = .error error) :
    Foreseen (.link error) := by
  have read := (Source.parse_eq_ok_iff.mp parsed).2
  obtain ⟨pieces, spells, _⟩ := Grammar.exists_pieces_of_parse read
  cases links_of_link_error failed with
  | @faulty index _ fault =>
      obtain ⟨command, there, reason⟩ := fault.cases_complaint
      rcases reason with ⟨complaint, complained, _⟩ | ⟨_, label, previous, _, _, _, _, rfl⟩
      · have quiet := spells.complaint? command (List.mem_of_getElem? there) index
        rw [quiet] at complained
        cases complained
      · exact .duplicateLabel _ _ _
  | pastEnd => exact .labelPastEnd _
  | undefined => exact .undefinedLabel _ _

/-- What keeps a source that has bytes from being loaded is foreseen. -/
theorem Source.foreseen_of_load {source : Source} {defeat : Defeat} (given : source.refusal? = none)
    (failed : source.load = .error defeat) :
    ∃ failure, defeat = .failure failure ∧ Foreseen failure := by
  unfold Source.load at failed
  cases parsed : source.parse with
  | error error =>
      rw [parsed] at failed
      cases failed
      rcases Source.parse_error_cases parsed with refused | ⟨error, _, rfl⟩
      · cases given.symm.trans refused
      · refine ⟨_, rfl, ?_⟩
        cases error with
        | unexpectedByte => exact .unexpectedByte _ _ _
        | unexpectedEnd => exact .unexpectedEnd _
        | numberTooLarge => exact .numberTooLarge
  | ok commands =>
      rw [parsed] at failed
      dsimp only at failed
      cases linked : link commands with
      | error error =>
          rw [linked] at failed
          cases failed
          exact ⟨_, rfl, Linking.foreseen_of_link parsed linked⟩
      | ok program =>
          rw [linked] at failed
          cases failed

/-! ### Runs -/

theorem foreseen_of_ordinary {program : Program} {error : ExecutionError}
    (ordinary : Confinement.Ordinary program error) : Foreseen (.execution error) := by
  cases error with
  | invalidOperation => exact absurd rfl ordinary.valid
  | _ => constructor

/-- What the machine of a source comes to is its output, or foreseen. -/
theorem foreseen_of_verdict {program : Program} {last : Machine Streams} {limit : Option Int}
    {defeat : Defeat} (writable : ∀ steps ∈ limit, Numeral.isWritable steps = true)
    (confined : Confinement.Confined program last)
    (ended : limit = none → last.isRunning = false) (failed : last.verdict limit = .error defeat) :
    ∃ failure, defeat = .failure failure ∧ Foreseen failure := by
  cases goesOn : last.isRunning with
  | true =>
      cases limit with
      | none => exact absurd (ended rfl) (by simp [goesOn])
      | some steps =>
          rw [Limits.verdict_of_running goesOn,
            Limits.defeat_stepLimit (writable steps rfl)] at failed
          cases failed
          exact ⟨_, rfl, .stepLimit steps⟩
  | false =>
      unfold Machine.verdict Machine.Ran.defeat? at failed
      cases status : last.status with
      | running => exact absurd status (Machine.isRunning_eq_false_iff.mp goesOn)
      | stopped =>
          rw [status] at failed
          cases failed
      | failed failure =>
          rw [status] at failed
          cases failed
          obtain ⟨error, rfl, ordinary⟩ :=
            confined.failure failure (Machine.failure?_eq_some_iff.mpr status)
          exact ⟨_, rfl, foreseen_of_ordinary ordinary⟩

/-- What keeps a source that has bytes from coming to its output is foreseen, if the limit can be
written. -/
theorem foreseen_of_evaluate {source : Source} {input : Text} {limit : Option Int} {tried : Nat}
    {defeat : Defeat} (given : source.refusal? = none)
    (writable : ∀ steps ∈ limit, Numeral.isWritable steps = true)
    (failed : evaluate source input limit tried = some (.error defeat)) :
    ∃ failure, defeat = .failure failure ∧ Foreseen failure := by
  cases loaded : source.load with
  | error _ =>
      rw [Limits.evaluate_of_unloaded loaded] at failed
      cases failed
      exact Source.foreseen_of_load given loaded
  | ok program =>
      obtain ⟨commands, _, linked⟩ := Linking.exists_link_of_load loaded
      have enclosed := Confinement.enclosed_of_link linked
      let first : Machine Streams := Machine.start (Streams.ofInput input)
      let last := first.runFor program ((limit.map Int.toNat).getD tried)
      have confined : Confinement.Confined program last := by
        simp only [last, Machine.runFor_eq_iterate]
        exact Function.Iterate.rec (Confinement.Confined program)
          (Confinement.confined_start program _) (fun _ => Confinement.Confined.step enclosed) _
      rw [Limits.evaluate_of_load loaded] at failed
      dsimp only at failed
      split at failed
      · cases failed
      · rename_i ends
        have ended (unlimited : limit = none) : last.isRunning = false := by
          simpa [last, first, unlimited] using ends
        exact foreseen_of_verdict writable confined ended (Option.some.inj failed)

namespace Exposed

/-- With every mishap exposed a source comes to what it comes to anyway. -/
theorem evaluate_eq (source : Source) (input : Text) (limit : Option Int) (tried : Nat) :
    evaluate source input limit tried =
      (BlankCode.evaluate source input limit tried).map (·.mapError .ofDefeat) := by
  rw [evaluate, BlankCode.evaluate, load_eq]
  cases source.load with
  | error failure => rfl
  | ok program =>
      let first : Machine Streams := Machine.start (Streams.ofInput input)
      have unfailed : first.failure? = none := rfl
      have ran := run_loop program ((limit.map Int.toNat).getD tried) unfailed
      dsimp only [Except.mapError]
      rw [Machine.run_eq, ran]
      generalize first.loop program ((limit.map Int.toNat).getD tried) = ran
      rcases ran with ⟨last, _ | _⟩ <;> cases limit <;> cases status : last.status <;>
        simp [settled, Machine.failure?, Machine.Ran.defeat?, Machine.Ran.goesOn,
          Machine.isRunning, status, Trouble.ofDefeat]

/-- Whatever the source, if it has bytes, the input and the limit, if it can be written: what comes
of it, if anything does, is its output or a foreseen failure, and no mishap. Nor does exposing the
mishaps ever change what comes of a source. -/
theorem evaluate_foreseen (source : Source) (input : Text) (limit : Option Int) (tried : Nat) :
    evaluate source input limit tried =
      (BlankCode.evaluate source input limit tried).map (·.mapError .ofDefeat) ∧
    (source.refusal? = none → (∀ steps ∈ limit, Numeral.isWritable steps = true) →
      ∀ result, evaluate source input limit tried = some result →
        (∃ output, result = .ok output) ∨
          ∃ failure, result = .error (.failure failure) ∧ Foreseen failure) := by
  refine ⟨evaluate_eq source input limit tried, ?_⟩
  intro given writable result ends
  rw [evaluate_eq] at ends
  obtain ⟨plain, evaluated, rfl⟩ := Option.map_eq_some_iff.mp ends
  cases plain with
  | ok output => exact Or.inl ⟨output, rfl⟩
  | error defeat =>
      obtain ⟨failure, rfl, foreseen⟩ := foreseen_of_evaluate given writable evaluated
      exact Or.inr ⟨failure, rfl, foreseen⟩

/-- Writes the character of a number that is none. -/
def unprintable : Source :=
  .whole (.bytes [0x20, 0x20, 0x09, 0x09, 0x0A, 0x09, 0x0A, 0x20, 0x20])

/-- What is raised behind the console comes out as a failure of the console. -/
theorem evaluate_foreseen_unprintable :
    ∃ failure, evaluate unprintable [] (some 2) 0 = some (.error (.failure failure)) ∧
      Foreseen failure ∧
      failure.message = "ValueError: chr() arg not in range(0x110000)" := by
  have writable : ∀ steps ∈ some (2 : Int), Numeral.isWritable steps = true := by
    rintro _ ⟨⟩
    decide +kernel
  have evaluated : evaluate unprintable [] (some 2) 0 = some (.error (.failure (.execution
      (.console "ValueError: chr() arg not in range(0x110000)" (some "ValueError"))))) := by
    decide +kernel
  obtain ⟨_, ended⟩ | ⟨failure, same, foreseen⟩ :=
    (evaluate_foreseen unprintable [] (some 2) 0).2 rfl writable _ evaluated
  · cases ended
  · cases same
    exact ⟨_, evaluated, foreseen, rfl⟩

/-- A limit that has too many digits to be reported as too low is a mishap, even where the program
only exits. -/
theorem evaluate_overlong :
    evaluate (.whole (.bytes [0x0A, 0x0A, 0x0A])) [] (some Numeral.overlong) 0 =
      some (.error (.mishap (.raised "ValueError" (Numeral.limitText "")))) := by
  have loaded : Source.load (.whole (.bytes [0x0A, 0x0A, 0x0A])) =
      .ok (.ofInstructions [⟨.exit, 0⟩]) := rfl
  have came := Limits.evaluate_of_overlong loaded [] 0
  rw [evaluate_eq, came]
  rfl

end Exposed

end BlankCode

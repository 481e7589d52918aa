/-
Module: BlankCode.Proofs.Streaming
Purpose: What becomes of the two texts of a console when it is called. A query takes one character
  or one line off the front of the text to be read, an accepted output is put behind the text
  written, and nothing else of either text changes, in however many steps of a machine.
Main exports: Console.Query.Takes, splitLine_append, splitLine_append_of_mem, takes_splitLine,
  Streams.read_takes, Streams.write_refused, Streams.write_accepted, Streams.Continues,
  Machine.continues_step, Machine.continues_iterate, Machine.continues_of_le
-/
import BlankCode.Console.Streams
import BlankCode.Proofs.Performance
import Mathlib.Data.List.Infix
import Mathlib.Data.List.TakeDrop
import Mathlib.Data.List.TakeWhile

namespace BlankCode

/-- What a query takes off a text, and what it leaves of it: nothing is taken at the end, else one
character, or one line with the line feed that ends it. A line that none ends goes to the end. -/
inductive Console.Query.Takes : Console.Query → Text → Text → Prop where
  | nothing (query : Console.Query) : Takes query [] []
  | char (point : CodePoint) (after : Text) : Takes .char [point] after
  | line {body : Text} (unbroken : CodePoint.lineFeed ∉ body) (after : Text) :
      Takes .number (body ++ [CodePoint.lineFeed]) after
  | lastLine {body : Text} (unbroken : CodePoint.lineFeed ∉ body) (some : body ≠ []) :
      Takes .number body []

/-- A line is over at its first line feed, whatever follows it. -/
theorem splitLine_append {body : Text} (unbroken : CodePoint.lineFeed ∉ body) (after : Text) :
    splitLine (body ++ CodePoint.lineFeed :: after) = (body ++ [CodePoint.lineFeed], after) := by
  have others : ∀ point ∈ body, decide (point ≠ CodePoint.lineFeed) = true := by
    intro point member
    exact decide_eq_true fun isEnding => unbroken (isEnding ▸ member)
  rw [splitLine, List.span_eq_takeWhile_dropWhile, List.takeWhile_append_of_pos others,
    List.dropWhile_append_of_pos others]
  simp

/-- So a text that a line feed is in may go on, and its first line is the same. -/
theorem splitLine_append_of_mem {text : Text} (ends : CodePoint.lineFeed ∈ text)
    (following : Text) :
    splitLine (text ++ following) = ((splitLine text).1, (splitLine text).2 ++ following) := by
  obtain ⟨body, after, rfl, unbroken⟩ := List.eq_append_cons_of_mem ends
  rw [List.append_assoc, List.cons_append, splitLine_append unbroken, splitLine_append unbroken]

/-- Splitting off a line takes a line. -/
theorem takes_splitLine (text : Text) :
    Console.Query.Takes .number (splitLine text).1 (splitLine text).2 ∧
      (splitLine text).1 ++ (splitLine text).2 = text := by
  have parts := List.takeWhile_append_dropWhile (p := (· ≠ CodePoint.lineFeed)) (l := text)
  have unbroken : CodePoint.lineFeed ∉ text.takeWhile (· ≠ CodePoint.lineFeed) := by
    intro member
    simpa using List.mem_takeWhile_imp member
  rw [splitLine, List.span_eq_takeWhile_dropWhile]
  cases rest : text.dropWhile (· ≠ CodePoint.lineFeed) with
  | nil =>
      rw [rest, List.append_nil] at parts
      dsimp only
      rw [parts] at unbroken ⊢
      refine ⟨?_, List.append_nil text⟩
      cases text with
      | nil => exact .nothing .number
      | cons point others => exact .lastLine unbroken (List.cons_ne_nil _ _)
  | cons ending after =>
      have isEnding : ending = CodePoint.lineFeed := by
        have stops := List.head?_dropWhile_not (· ≠ CodePoint.lineFeed) text
        rw [rest] at stops
        simpa using stops
      subst isEnding
      refine ⟨.line unbroken after, ?_⟩
      dsimp only
      rw [List.append_assoc, List.singleton_append, ← rest, parts]

namespace Streams

variable {streams next : Streams}

/-- A query takes what it takes off the text to be read, whatever the reply is. -/
theorem read_takes {query : Console.Query} {reply : Except Console.Fault Int}
    (asked : Console.read streams query = (reply, next)) :
    next.written = streams.written ∧
      ∃ taken, streams.unread = taken ++ next.unread ∧ query.Takes taken next.unread := by
  rcases streams with ⟨unread, written⟩
  cases query with
  | char =>
      cases unread with
      | nil =>
          cases asked
          exact ⟨rfl, [], rfl, .nothing .char⟩
      | cons point rest =>
          cases asked
          exact ⟨rfl, [point], rfl, .char point rest⟩
  | number =>
      cases unread with
      | nil =>
          cases asked
          exact ⟨rfl, [], rfl, .nothing .number⟩
      | cons point rest =>
          obtain ⟨takes, whole⟩ := takes_splitLine (point :: rest)
          obtain ⟨-, rfl⟩ := Prod.mk.inj asked
          exact ⟨rfl, _, whole.symm, takes⟩

/-- An output that is refused changes neither text. -/
theorem write_refused {output : Console.Output} {fault : Console.Fault}
    (handed : Console.write streams output = (.error fault, next)) : next = streams := by
  simp only [Console.write, write] at handed
  cases output with
  | char value =>
      dsimp only at handed
      split at handed <;> cases handed
      rfl
  | number value =>
      dsimp only at handed
      split at handed <;> cases handed
      rfl

/-- An output that is accepted is put behind the text written. -/
theorem write_accepted {output : Console.Output}
    (handed : Console.write streams output = (.ok (), next)) : ∃ text, next = streams.append text := by
  simp only [Console.write, write] at handed
  cases output with
  | char value =>
      dsimp only at handed
      split at handed
      · exact ⟨_, (Prod.mk.inj handed).2.symm⟩
      · cases (Prod.mk.inj handed).1
  | number value =>
      dsimp only at handed
      split at handed
      · exact ⟨_, (Prod.mk.inj handed).2.symm⟩
      · cases (Prod.mk.inj handed).1

/-- What calls leave of two texts: nothing of what is read is put back, and nothing of what is
written is taken back. -/
structure Continues (before after : Streams) : Prop where
  unread : after.unread <:+ before.unread
  output : before.output <+: after.output

@[refl] theorem Continues.refl (streams : Streams) : streams.Continues streams where
  unread := List.suffix_rfl
  output := List.prefix_rfl

@[trans] theorem Continues.trans {first second third : Streams} (early : first.Continues second)
    (late : second.Continues third) : first.Continues third where
  unread := late.unread.trans early.unread
  output := early.output.trans late.output

theorem continues_read {query : Console.Query} {reply : Except Console.Fault Int}
    (asked : Console.read streams query = (reply, next)) : streams.Continues next := by
  obtain ⟨written, taken, whole, _⟩ := read_takes asked
  constructor
  · exact ⟨taken, whole.symm⟩
  · rw [output, output, written]

theorem continues_write {output : Console.Output} {reply : Except Console.Fault Unit}
    (handed : Console.write streams output = (reply, next)) : streams.Continues next := by
  cases reply with
  | error fault => rw [write_refused handed]
  | ok =>
      obtain ⟨text, rfl⟩ := write_accepted handed
      constructor
      · exact List.suffix_rfl
      · exact ⟨text, by simp [Streams.output, append]⟩

end Streams

namespace Machine

variable {μ : Type} [Memory μ]

/-- So it is with every step. -/
theorem continues_step (program : Program) (machine : Machine Streams μ) :
    machine.console.Continues (machine.step program).console := by
  apply console_step
  · exact .refl machine.console
  · exact Streams.continues_write
  · exact Streams.continues_read

/-- And with any number of steps. -/
theorem continues_iterate (program : Program) (steps : Nat) (machine : Machine Streams μ) :
    machine.console.Continues ((step program)^[steps] machine).console := by
  induction steps with
  | zero => exact .refl machine.console
  | succ steps ih =>
      rw [Function.iterate_succ_apply']
      exact ih.trans (continues_step program _)

theorem continues_of_le (program : Program) (machine : Machine Streams μ) {earlier later : Nat}
    (inOrder : earlier ≤ later) :
    ((step program)^[earlier] machine).console.Continues
      ((step program)^[later] machine).console := by
  obtain ⟨more, rfl⟩ := Nat.exists_eq_add_of_le inOrder
  rw [Nat.add_comm, Function.iterate_add_apply]
  exact continues_iterate program more _

end Machine

end BlankCode

/-
Module: BlankCode.Proofs.Readback
Purpose: What is written can be read back. Characters and numbers share one text with nothing but a
  line feed behind each number, and yet a reader that asks for what was handed over, in its order,
  gets every value again: a number is one line, whatever stands before and after it.
Main exports: Console.Output.query, Console.Output.Legible, Console.handAll, Console.askAll,
  Streams.write_legible, Streams.read_text, Readback.askAll_handAll
-/
import BlankCode.Proofs.Decimal
import BlankCode.Proofs.Performance
import BlankCode.Proofs.Streaming

namespace BlankCode

namespace Console

/-- The query that asks for what an output hands over. -/
def Output.query : Output → Query
  | .char _ => .char
  | .number _ => .number

/-- The outputs that can be read back: code points, be they surrogates or line ends, and words. -/
def Output.Legible : Output → Prop
  | .char value => 0 ≤ value ∧ value ≤ 0x10FFFF
  | .number value => Word.InRange value

instance : DecidablePred Output.Legible
  | .char _ => inferInstanceAs (Decidable (_ ∧ _))
  | .number value => inferInstanceAs (Decidable (Word.InRange value))

/-- What streams write for an output. -/
def Output.text : Output → Text
  | .char value => (CodePoint.ofInt? value).toList
  | .number value => Numeral.text value ++ [CodePoint.lineFeed]

variable {σ : Type} [Console σ]

/-- Hands outputs to a console one after the other, until one is not accepted. -/
def handAll (console : σ) : List Output → Except Fault Unit × σ
  | [] => (.ok (), console)
  | output :: rest =>
    match write console output with
    | (.ok (), next) => handAll next rest
    | (.error fault, next) => (.error fault, next)

/-- Asks a console one query after the other, until one is not replied to. -/
def askAll (console : σ) : List Query → Except Fault (List Int) × σ
  | [] => (.ok [], console)
  | query :: rest =>
    match read console query with
    | (.ok value, next) => Prod.map (Except.map (value :: ·)) id (askAll next rest)
    | (.error fault, next) => (.error fault, next)

end Console

/-- A character that can be read back is a code point. -/
theorem CodePoint.exists_of_legible {value : Int} (legible : (Console.Output.char value).Legible) :
    ∃ point, CodePoint.ofInt? value = some point ∧ (point.val : Int) = value := by
  have range : 0 ≤ value ∧ value < 0x110000 := ⟨legible.1, Int.lt_add_one_of_le legible.2⟩
  exact ⟨_, dif_pos range, Int.toNat_of_nonneg range.1⟩

/-- A line feed ends a number, and is in none. -/
theorem Numeral.lineFeed_not_mem_text (value : Int) : CodePoint.lineFeed ∉ text value := by
  intro member
  have solid := isBlank_of_mem_text member
  cases solid

namespace Streams

/-- No output that can be read back is refused, and its text is what is written for it. -/
theorem write_legible (streams : Streams) {output : Console.Output} (legible : output.Legible) :
    Console.write streams output = (.ok (), streams.append output.text) := by
  cases output with
  | char value =>
      obtain ⟨point, isPoint, _⟩ := CodePoint.exists_of_legible legible
      simp only [Console.write, write, Console.Output.text, isPoint]
      rfl
  | number value =>
      have writable := Numeral.isWritable_of_inRange legible
      simp only [Console.write, write, writable, if_true]
      rfl

/-- What was written for an output is read as its value, whatever follows. All of it is taken, and
nothing of what follows. -/
theorem read_text {output : Console.Output} (legible : output.Legible) (rest written : Text) :
    Console.read ⟨output.text ++ rest, written⟩ output.query =
      (.ok output.value, (⟨rest, written⟩ : Streams)) := by
  cases output with
  | char value =>
      obtain ⟨point, isPoint, same⟩ := CodePoint.exists_of_legible legible
      simp only [Console.Output.text, isPoint]
      exact congrArg (fun reply => (Except.ok reply, _)) same
  | number value =>
      have line : splitLine (Numeral.text value ++ [CodePoint.lineFeed] ++ rest) =
          (Numeral.text value ++ [CodePoint.lineFeed], rest) := by
        rw [List.append_assoc]
        exact splitLine_append (Numeral.lineFeed_not_mem_text value) rest
      have trimmed : (Numeral.text value ++ [CodePoint.lineFeed]).trim CodePoint.isBlank =
          Numeral.text value := by
        apply Text.trim_append fun point member => Numeral.isBlank_of_mem_text member
        intro point member
        rw [List.mem_singleton.mp member]
        rfl
      have replied := Numeral.read_text value
      rw [Numeral.isWritable_of_inRange legible, if_pos rfl] at replied
      -- there is a line, so that this is not the end
      obtain ⟨point, others, unread⟩ : ∃ point others,
          Numeral.text value ++ [CodePoint.lineFeed] ++ rest = point :: others :=
        List.exists_cons_of_ne_nil (by simp)
      rw [unread] at line
      simp only [Console.read, Console.Output.query, Console.Output.text, unread, read, line,
        trimmed, replied]
      rfl

end Streams

namespace Readback

open Console

/-- Outputs that can be read back are all accepted, and their texts are written in their order. -/
theorem handAll_legible {items : List Output} (legible : ∀ item ∈ items, item.Legible)
    (streams : Streams) :
    handAll streams items = (.ok (), streams.append (items.flatMap Output.text)) := by
  induction items generalizing streams with
  | nil => rfl
  | cons item rest ih =>
      obtain ⟨first, others⟩ := List.forall_mem_cons.mp legible
      rw [handAll, Streams.write_legible streams first]
      dsimp only
      rw [ih others]
      simp [Streams.append]

/-- From the texts of outputs their values are read, and nothing is left. -/
theorem askAll_texts {items : List Output} (legible : ∀ item ∈ items, item.Legible)
    (written : Text) :
    askAll (⟨items.flatMap Output.text, written⟩ : Streams) (items.map Output.query) =
      (.ok (items.map Output.value), ⟨[], written⟩) := by
  induction items with
  | nil => rfl
  | cons item rest ih =>
      obtain ⟨first, others⟩ := List.forall_mem_cons.mp legible
      rw [List.map_cons, List.flatMap_cons, askAll, Streams.read_text first]
      dsimp only
      rw [ih others]
      rfl

/-- What is written can be read back: characters and numbers in any order, each of them any code
point or any word, are accepted by a fresh console, and one that is given what was written replies
with the same values to the same order of queries, and has nothing left to be read. -/
theorem askAll_handAll (input : Text) (items : List Output)
    (legible : ∀ item ∈ items, item.Legible) :
    ∃ written, handAll (Streams.ofInput input) items = (.ok (), written) ∧
      askAll (Streams.ofInput written.output) (items.map Output.query) =
        (.ok (items.map Output.value), Streams.ofInput []) := by
  refine ⟨_, handAll_legible legible _, ?_⟩
  have output : ((Streams.ofInput input).append (items.flatMap Output.text)).output =
      items.flatMap Output.text := by
    simp [Streams.output, Streams.append, Streams.ofInput]
  rw [output]
  exact askAll_texts legible []

/-- A digit in front of the least number, a line feed behind it, a surrogate and the halves of a
line end around zero, and the greatest number at the end. -/
theorem askAll_handAll_mixed :
    ∃ written,
      handAll (Streams.ofInput [])
          [.char 53, .number (-0x8000000000000000), .char 10, .char 0xD800, .char 13, .number 0,
            .char 10, .number 0x7FFFFFFFFFFFFFFF] = (.ok (), written) ∧
        askAll (Streams.ofInput written.output)
            [.char, .number, .char, .char, .char, .number, .char, .number] =
          (.ok [53, -0x8000000000000000, 10, 0xD800, 13, 0, 10, 0x7FFFFFFFFFFFFFFF],
            Streams.ofInput []) :=
  askAll_handAll []
    [.char 53, .number (-0x8000000000000000), .char 10, .char 0xD800, .char 13, .number 0,
      .char 10, .number 0x7FFFFFFFFFFFFFFF]
    (by decide)

end Readback

end BlankCode

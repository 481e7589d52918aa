/-
Module: BlankCode.Proofs.Concatenation
Purpose: Sources one behind the other. A source that is a program ends between two commands, so
  that what stands behind it is read as if it stood alone. Linking takes two lists of commands
  apart, too, as long as no label is marked in both: the code of the second stands behind that of
  the first, and only its jumps have to be told that it does.
Main exports: Reading.behind, Reading.after_append_of_parse, Instruction.relocate, Linking.Apart,
  Linking.sound_append, Linking.Compiles.relocate, Linking.Links.append,
  Concatenation.sources_append
-/
import BlankCode.Proofs.Linker
import BlankCode.Proofs.Performance

namespace BlankCode

/-! ### Reading -/

namespace Reading

/-- A reading whose commands stand behind others. -/
def behind (earlier : List Command) (reading : Reading) : Reading :=
  { reading with completed := reading.completed ++ earlier.reverse }

@[simp] theorem commands_behind (earlier : List Command) (reading : Reading) :
    (reading.behind earlier).commands = earlier ++ reading.commands := by
  simp [behind, commands]

@[simp] theorem error?_behind (earlier : List Command) (reading : Reading) :
    (reading.behind earlier).error? = reading.error? := rfl

/-- What is read next does not depend on the commands read before. -/
theorem feed_behind (earlier : List Command) (reading : Reading) (value : Int) :
    (reading.behind earlier).feed value = (reading.feed value).behind earlier := by
  rcases reading with ⟨completed, error | mode⟩
  · rfl
  · simp only [behind, feed_ok]
    cases mode.feed value <;> rfl

theorem feedAll_behind (earlier : List Command) (values : List Int) :
    ∀ reading : Reading,
      (reading.behind earlier).feedAll values = (reading.feedAll values).behind earlier := by
  induction values with
  | nil =>
      intro reading
      rfl
  | cons value rest ih =>
      intro reading
      rw [feedAll_cons, feedAll_cons, feed_behind, ih]

/-- What stands behind a program is read as if it stood alone. -/
theorem after_append_of_parse {first : List Int} {commands : List Command}
    (parsed : parse first = .ok commands) (second : List Int) :
    after (first ++ second) = (after second).behind commands := by
  obtain ⟨between, same⟩ := parse_eq_ok_iff.mp parsed
  have stands : after first = Reading.behind commands {} := by
    generalize after first = reading at between same
    rcases reading with ⟨completed, position⟩
    cases between
    simp [behind, ← same, Reading.commands]
  rw [after_append, stands, feedAll_behind]
  rfl

/-- A program that stands behind a program makes one with it. -/
theorem parse_append {first second : List Int} {commands others : List Command}
    (parsed : parse first = .ok commands) (parsedToo : parse second = .ok others) :
    parse (first ++ second) = .ok (commands ++ others) := by
  obtain ⟨between, rfl⟩ := parse_eq_ok_iff.mp parsedToo
  rw [parse_eq_ok_iff, after_append_of_parse parsed, commands_behind]
  exact ⟨between, rfl⟩

end Reading

/-- The tokens of bytes one behind the other. -/
theorem Source.values_append (first second : List UInt8) :
    (Source.whole (.bytes (first ++ second))).values =
      (Source.whole (.bytes first)).values ++ (Source.whole (.bytes second)).values := by
  simp [Source.values, Source.tokens]

/-! ### Linking -/

/-- An instruction in code that stands a number of instructions further on: where it goes is further
on by as many. -/
def Instruction.relocate (offset : Nat) (instruction : Instruction) : Instruction :=
  if instruction.operation.isJump then
    { instruction with argument := instruction.argument + offset }
  else instruction

namespace Linking

variable {left right : List Command}

/-- No label is marked in both of two lists. -/
def Apart (left right : List Command) : Prop :=
  ∀ index other label, Marks left index label → ¬ Marks right other label

/-- The commands of the second list stand behind those of the first. -/
theorem getElem?_append_length_add (offset : Nat) :
    (left ++ right)[left.length + offset]? = right[offset]? := by
  rw [List.getElem?_append_right (Nat.le_add_right _ _), Nat.add_sub_cancel_left]

theorem marks_length_add_iff {offset : Nat} {label : Label} :
    Marks (left ++ right) (left.length + offset) label ↔ Marks right offset label := by
  rw [Marks, Marks, getElem?_append_length_add]

/-- A label that is marked in two lists together is marked in one of them. -/
theorem marks_append_cases {index : Nat} {label : Label}
    (marks : Marks (left ++ right) index label) :
    Marks left index label ∨ ∃ offset, index = left.length + offset ∧ Marks right offset label := by
  rcases Nat.lt_or_ge index left.length with within | behind
  · exact Or.inl ((marks_append_iff within).mp marks)
  · obtain ⟨offset, rfl⟩ := Nat.exists_eq_add_of_le behind
    exact Or.inr ⟨offset, rfl, marks_length_add_iff.mp marks⟩

/-- Marks of the second list lead behind the instructions of the first. -/
theorem address_length_add (offset : Nat) :
    address (left ++ right) (left.length + offset) = (body left).length + address right offset := by
  unfold address
  rw [List.take_length_add_append, body_append, List.length_append]

/-- Two lists without error that mark different labels have none together. -/
theorem sound_append (apart : Apart left right) (sound : Sound left) (soundToo : Sound right) :
    Sound (left ++ right) := by
  intro index error fault
  rcases Nat.lt_or_ge index left.length with within | behind
  · exact sound index error ((faulty_append_iff within).mp fault)
  · obtain ⟨offset, rfl⟩ := Nat.exists_eq_add_of_le behind
    have same : (left ++ right)[left.length + offset]? = right[offset]? :=
      getElem?_append_length_add offset
    -- the message counts from the first list, so the error alone is not the one of the second
    cases fault with
    | placeholder there noCommand =>
        exact soundToo offset _ (.placeholder (same.symm.trans there) noCommand)
    | number there takes lacks =>
        exact soundToo offset _ (.number (same.symm.trans there) takes lacks)
    | label there takes lacks =>
        exact soundToo offset _ (.label (same.symm.trans there) takes lacks)
    | duplicate marks before marked =>
        have marksRight := marks_length_add_iff.mp marks
        rcases marks_append_cases marked with isLeft | ⟨previous, rfl, isRight⟩
        · exact apart _ _ _ isLeft marksRight
        · obtain ⟨error, fault⟩ := faulty_of_marks marksRight (by omega) isRight
          exact soundToo offset error fault

/-- A mark that dangles at the end of both lists dangles in its own. -/
theorem dangles_append {index : Nat} (dangles : Dangles (left ++ right) index) :
    Dangles left index ∨ ∃ offset, Dangles right offset := by
  obtain ⟨⟨label, marks⟩, onlyMarks⟩ := dangles
  rcases marks_append_cases marks with isLeft | ⟨offset, rfl, isRight⟩
  · refine Or.inl ⟨⟨label, isLeft⟩, ?_⟩
    intro later command behind there
    apply onlyMarks later command behind
    rw [List.getElem?_append_left (List.getElem?_eq_some_iff.mp there).1, there]
  · refine Or.inr ⟨offset, ⟨label, isRight⟩, ?_⟩
    intro later command behind there
    apply onlyMarks (left.length + later) command (by omega)
    rw [getElem?_append_length_add, there]

/-- A reference is one of its own list. -/
theorem refers_append {position : Nat} {label : Label}
    (refers : Refers (left ++ right) position label) :
    Refers left position label ∨ ∃ offset, Refers right offset label := by
  obtain ⟨mnemonic, isReference, there⟩ := refers
  rw [body_append] at there
  rcases Nat.lt_or_ge position (body left).length with within | behind
  · rw [List.getElem?_append_left within] at there
    exact Or.inl ⟨mnemonic, isReference, there⟩
  · rw [List.getElem?_append_right behind] at there
    exact Or.inr ⟨_, mnemonic, isReference, there⟩

/-- More commands behind a list do not change what its commands become. -/
theorem Compiles.append {command : Command} {instruction : Instruction}
    (compiles : Compiles left command instruction) :
    Compiles (left ++ right) command instruction := by
  cases compiles with
  | number takes => exact .number takes
  | plain takes => exact .plain takes
  | reference refers marks =>
      rw [← marks.address_append right]
      exact .reference refers (marks_append marks)

/-- More commands before a list move the instructions that its commands become. -/
theorem Compiles.relocate {command : Command} {instruction : Instruction}
    (compiles : Compiles right command instruction) :
    Compiles (left ++ right) command (instruction.relocate (body left).length) := by
  unfold Instruction.relocate
  rw [compiles.operation_eq, Mnemonic.isJump_operation]
  cases compiles with
  | number takes =>
      rw [if_neg (by simp [Mnemonic.refersToLabel_iff, takes])]
      exact .number takes
  | plain takes =>
      rw [if_neg (by simp [Mnemonic.refersToLabel_iff, takes])]
      exact .plain takes
  | @reference mnemonic label index refers marks =>
      have leads : ((address right index : Nat) : Int) + (body left).length =
          (address (left ++ right) (left.length + index) : Nat) := by
        rw [address_length_add]
        omega
      rw [if_pos refers, leads]
      exact .reference refers (marks_length_add_iff.mpr marks)

/-- What two lists that mark different labels become together is what they become alone, one behind
the other. -/
theorem Links.append (apart : Apart left right) {instructions others : List Instruction}
    (links : Links left (.ok instructions)) (linksToo : Links right (.ok others)) :
    Links (left ++ right)
      (.ok (instructions ++ others.map (Instruction.relocate instructions.length))) := by
  cases links with
  | linked sound noneDangles defined compiled =>
      cases linksToo with
      | linked soundToo noneDanglesToo definedToo compiledToo =>
          refine .linked (sound_append apart sound soundToo) ?_ ?_ ?_
          · intro index dangles
            rcases dangles_append dangles with isLeft | ⟨offset, isRight⟩
            · exact noneDangles index isLeft
            · exact noneDanglesToo offset isRight
          · intro position label refers
            rcases refers_append refers with isLeft | ⟨offset, isRight⟩
            · obtain ⟨index, marks⟩ := defined position label isLeft
              exact ⟨index, marks_append marks⟩
            · obtain ⟨index, marks⟩ := definedToo offset label isRight
              exact ⟨left.length + index, marks_length_add_iff.mpr marks⟩
          · rw [body_append, ← compiled.length_eq]
            apply List.rel_append
            · exact compiled.imp fun _ _ => Compiles.append
            · exact List.forall₂_map_right_iff.mpr (compiledToo.imp fun _ _ => Compiles.relocate)

/-- Two lists that can be linked and mark different labels can be linked together. -/
theorem exists_link_append (apart : Apart left right) {program other : Program}
    (linked : link left = .ok program) (linkedToo : link right = .ok other) :
    ∃ joined, link (left ++ right) = .ok joined ∧
      joined.instructions =
        program.instructions ++ other.instructions.map (Instruction.relocate program.size) := by
  exact exists_link_of_links ((links_of_link linked).append apart (links_of_link linkedToo))

end Linking

namespace Concatenation

open Linking

/-- What stands behind a source that is a program is read as if it stood alone, to the same error if
it comes to one. If it is a program, too, both can be linked, and no label is marked in both, then
they can be linked together, and the code of the second stands behind that of the first with its
calls and jumps moved on by the number of instructions there. -/
theorem sources_append {first : List UInt8} {commands : List Command}
    (parsed : Source.parse (.whole (.bytes first)) = .ok commands) (second : List UInt8) :
    ((Reading.after (Source.whole (.bytes (first ++ second))).values).commands =
        commands ++ (Reading.after (Source.whole (.bytes second)).values).commands ∧
      (Reading.after (Source.whole (.bytes (first ++ second))).values).error? =
        (Reading.after (Source.whole (.bytes second)).values).error?) ∧
    ∀ others program other, Source.parse (.whole (.bytes second)) = .ok others →
      link commands = .ok program → link others = .ok other → Apart commands others →
        Source.parse (.whole (.bytes (first ++ second))) = .ok (commands ++ others) ∧
        ∃ joined, link (commands ++ others) = .ok joined ∧
          joined.instructions =
            program.instructions ++ other.instructions.map (Instruction.relocate program.size) := by
  have read := (Source.parse_eq_ok_iff.mp parsed).2
  constructor
  · rw [Source.values_append, Reading.after_append_of_parse read]
    exact ⟨Reading.commands_behind _ _, Reading.error?_behind _ _⟩
  · intro others program other parsedToo linked linkedToo apart
    refine ⟨Source.parse_eq_ok_iff.mpr ⟨rfl, ?_⟩, exists_link_append apart linked linkedToo⟩
    rw [Source.values_append]
    exact Reading.parse_append read (Source.parse_eq_ok_iff.mp parsedToo).2

/-- Pushes ones for good. -/
def endless : List UInt8 :=
  [0x0A, 0x20, 0x20, 0x09, 0x0A, 0x20, 0x20, 0x20, 0x09, 0x0A, 0x0A, 0x20, 0x0A, 0x09, 0x0A]

/-- Jumps to its exit. -/
def leaving : List UInt8 :=
  [0x0A, 0x20, 0x0A, 0x20, 0x0A, 0x0A, 0x20, 0x20, 0x20, 0x0A, 0x0A, 0x0A, 0x0A]

/-- The jump backward stays where it goes, and the jump forward goes as far behind the first source
as it went before. -/
theorem sources_append_endless :
    ∃ commands others program other joined,
      Source.parse (.whole (.bytes endless)) = .ok commands ∧
      Source.parse (.whole (.bytes leaving)) = .ok others ∧
      link commands = .ok program ∧ program.instructions = [⟨.push, 1⟩, ⟨.jump, 0⟩] ∧
      link others = .ok other ∧ other.instructions = [⟨.jump, 1⟩, ⟨.exit, 0⟩] ∧
      Apart commands others ∧
      Source.parse (.whole (.bytes (endless ++ leaving))) = .ok (commands ++ others) ∧
      link (commands ++ others) = .ok joined ∧
      joined.instructions = [⟨.push, 1⟩, ⟨.jump, 0⟩, ⟨.jump, 3⟩, ⟨.exit, 0⟩] := by
  have parsed : Source.parse (.whole (.bytes endless)) =
      .ok [⟨.mark, .label [0x09]⟩, ⟨.push, .integer 1⟩, ⟨.jump, .label [0x09]⟩] := rfl
  have parsedToo : Source.parse (.whole (.bytes leaving)) =
      .ok [⟨.jump, .label [0x20]⟩, ⟨.mark, .label [0x20]⟩, ⟨.exit, .absent⟩] := rfl
  have apart : Apart [⟨.mark, .label [0x09]⟩, ⟨.push, .integer 1⟩, ⟨.jump, .label [0x09]⟩]
      [⟨.jump, .label [0x20]⟩, ⟨.mark, .label [0x20]⟩, ⟨.exit, .absent⟩] := by
    intro index other label marks marksToo
    have isTab : label = [0x09] := by simpa using List.mem_of_getElem? marks
    have isSpace : label = [0x20] := by simpa using List.mem_of_getElem? marksToo
    rw [isTab] at isSpace
    cases isSpace
  obtain ⟨joint, joined, linked, code⟩ :=
    (sources_append parsed leaving).2 _ _ _ parsedToo rfl rfl apart
  exact ⟨_, _, _, _, joined, parsed, parsedToo, rfl, rfl, rfl, rfl, apart, joint, linked, code⟩

end Concatenation

end BlankCode

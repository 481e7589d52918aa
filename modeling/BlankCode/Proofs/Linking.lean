/-
Module: BlankCode.Proofs.Linking
Purpose: What linking amounts to, stated by conditions on the list of commands as a whole: which
  commands are in error, which marks nothing follows, which references lead nowhere, and what each
  command becomes. Of all results at most one meets the conditions.
Main exports: Linking.body, Linking.address, Linking.Faulty, Linking.Sound, Linking.Compiles,
  Linking.Links, Linking.marks_unique, Linking.Links.unique
-/
import BlankCode.Program
import Mathlib.Data.List.Forall2
import Mathlib.Data.List.Induction
import Mathlib.Data.Nat.Find

namespace BlankCode.Linking

/-! ### Commands, marks and references -/

/-- The commands that become instructions: all but the marks. -/
def body (commands : List Command) : List Command :=
  commands.filter (·.mnemonic ≠ .mark)

/-- Where a mark at an index leads: the number of instructions before it. -/
def address (commands : List Command) (index : Nat) : Nat :=
  (body (commands.take index)).length

/-- The command at an index marks a label. -/
def Marks (commands : List Command) (index : Nat) (label : Label) : Prop :=
  commands[index]? = some ⟨.mark, .label label⟩

/-- The instruction at a position refers to a label. -/
def Refers (commands : List Command) (position : Nat) (label : Label) : Prop :=
  ∃ mnemonic : Mnemonic, mnemonic.refersToLabel = true ∧
    (body commands)[position]? = some ⟨mnemonic, .label label⟩

/-- A mark that no instruction follows. -/
def Dangles (commands : List Command) (index : Nat) : Prop :=
  (∃ label, Marks commands index label) ∧
    ∀ later command, index < later → commands[later]? = some command → command.mnemonic = .mark

/-- The error of a command that has an argument of another kind than expected. -/
def unsuited (index : Nat) (expected : String) (command : Command) : LinkError :=
  .invalidCommand
    ("index " ++ toString index ++ ": expected " ++ expected ++ " argument for " ++
      command.mnemonic.title ++ ", got " ++ command.argument.kind)

/-- The errors of single commands. A mark is in error when an earlier one has its label, and the
first of the earlier ones is named. -/
inductive Faulty (commands : List Command) (index : Nat) : LinkError → Prop where
  | placeholder {command : Command} (there : commands[index]? = some command)
      (noCommand : command.mnemonic = .absent ∨ command.mnemonic = .count) :
      Faulty commands index (.invalidCommand
        ("index " ++ toString index ++ ": invalid command: " ++ command.mnemonic.title))
  | number {command : Command} (there : commands[index]? = some command)
      (takes : command.mnemonic.parameter = .number)
      (lacks : ∀ value, command.argument ≠ .integer value) :
      Faulty commands index (unsuited index "int" command)
  | label {command : Command} (there : commands[index]? = some command)
      (takes : command.mnemonic.parameter = .label)
      (lacks : ∀ label, command.argument ≠ .label label) :
      Faulty commands index (unsuited index "bytes" command)
  | duplicate {label : Label} {previous : Nat} (marks : Marks commands index label)
      (before : previous < index) (marked : Marks commands previous label)
      (first : ∀ earlier < previous, ¬ Marks commands earlier label) :
      Faulty commands index (.duplicateLabel label.letters index previous)

/-- No command is in error. -/
def Sound (commands : List Command) : Prop :=
  ∀ index error, ¬ Faulty commands index error

/-- The instruction that a command becomes: its operation beside the number that it takes, the
address of the mark of its label, or zero. -/
inductive Compiles (commands : List Command) : Command → Instruction → Prop where
  | number {mnemonic : Mnemonic} {value : Int} (takes : mnemonic.parameter = .number) :
      Compiles commands ⟨mnemonic, .integer value⟩ ⟨mnemonic.operation, value⟩
  | reference {mnemonic : Mnemonic} {label : Label} {index : Nat}
      (refers : mnemonic.refersToLabel = true) (marks : Marks commands index label) :
      Compiles commands ⟨mnemonic, .label label⟩ ⟨mnemonic.operation, address commands index⟩
  | plain {mnemonic : Mnemonic} {argument : Argument} (takes : mnemonic.parameter = .nothing) :
      Compiles commands ⟨mnemonic, argument⟩ ⟨mnemonic.operation, 0⟩

/-- What linking amounts to. Each rule asks that no rule above it applies. -/
inductive Links (commands : List Command) : Except LinkError (List Instruction) → Prop where
  | faulty {index : Nat} {error : LinkError} (fault : Faulty commands index error)
      (first : ∀ earlier < index, ∀ other, ¬ Faulty commands earlier other) :
      Links commands (.error error)
  | pastEnd {index last : Nat} {label : Label} (sound : Sound commands)
      (dangles : Dangles commands index) (marks : Marks commands last label)
      (latest : ∀ later other, last < later → ¬ Marks commands later other) :
      Links commands (.error (.labelPastEnd label.letters))
  | undefined {position : Nat} {label : Label} (sound : Sound commands)
      (noneDangles : ∀ index, ¬ Dangles commands index)
      (refers : Refers commands position label) (nowhere : ∀ index, ¬ Marks commands index label)
      (first : ∀ earlier < position, ∀ other, Refers commands earlier other →
        ∃ index, Marks commands index other) :
      Links commands (.error (.undefinedLabel label.letters position))
  | linked {instructions : List Instruction} (sound : Sound commands)
      (noneDangles : ∀ index, ¬ Dangles commands index)
      (defined : ∀ position label, Refers commands position label →
        ∃ index, Marks commands index label)
      (compiled : List.Forall₂ (Compiles commands) (body commands) instructions) :
      Links commands (.ok instructions)

/-! ### Positions in a list that grows -/

@[simp] theorem body_append (left right : List Command) :
    body (left ++ right) = body left ++ body right :=
  List.filter_append left right

theorem body_mark {command : Command} (isMark : command.mnemonic = .mark) : body [command] = [] := by
  simp [body, isMark]

theorem body_other {command : Command} (other : command.mnemonic ≠ .mark) :
    body [command] = [command] := by
  simp [body, other]

theorem address_append {left right : List Command} {index : Nat} (within : index ≤ left.length) :
    address (left ++ right) index = address left index := by
  unfold address
  rw [List.take_append_of_le_length within]

theorem address_length (commands : List Command) :
    address commands commands.length = (body commands).length := by
  unfold address
  rw [List.take_length]

/-- The instruction of a command stands at the address of the command. -/
theorem body_getElem?_address {commands : List Command} {index : Nat} {command : Command}
    (there : commands[index]? = some command) (other : command.mnemonic ≠ .mark) :
    (body commands)[address commands index]? = some command := by
  have within : index < commands.length := (List.getElem?_eq_some_iff.mp there).1
  have split : commands = commands.take index ++ ([command] ++ commands.drop (index + 1)) := by
    have head : commands[index] = command := (List.getElem?_eq_some_iff.mp there).2
    rw [List.singleton_append, ← head, ← List.drop_eq_getElem_cons within, List.take_append_drop]
  have parts : body commands =
      body (commands.take index) ++ ([command] ++ body (commands.drop (index + 1))) := by
    conv => lhs; rw [split]
    rw [body_append, body_append, body_other other]
  rw [parts]
  simp [address]

/-- The address behind a command that is no mark is the next one. -/
theorem address_succ {commands : List Command} {index : Nat} {command : Command}
    (there : commands[index]? = some command) (other : command.mnemonic ≠ .mark) :
    address commands (index + 1) = address commands index + 1 := by
  unfold address
  rw [List.take_add_one, there, Option.toList_some, body_append, body_other other,
    List.length_append, List.length_singleton]

/-- What stands later has no fewer instructions before it. -/
theorem address_mono (commands : List Command) {earlier later : Nat} (before : earlier ≤ later) :
    address commands earlier ≤ address commands later := by
  have part : commands.take earlier <+: commands.take later := List.take_prefix_take_left before
  exact (part.filter _).length_le

theorem Marks.lt {commands : List Command} {index : Nat} {label : Label}
    (marks : Marks commands index label) : index < commands.length :=
  (List.getElem?_eq_some_iff.mp marks).1

theorem marks_append {left right : List Command} {index : Nat} {label : Label}
    (marks : Marks left index label) : Marks (left ++ right) index label := by
  unfold Marks
  rw [List.getElem?_append_left marks.lt]
  exact marks

/-- More commands behind a mark do not change where it leads. -/
theorem Marks.address_append {left : List Command} {index : Nat} {label : Label}
    (marks : Marks left index label) (right : List Command) :
    address (left ++ right) index = address left index :=
  Linking.address_append (Nat.le_of_lt marks.lt)

/-- What stands in a list with one more entry stood there before, or is that entry. -/
theorem getElem?_snoc_iff {front : List Command} {last command : Command} {index : Nat} :
    (front ++ [last])[index]? = some command ↔
      front[index]? = some command ∨ index = front.length ∧ last = command := by
  rcases Nat.lt_trichotomy index front.length with before | rfl | behind
  · rw [List.getElem?_append_left before]
    simp [Nat.ne_of_lt before]
  · simp
  · rw [List.getElem?_eq_none (by simp; omega), List.getElem?_eq_none (by omega)]
    simp [Nat.ne_of_gt behind]

/-- What becomes an instruction stands among the commands where the instruction's address says. -/
theorem exists_address {commands : List Command} {position : Nat} {command : Command}
    (there : (body commands)[position]? = some command) :
    ∃ index, commands[index]? = some command ∧ address commands index = position := by
  induction commands using List.reverseRecOn with
  | nil => cases there
  | append_singleton front last ih =>
      rw [body_append] at there
      have inFront (isThere : (body front)[position]? = some command) :
          ∃ index, (front ++ [last])[index]? = some command ∧
            address (front ++ [last]) index = position := by
        obtain ⟨index, isBefore, leads⟩ := ih isThere
        have within := (List.getElem?_eq_some_iff.mp isBefore).1
        refine ⟨index, getElem?_snoc_iff.mpr (Or.inl isBefore), ?_⟩
        rw [address_append (Nat.le_of_lt within), leads]
      by_cases isMark : last.mnemonic = .mark
      · rw [body_mark isMark, List.append_nil] at there
        exact inFront there
      · rw [body_other isMark] at there
        rcases getElem?_snoc_iff.mp there with isBefore | ⟨rfl, rfl⟩
        · exact inFront isBefore
        · refine ⟨front.length, List.getElem?_concat_length, ?_⟩
          rw [address_append (Nat.le_refl _), address_length]

/-- A label marked after one more command was marked before it or is marked by it. -/
theorem marks_snoc_iff {commands : List Command} {command : Command} {index : Nat}
    {label : Label} :
    Marks (commands ++ [command]) index label ↔
      Marks commands index label ∨
        index = commands.length ∧ command = ⟨.mark, .label label⟩ :=
  getElem?_snoc_iff

theorem marks_append_iff {left right : List Command} {index : Nat} {label : Label}
    (within : index < left.length) :
    Marks (left ++ right) index label ↔ Marks left index label := by
  unfold Marks
  rw [List.getElem?_append_left within]

/-! ### Errors of single commands -/

/-- Whether a command is in error depends on the commands up to it alone. -/
theorem faulty_append_iff {left right : List Command} {index : Nat} {error : LinkError}
    (within : index < left.length) :
    Faulty (left ++ right) index error ↔ Faulty left index error := by
  have same : (left ++ right)[index]? = left[index]? := List.getElem?_append_left within
  constructor
  · intro fault
    cases fault with
    | placeholder there noCommand => exact .placeholder (same ▸ there) noCommand
    | number there takes lacks => exact .number (same ▸ there) takes lacks
    | label there takes lacks => exact .label (same ▸ there) takes lacks
    | duplicate marks before marked first =>
        have known := Nat.lt_trans before within
        refine .duplicate ((marks_append_iff within).mp marks) before
          ((marks_append_iff known).mp marked) ?_
        intro earlier earlierBefore isMark
        exact first earlier earlierBefore (marks_append isMark)
  · intro fault
    cases fault with
    | placeholder there noCommand => exact .placeholder (same.trans there) noCommand
    | number there takes lacks => exact .number (same.trans there) takes lacks
    | label there takes lacks => exact .label (same.trans there) takes lacks
    | duplicate marks before marked first =>
        have known := Nat.lt_trans before within
        refine .duplicate (marks_append marks) before (marks_append marked) ?_
        intro earlier earlierBefore isMark
        exact first earlier earlierBefore
          ((marks_append_iff (Nat.lt_trans earlierBefore known)).mp isMark)

/-- The complaint about a command is its error. -/
theorem faulty_of_complaint {commands : List Command} {index : Nat} {command : Command}
    {complaint : String} (there : commands[index]? = some command)
    (complained : command.complaint? index = some complaint) :
    Faulty commands index (.invalidCommand complaint) := by
  unfold Command.complaint? at complained
  split at complained
  · rename_i noCommand
    cases complained
    exact .placeholder there (Mnemonic.isCommand_eq_false_iff.mp (by simpa using noCommand))
  · split at complained
    · cases complained
    · cases complained
    · rename_i takes lacks
      cases complained
      exact .number there takes fun value given => lacks value given
    · cases complained
    · rename_i takes lacks
      cases complained
      exact .label there takes fun label given => lacks label given

/-- A command that is in error is complained of, or it marks what is marked already. -/
theorem Faulty.cases_complaint {commands : List Command} {index : Nat} {error : LinkError}
    (fault : Faulty commands index error) :
    ∃ command, commands[index]? = some command ∧
      ((∃ complaint, command.complaint? index = some complaint ∧
          error = .invalidCommand complaint) ∨
        (command.complaint? index = none ∧ ∃ label previous,
          command = ⟨.mark, .label label⟩ ∧ previous < index ∧ Marks commands previous label ∧
          (∀ earlier < previous, ¬ Marks commands earlier label) ∧
          error = .duplicateLabel label.letters index previous)) := by
  cases fault with
  | @placeholder command there noCommand =>
      have absent := Mnemonic.isCommand_eq_false_iff.mpr noCommand
      exact ⟨command, there, Or.inl ⟨_, by simp [Command.complaint?, absent], rfl⟩⟩
  | @number command there takes lacks =>
      refine ⟨command, there, Or.inl ⟨_, ?_, rfl⟩⟩
      have isCommand : command.mnemonic.isCommand = true :=
        Mnemonic.isCommand_of_takes (by simp [takes])
      rcases command with ⟨mnemonic, argument⟩
      cases argument <;> simp_all [Command.complaint?]
  | @label command there takes lacks =>
      refine ⟨command, there, Or.inl ⟨_, ?_, rfl⟩⟩
      have isCommand : command.mnemonic.isCommand = true :=
        Mnemonic.isCommand_of_takes (by simp [takes])
      rcases command with ⟨mnemonic, argument⟩
      cases argument <;> simp_all [Command.complaint?]
  | @duplicate label previous marks before marked first =>
      exact ⟨_, marks, Or.inr ⟨rfl, label, previous, rfl, before, marked, first, rfl⟩⟩

/-- A command has one error at most. -/
theorem Faulty.functional {commands : List Command} {index : Nat} {error other : LinkError}
    (fault : Faulty commands index error) (otherFault : Faulty commands index other) :
    error = other := by
  obtain ⟨command, there, reason⟩ := fault.cases_complaint
  obtain ⟨_, same, otherReason⟩ := otherFault.cases_complaint
  obtain rfl := Option.some.inj (there.symm.trans same)
  rcases reason with ⟨complaint, complained, rfl⟩ |
    ⟨quiet, label, previous, rfl, _, marked, first, rfl⟩
  · rcases otherReason with ⟨_, otherwise, rfl⟩ | ⟨quiet, _⟩
    · rw [Option.some.inj (complained.symm.trans otherwise)]
    · rw [quiet] at complained
      cases complained
  · rcases otherReason with ⟨_, complained, rfl⟩ |
      ⟨_, _, otherPrevious, sameMark, _, otherMarked, otherFirst, rfl⟩
    · rw [quiet] at complained
      cases complained
    · cases sameMark
      rcases Nat.lt_trichotomy previous otherPrevious with before | rfl | behind
      · exact absurd marked (otherFirst previous before)
      · rfl
      · exact absurd otherMarked (first otherPrevious behind)

/-- A label that is marked twice is an error of the later mark. -/
theorem faulty_of_marks {commands : List Command} {index previous : Nat} {label : Label}
    (marks : Marks commands index label) (before : previous < index)
    (marked : Marks commands previous label) : ∃ error, Faulty commands index error := by
  classical
  have some : ∃ earlier, Marks commands earlier label := ⟨previous, marked⟩
  have least := Nat.lt_of_le_of_lt (Nat.find_min' some marked) before
  exact ⟨_, .duplicate marks least (Nat.find_spec some) fun earlier isLess =>
    Nat.find_min some isLess⟩

/-- Without errors a label is marked once. -/
theorem marks_unique {commands : List Command} (sound : Sound commands) {left right : Nat}
    {label : Label} (marks : Marks commands left label) (marksToo : Marks commands right label) :
    left = right := by
  rcases Nat.lt_trichotomy left right with before | same | behind
  · obtain ⟨error, fault⟩ := faulty_of_marks marksToo before marks
    exact absurd fault (sound right error)
  · exact same
  · obtain ⟨error, fault⟩ := faulty_of_marks marks behind marksToo
    exact absurd fault (sound left error)

/-! ### Dangling marks and references -/

/-- A mark dangles when it leads to the end of the code. -/
theorem Marks.dangles_iff {commands : List Command} {index : Nat} {label : Label}
    (marks : Marks commands index label) :
    Dangles commands index ↔ (body commands).length ≤ address commands index := by
  have split : body commands = body (commands.take index) ++ body (commands.drop index) := by
    rw [← body_append, List.take_append_drop]
  have ends : (body commands).length ≤ address commands index ↔
      body (commands.drop index) = [] := by
    rw [split, List.length_append, ← List.length_eq_zero_iff]
    unfold address
    omega
  rw [ends]
  constructor
  · rintro ⟨_, onlyMarks⟩
    apply List.filter_eq_nil_iff.mpr
    intro command member
    obtain ⟨offset, there⟩ := List.mem_iff_getElem?.mp member
    rw [List.getElem?_drop] at there
    rcases Nat.eq_zero_or_pos offset with rfl | positive
    · rw [Nat.add_zero, marks] at there
      cases there
      simp
    · simp [onlyMarks (index + offset) command (by omega) there]
  · intro nothing
    refine ⟨⟨label, marks⟩, ?_⟩
    intro later command behind there
    have member : command ∈ commands.drop index := by
      refine List.mem_iff_getElem?.mpr ⟨later - index, ?_⟩
      rw [List.getElem?_drop, ← there]
      congr 1
      omega
    simpa using List.filter_eq_nil_iff.mp nothing command member

theorem refers_iff {commands : List Command} {position : Nat} {label : Label} :
    Refers commands position label ↔
      ∃ command, (body commands)[position]? = some command ∧
        command.refersTo? = some label := by
  constructor
  · rintro ⟨mnemonic, refers, there⟩
    exact ⟨_, there, Command.refersTo?_eq_some_iff.mpr ⟨refers, rfl⟩⟩
  · rintro ⟨⟨mnemonic, argument⟩, there, refers⟩
    obtain ⟨doesRefer, rfl⟩ := Command.refersTo?_eq_some_iff.mp refers
    exact ⟨mnemonic, doesRefer, there⟩

/-- A command that refers to a label becomes its operation beside an address. -/
theorem compiles_reference {commands : List Command} {command : Command} {label : Label}
    {index : Nat} (refers : command.refersTo? = some label) (marks : Marks commands index label) :
    Compiles commands command ⟨command.mnemonic.operation, address commands index⟩ := by
  rcases command with ⟨mnemonic, argument⟩
  obtain ⟨doesRefer, given⟩ := Command.refersTo?_eq_some_iff.mp refers
  obtain rfl := given
  exact .reference doesRefer marks

/-- A command that is not in error and refers to no label becomes its operation beside its
operand. -/
theorem compiles_operand {commands : List Command} {command : Command} (sound : Sound commands)
    (member : command ∈ commands) (other : command.mnemonic ≠ .mark)
    (noReference : command.refersTo? = none) :
    Compiles commands command ⟨command.mnemonic.operation, command.operand⟩ := by
  obtain ⟨index, there⟩ := List.mem_iff_getElem?.mp member
  cases takes : command.mnemonic.parameter with
  | nothing =>
      have zero : command.operand = 0 := by
        simp [Command.operand, takes]
      rw [zero]
      exact .plain takes
  | number =>
      by_cases given : ∃ value, command.argument = .integer value
      · obtain ⟨value, given⟩ := given
        have number : command.operand = value := by
          simp [Command.operand, takes, given]
        rw [number, show command = ⟨command.mnemonic, .integer value⟩ by rw [← given]]
        exact .number takes
      · refine absurd (Faulty.number there takes ?_) (sound index _)
        intro value isGiven
        exact given ⟨value, isGiven⟩
  | label =>
      refine absurd (Faulty.label there takes ?_) (sound index _)
      intro label given
      have refers := Mnemonic.refersToLabel_iff.mpr ⟨takes, other⟩
      rw [Command.refersTo?_eq_some_iff.mpr ⟨refers, given⟩] at noReference
      cases noReference

/-! ### At most one result -/

/-- Two commands' instructions agree when the labels are marked once. -/
theorem Compiles.functional {commands : List Command} (sound : Sound commands)
    {command : Command} {left right : Instruction} (compiles : Compiles commands command left)
    (compilesToo : Compiles commands command right) : left = right := by
  cases compiles with
  | number takes =>
      cases compilesToo with
      | number => rfl
      | plain takesNothing =>
          rw [takes] at takesNothing
          cases takesNothing
  | reference refers marks =>
      cases compilesToo with
      | reference _ marksToo => rw [marks_unique sound marks marksToo]
      | plain takesNothing =>
          rw [(Mnemonic.refersToLabel_iff.mp refers).1] at takesNothing
          cases takesNothing
  | plain takesNothing =>
      cases compilesToo with
      | number takes =>
          rw [takes] at takesNothing
          cases takesNothing
      | reference refers =>
          rw [(Mnemonic.refersToLabel_iff.mp refers).1] at takesNothing
          cases takesNothing
      | plain => rfl

/-- An instruction has the operation of the command that it comes from. -/
theorem Compiles.operation_eq {commands : List Command} {command : Command}
    {instruction : Instruction} (compiles : Compiles commands command instruction) :
    instruction.operation = command.mnemonic.operation := by
  cases compiles <;> rfl

/-- Every instruction is what some command becomes. -/
theorem exists_compiles {commands selected : List Command} {instructions : List Instruction}
    (compiled : List.Forall₂ (Compiles commands) selected instructions) {instruction : Instruction}
    (member : instruction ∈ instructions) :
    ∃ command ∈ selected, Compiles commands command instruction := by
  induction compiled with
  | nil => cases member
  | @cons command _ _ _ compiles _ ih =>
      rcases List.mem_cons.mp member with rfl | inRest
      · exact ⟨command, List.mem_cons_self, compiles⟩
      · obtain ⟨other, there, compiles⟩ := ih inRest
        exact ⟨other, List.mem_cons_of_mem _ there, compiles⟩

/-- The instruction at a position is what the command becomes whose address the position is. -/
theorem exists_compiles_at {commands : List Command} {instructions : List Instruction}
    (compiled : List.Forall₂ (Compiles commands) (body commands) instructions) {position : Nat}
    {instruction : Instruction} (found : instructions[position]? = some instruction) :
    ∃ index command, commands[index]? = some command ∧ command.mnemonic ≠ .mark ∧
      address commands index = position ∧ Compiles commands command instruction := by
  obtain ⟨sameLength, pairs⟩ := List.forall₂_iff_get.mp compiled
  obtain ⟨within, rfl⟩ := List.getElem?_eq_some_iff.mp found
  have there := List.getElem?_eq_getElem (sameLength ▸ within)
  obtain ⟨index, isThere, leads⟩ := exists_address there
  have member := List.mem_filter.mp (List.mem_of_getElem? there)
  refine ⟨index, _, isThere, ?_, leads, pairs position (sameLength ▸ within) within⟩
  simpa using member.2

/-- Of what linking may come to there is one thing at most. -/
theorem Links.unique {commands : List Command} {left right : Except LinkError (List Instruction)}
    (links : Links commands left) (linksToo : Links commands right) : left = right := by
  cases links with
  | @faulty index error fault first =>
      cases linksToo with
      | @faulty other _ faultToo firstToo =>
          rcases Nat.lt_trichotomy index other with before | rfl | behind
          · exact absurd fault (firstToo index before error)
          · rw [fault.functional faultToo]
          · exact absurd faultToo (first other behind _)
      | pastEnd sound | undefined sound | linked sound => exact absurd fault (sound index error)
  | @pastEnd index last label sound dangles marks latest =>
      cases linksToo with
      | faulty fault => exact absurd fault (sound _ _)
      | @pastEnd _ other _ _ _ marksToo latestToo =>
          rcases Nat.lt_trichotomy last other with before | rfl | behind
          · exact absurd marksToo (latest other _ before)
          · cases marks.symm.trans marksToo
            rfl
          · exact absurd marks (latestToo last _ behind)
      | undefined _ noneDangles | linked _ noneDangles => exact absurd dangles (noneDangles index)
  | @undefined position label sound noneDangles refers nowhere first =>
      cases linksToo with
      | faulty fault => exact absurd fault (sound _ _)
      | pastEnd _ dangles => exact absurd dangles (noneDangles _)
      | @undefined other _ _ _ refersToo nowhereToo firstToo =>
          rcases Nat.lt_trichotomy position other with before | rfl | behind
          · obtain ⟨index, marks⟩ := firstToo position before label refers
            exact absurd marks (nowhere index)
          · obtain ⟨_, _, there⟩ := refers
            obtain ⟨_, _, thereToo⟩ := refersToo
            cases there.symm.trans thereToo
            rfl
          · obtain ⟨index, marks⟩ := first other behind _ refersToo
            exact absurd marks (nowhereToo index)
      | linked _ _ defined =>
          obtain ⟨index, marks⟩ := defined position label refers
          exact absurd marks (nowhere index)
  | @linked instructions sound noneDangles defined compiled =>
      cases linksToo with
      | faulty fault => exact absurd fault (sound _ _)
      | pastEnd _ dangles => exact absurd dangles (noneDangles _)
      | undefined _ _ refers nowhere =>
          obtain ⟨index, marks⟩ := defined _ _ refers
          exact absurd marks (nowhere index)
      | linked _ _ _ compiledToo =>
          have same : Relator.RightUnique (Compiles commands) := fun _ _ _ =>
            Compiles.functional sound
          rw [same.forall₂ compiled compiledToo]

end BlankCode.Linking

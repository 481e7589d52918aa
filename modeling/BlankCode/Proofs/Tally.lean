/-
Module: BlankCode.Proofs.Tally
Purpose: The counts that go with linked code. Every command is a mark or becomes an instruction,
  each mark has a label of its own, and the references that had to wait for their address are those
  that stand before the mark of their label.
Main exports: Linking.markCount, Linking.forwardReferences, Linking.Enters,
  Linking.adds_of_enterAll, Linking.tally_of_link
-/
import BlankCode.Proofs.Linker

namespace BlankCode.Linking

/-- The number of marks. -/
def markCount (commands : List Command) : Nat :=
  commands.countP (·.mnemonic = .mark)

/-- Whether one of some commands marks a label. -/
def isMarkedBy (label : Label) (commands : List Command) : Bool :=
  commands.any (·.marks? = some label)

/-- Whether a command refers to a label that is marked behind it. -/
def refersAhead (command : Command) (rest : List Command) : Bool :=
  command.refersTo?.any (isMarkedBy · rest)

/-- The number of references that stand before the mark of their label. -/
def forwardReferences : List Command → Nat
  | [] => 0
  | command :: rest => (refersAhead command rest).toNat + forwardReferences rest

@[simp] theorem isMarkedBy_nil (label : Label) : isMarkedBy label [] = false := rfl

@[simp] theorem isMarkedBy_cons (label : Label) (command : Command) (rest : List Command) :
    isMarkedBy label (command :: rest) =
      (decide (command.marks? = some label) || isMarkedBy label rest) := rfl

theorem markCount_cons_mark (label : Label) (rest : List Command) :
    markCount (⟨.mark, .label label⟩ :: rest) = markCount rest + 1 :=
  List.countP_cons_of_pos (by simp)

theorem markCount_cons_other {command : Command} (other : command.mnemonic ≠ .mark)
    (rest : List Command) : markCount (command :: rest) = markCount rest :=
  List.countP_cons_of_neg (by simp [other])

/-- A reference is no mark. -/
theorem ne_mark_of_refersTo? {command : Command} {label : Label}
    (refers : command.refersTo? = some label) : command.mnemonic ≠ .mark := by
  intro isMark
  have doesRefer := (Command.refersTo?_eq_some_iff.mp refers).1
  rw [isMark] at doesRefer
  cases doesRefer

/-- Only a mark marks. -/
theorem marks?_ne_some {command : Command} (other : command.mnemonic ≠ .mark) (label : Label) :
    command.marks? ≠ some label := by
  intro marked
  rw [Command.marks?_eq_some_iff.mp marked] at other
  exact other rfl

/-- What taking in a command comes to, unless it is in error: its label is noted, or its instruction
is put behind the code, with a note if the address is not known yet. -/
inductive Enters (linker : Linker) (index : Nat) (command : Command) : Linker → Prop where
  | marked {label : Label} (isMark : command = ⟨.mark, .label label⟩)
      (isNew : linker.find? label = none) :
      Enters linker index command
        { linker with definitions := ⟨label, linker.code.size, index⟩ :: linker.definitions }
  | settled (argument : Int) (other : command.mnemonic ≠ .mark)
      (isKnown : ∀ label, command.refersTo? = some label → linker.find? label ≠ none) :
      Enters linker index command (linker.emit command.mnemonic.operation argument)
  | waiting {label : Label} (refers : command.refersTo? = some label)
      (isUnknown : linker.find? label = none) :
      Enters linker index command
        { linker.emit command.mnemonic.operation 0 with
          fixUps := ⟨linker.code.size, label⟩ :: linker.fixUps }

theorem enters_of_enter {linker next : Linker} {index : Nat} {command : Command}
    (entered : linker.enter index command = .ok next) : Enters linker index command next := by
  unfold Linker.enter at entered
  cases quiet : command.complaint? index with
  | some complaint =>
      rw [quiet] at entered
      cases entered
  | none =>
      rw [quiet] at entered
      dsimp only at entered
      cases marked : command.marks? with
      | some label =>
          rw [marked] at entered
          dsimp only at entered
          cases known : linker.find? label with
          | some previous =>
              rw [known] at entered
              cases entered
          | none =>
              rw [known] at entered
              cases entered
              exact .marked (Command.marks?_eq_some_iff.mp marked) known
      | none =>
          have other := (Command.marks?_eq_none_iff quiet).mp marked
          rw [marked] at entered
          cases refers : command.refersTo? with
          | none =>
              rw [refers] at entered
              cases entered
              apply Enters.settled _ other
              rw [refers]
              exact nofun
          | some label =>
              rw [refers] at entered
              dsimp only at entered
              cases known : linker.find? label with
              | some definition =>
                  rw [known] at entered
                  cases entered
                  apply Enters.settled _ other
                  intro same isSame
                  rw [refers] at isSame
                  cases isSame
                  rw [known]
                  exact nofun
              | none =>
                  rw [known] at entered
                  cases entered
                  exact .waiting refers known

/-- Taking in commands takes in the first and then the others. -/
theorem enters_of_enterAll {linker final : Linker} {index : Nat} {command : Command}
    {rest : List Command} (entered : linker.enterAll index (command :: rest) = .ok final) :
    ∃ next, Enters linker index command next ∧ next.enterAll (index + 1) rest = .ok final := by
  rw [Linker.enterAll] at entered
  cases first : linker.enter index command with
  | error error =>
      rw [first] at entered
      cases entered
  | ok next =>
      rw [first] at entered
      exact ⟨next, enters_of_enter first, entered⟩

/-! ### What stays known -/

/-- A label is unknown after a command exactly if it was unknown before and the command does not
mark it. -/
theorem Enters.find?_eq_none_iff {linker next : Linker} {index : Nat} {command : Command}
    (enters : Enters linker index command next) (label : Label) :
    next.find? label = none ↔ linker.find? label = none ∧ command.marks? ≠ some label := by
  cases enters with
  | @marked marked isMark isNew =>
      subst isMark
      by_cases same : marked = label
      · simp [Linker.find?, Command.marks?, same]
      · simp [Linker.find?, Command.marks?, same]
  | settled argument other isKnown =>
      simp [Linker.find?, Linker.emit, marks?_ne_some other]
  | waiting refers isUnknown =>
      simp [Linker.find?, Linker.emit, marks?_ne_some (ne_mark_of_refersTo? refers)]

/-- What is known is not marked again. -/
theorem Enters.marks?_ne_some {linker next : Linker} {index : Nat} {command : Command}
    (enters : Enters linker index command next) {label : Label}
    (isKnown : linker.find? label ≠ none) : command.marks? ≠ some label := by
  cases enters with
  | marked isMark isNew =>
      subst isMark
      rintro ⟨⟩
      exact isKnown isNew
  | settled argument other _ => exact Linking.marks?_ne_some other label
  | waiting refers _ => exact Linking.marks?_ne_some (ne_mark_of_refersTo? refers) label

/-- A label is unknown after some commands exactly if it was unknown before and none of them marks
it. -/
theorem find?_of_enterAll {label : Label} (rest : List Command) :
    ∀ {linker final : Linker} {index : Nat}, linker.enterAll index rest = .ok final →
      (final.find? label = none ↔
        linker.find? label = none ∧ isMarkedBy label rest = false) := by
  induction rest with
  | nil =>
      intro linker final index entered
      cases entered
      simp
  | cons command rest ih =>
      intro linker final index entered
      obtain ⟨next, enters, entered⟩ := enters_of_enterAll entered
      rw [ih entered, enters.find?_eq_none_iff label]
      simp [and_assoc]

/-- What is known is marked by none of the commands that can still be taken in. -/
theorem isMarkedBy_of_find? {label : Label} (rest : List Command) :
    ∀ {linker final : Linker} {index : Nat}, linker.enterAll index rest = .ok final →
      linker.find? label ≠ none → isMarkedBy label rest = false := by
  induction rest with
  | nil => exact fun _ _ => rfl
  | cons command rest ih =>
      intro linker final index entered isKnown
      obtain ⟨next, enters, entered⟩ := enters_of_enterAll entered
      have stays : next.find? label ≠ none := by
        intro isUnknown
        exact isKnown ((enters.find?_eq_none_iff label).mp isUnknown).1
      simp [ih entered stays, enters.marks?_ne_some isKnown]

/-! ### The counts -/

/-- What the counts of one linker are over those of another one. -/
structure Adds (linker final : Linker) (commands : List Command) : Prop where
  kept : linker.fixUps <:+ final.fixUps
  labels : final.definitions.length = linker.definitions.length + markCount commands
  size : final.code.size + markCount commands = linker.code.size + commands.length
  waiting : final.fixUps.length = linker.fixUps.length + forwardReferences commands

/-- Each command adds to one of the counts, and a reference to a label still to come to two of them.
A label waited for is known in the end, so that it is one of those still to come. -/
theorem adds_of_enterAll (rest : List Command) :
    ∀ {linker final : Linker} {index : Nat}, linker.enterAll index rest = .ok final →
      (∀ fixUp ∈ final.fixUps, final.find? fixUp.label ≠ none) → Adds linker final rest := by
  induction rest with
  | nil =>
      intro linker final index entered _
      cases entered
      exact ⟨List.suffix_rfl, rfl, rfl, rfl⟩
  | cons command rest ih =>
      intro linker final index entered resolved
      obtain ⟨next, enters, entered⟩ := enters_of_enterAll entered
      obtain ⟨kept, labels, size, waiting⟩ := ih entered resolved
      cases enters with
      | @marked label isMark isNew =>
          subst isMark
          have behind : refersAhead ⟨.mark, .label label⟩ rest = false := rfl
          simp only [List.length_cons] at labels size waiting kept
          constructor
          · exact kept
          · rw [labels, markCount_cons_mark]
            omega
          · rw [markCount_cons_mark, List.length_cons]
            omega
          · rw [waiting, forwardReferences, behind, Bool.toNat_false, Nat.zero_add]
      | settled argument other isKnown =>
          have behind : refersAhead command rest = false := by
            cases refers : command.refersTo? with
            | none => rw [refersAhead, refers, Option.any_none]
            | some label =>
                rw [refersAhead, refers, Option.any_some]
                exact isMarkedBy_of_find? rest entered (isKnown label refers)
          simp only [Linker.emit, Array.size_push] at labels size waiting kept
          constructor
          · exact kept
          · rw [labels, markCount_cons_other other]
          · rw [markCount_cons_other other, List.length_cons]
            omega
          · rw [waiting, forwardReferences, behind, Bool.toNat_false, Nat.zero_add]
      | @waiting label refers isUnknown =>
          have other := ne_mark_of_refersTo? refers
          simp only [Linker.emit, Array.size_push, List.length_cons] at labels size waiting kept
          have isKnown : final.find? label ≠ none :=
            resolved ⟨linker.code.size, label⟩ (kept.mem List.mem_cons_self)
          have ahead : refersAhead command rest = true := by
            rw [refersAhead, refers, Option.any_some]
            by_contra never
            exact isKnown ((find?_of_enterAll rest entered).mpr ⟨isUnknown, by simpa using never⟩)
          constructor
          · exact (List.suffix_cons _ _).trans kept
          · rw [labels, markCount_cons_other other]
          · rw [markCount_cons_other other, List.length_cons]
            omega
          · rw [waiting, forwardReferences, ahead, Bool.toNat_true]
            omega

/-- The counts of linked code: it has an instruction for every command but the marks, a label for
each of these, and as many references had to wait as stand before the mark of their label. -/
theorem tally_of_link {commands : List Command} {program : Program}
    (linked : link commands = .ok program) :
    commands.length = program.size + program.labels ∧ program.labels = markCount commands ∧
      program.forward = forwardReferences commands := by
  unfold link at linked
  cases entered : Linker.enterAll {} 0 commands with
  | error error =>
      rw [entered] at linked
      cases linked
  | ok final =>
      rw [entered] at linked
      dsimp only at linked
      cases found : final.pastEnd? with
      | some label =>
          rw [found] at linked
          cases linked
      | none =>
          rw [found] at linked
          dsimp only at linked
          have tracks := enterAll_tracks commands tracks_nil
          simp only [List.length_nil, List.nil_append, entered] at tracks
          have increasing : final.fixUps.reverse.Pairwise fun earlier later =>
              earlier.position < later.position := List.pairwise_reverse.mpr tracks.ordered
          have outcome := @patch_patched final _ final.code increasing
          cases filling : final.patch final.code final.fixUps.reverse with
          | error error =>
              rw [filling] at linked
              cases linked
          | ok code =>
              rw [filling] at linked outcome
              cases linked
              have patched := outcome.of_reverse
              have resolved : ∀ fixUp ∈ final.fixUps, final.find? fixUp.label ≠ none := by
                intro fixUp member
                obtain ⟨definition, isKnown, _⟩ := patched.replaced member
                rw [isKnown]
                exact nofun
              obtain ⟨_, labels, size, waiting⟩ := adds_of_enterAll commands entered resolved
              simp only [List.length_nil, Nat.zero_add, Array.size_empty] at labels size waiting
              refine ⟨?_, labels, waiting⟩
              rw [← size, ← labels, ← patched.size]
              rfl

end BlankCode.Linking

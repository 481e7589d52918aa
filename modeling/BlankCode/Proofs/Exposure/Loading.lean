/-
Module: BlankCode.Proofs.Exposure.Loading
Purpose: A source is loaded without mishap. Tables and dictionaries have all the keys that are
  looked up in them, only bytes become bytes, labels are labels by the time that they are used as
  such, the positions to be filled in are positions of instructions, and every argument is a number
  in the end.
Main exports: Exposed.feed_eq, Exposed.parse_eq, Exposed.enter_eq, Exposed.link_eq, Exposed.load_eq
-/
import BlankCode.Proofs.Exposure
import BlankCode.Proofs.Linker

namespace BlankCode.Exposed

/-! ### Reading -/

theorem entry_of_lookup {κ α : Type} [BEq κ] {table : List (κ × α)} {key : κ} {value : α}
    (found : table.lookup key = some value) : entry table key = pure value := by
  rw [entry, found]
  rfl

/-- The automaton has a row for every stem, with entries for those tokens alone that the stem goes
on with. -/
theorem exists_row (stem : Stem) :
    ∃ row, transitions.lookup stem = some row ∧
      (∀ token : Token, row.lookup token.code = stem.next? token) ∧
      ∀ branch ∈ row, (Token.ofCode? branch.1).isSome = true := by
  cases stem <;> exact ⟨_, rfl, by rintro (_ | _ | _) <;> rfl, by decide⟩

theorem lookup_row {stem : Stem} {row : List (Int × Stem.Branch)}
    (leads : ∀ token : Token, row.lookup token.code = stem.next? token)
    (tokens : ∀ branch ∈ row, (Token.ofCode? branch.1).isSome = true) (value : Int) :
    row.lookup value = (Token.ofCode? value).bind stem.next? := by
  cases found : Token.ofCode? value with
  | some token =>
      obtain rfl := Token.ofCode?_eq_some_iff.mp found
      exact leads token
  | none =>
      refine List.lookup_eq_none_iff.mpr fun branch member => ?_
      rw [bne_iff_ne]
      rintro rfl
      have isToken := tokens branch member
      rw [found] at isToken
      cases isToken

/-- There is a reader for whatever a command takes. -/
theorem exists_reader (mnemonic : Mnemonic) :
    ∃ reader, readers.lookup mnemonic.parameter = some reader ∧
      reader mnemonic = Mode.afterSpelling mnemonic := by
  unfold Mode.afterSpelling
  cases mnemonic.parameter <;> exact ⟨_, rfl, rfl⟩

theorem feed_eq (mode : Mode) (value : Int) : feed mode value = pure (mode.feed value) := by
  cases mode with
  | spelling stem =>
      obtain ⟨row, found, leads, tokens⟩ := exists_row stem
      simp only [feed, Mode.feed, entry_of_lookup found, pure_bind, lookup_row leads tokens]
      cases (Token.ofCode? value).bind stem.next? with
      | none => rfl
      | some branch =>
          cases branch with
          | stem longer => rfl
          | command mnemonic =>
              obtain ⟨reader, isReader, reads⟩ := exists_reader mnemonic
              simp only [entry_of_lookup isReader, pure_bind, reads]
  | label mnemonic bytes =>
      simp only [feed, Mode.feed, Token.ofCode?]
      by_cases isSpace : value = 0x20
      · subst isSpace
        rfl
      by_cases isTab : value = 0x09
      · subst isTab
        rfl
      by_cases isLineFeed : value = 0x0A
      · subst isLineFeed
        rfl
      simp [isSpace, isTab, isLineFeed]
  | sign mnemonic => rfl
  | digits mnemonic negative bits magnitude => rfl

theorem take_eq (reading : Reading) (value : Int) :
    take reading value = pure (reading.feed value) := by
  rcases reading with ⟨completed, error | mode⟩
  · rfl
  · simp only [take, feed_eq, pure_bind]
    rfl

theorem parse_eq (source : Source) : parse source = source.parse.mapError .ofDefeat := by
  have all : source.values.foldlM take {} = pure (Reading.after source.values) := by
    rw [funext fun reading => funext (take_eq reading)]
    exact List.foldlM_pure
  rw [parse, Source.parse, all, pure_bind]
  cases (Reading.after source.values).result <;>
    cases (Reading.after source.values).position <;> cases source.refusal? <;> rfl

/-! ### Linking -/

/-- An instruction before it is known that its argument is a number. -/
def draft (instruction : Instruction) : Draft :=
  ⟨instruction.operation, .integer instruction.argument⟩

/-- What the linker knows, without that it is known to be of the right kind. -/
def ledger (linker : Linker) : Ledger where
  labels := linker.definitions.map fun definition =>
    (.label definition.label, definition.address, definition.index)
  last := linker.definitions.head?.map (.label ·.label)
  code := linker.code.map draft
  fixUps := linker.fixUps.map fun fixUp => (fixUp.position, .label fixUp.label)

theorem lookup_labels (linker : Linker) (label : Label) :
    (ledger linker).labels.lookup (.label label) =
      (linker.find? label).map fun definition => (definition.address, definition.index) := by
  rcases linker with ⟨definitions, code, fixUps⟩
  simp only [ledger, Linker.find?]
  induction definitions with
  | nil => rfl
  | cons definition rest ih =>
      by_cases same : definition.label = label
      · subst same
        simp
      · have different : (Argument.label label == Argument.label definition.label) = false := by
          simpa using Ne.symm same
        simp only [List.map_cons, List.lookup_cons, different, List.find?_cons]
        have unequal : (definition.label == label) = false := by simpa using same
        rw [unequal]
        exact ih

theorem knows_label (linker : Linker) (label : Label) :
    (ledger linker).knows (.label label) = (linker.find? label).isSome := by
  rw [Ledger.knows, lookup_labels, Option.isSome_map]

theorem entry_label {linker : Linker} {label : Label} {definition : Definition}
    (found : linker.find? label = some definition) :
    entry (ledger linker).labels (.label label) = pure (definition.address, definition.index) :=
  entry_of_lookup (by rw [lookup_labels, found]; rfl)

theorem entry_operations (mnemonic : Mnemonic) :
    entry operations mnemonic = pure mnemonic.operation := by
  cases mnemonic <;> rfl

/-- The failure of linking, as an attempt ends with it. -/
abbrev unlinked (error : LinkError) : Trouble :=
  .failure (.link error)

/-- A command that is not complained of has a number where it takes one. -/
theorem given_eq {command : Command} {index : Nat} (quiet : command.complaint? index = none) :
    given command = .integer command.operand := by
  rcases command with ⟨mnemonic, argument⟩
  unfold given Command.operand
  cases takes : mnemonic.parameter with
  | nothing => rfl
  | label => rfl
  | number =>
      have isCommand : mnemonic.isCommand = true := Mnemonic.isCommand_of_takes (by simp [takes])
      cases argument <;> simp_all [Command.complaint?]

/-- A command that is not complained of has a label where it refers to one. -/
theorem exists_refersTo {command : Command} {index : Nat}
    (quiet : command.complaint? index = none) (refers : command.mnemonic.refersToLabel = true) :
    ∃ label, command.refersTo? = some label := by
  rcases command with ⟨mnemonic, argument⟩
  have takes := (Mnemonic.refersToLabel_iff.mp refers).1
  have isCommand : mnemonic.isCommand = true := Mnemonic.isCommand_of_takes (by simp_all)
  cases argument with
  | label label => exact ⟨label, by simp [Command.refersTo?, refers]⟩
  | _ => simp_all [Command.complaint?]

theorem mark_eq (linker : Linker) (index : Nat) (label : Label) :
    (ledger linker).mark index (.label label) =
      match linker.find? label with
      | some previous => throw (unlinked (.duplicateLabel label.letters index previous.index))
      | none => pure (ledger { linker with
          definitions := ⟨label, linker.code.size, index⟩ :: linker.definitions }) := by
  rw [Ledger.mark, knows_label]
  cases known : linker.find? label with
  | some previous =>
      rw [entry_label known]
      rfl
  | none => simp [ledger]

theorem emit_eq (linker : Linker) (operation : Operation) (argument : Int) :
    (ledger linker).emit operation (.integer argument) =
      ledger (linker.emit operation argument) := by
  simp [ledger, Ledger.emit, Linker.emit, draft]

theorem refer_eq (linker : Linker) (operation : Operation) (label : Label) :
    (ledger linker).refer operation (.label label) =
      pure (ledger (match linker.find? label with
        | some definition => linker.emit operation definition.address
        | none =>
          { linker.emit operation 0 with
            fixUps := ⟨linker.code.size, label⟩ :: linker.fixUps })) := by
  rw [Ledger.refer, knows_label]
  cases known : linker.find? label with
  | some definition =>
      rw [entry_label known, pure_bind, emit_eq]
      rfl
  | none => simp [ledger, Ledger.emit, Linker.emit, draft]

theorem enter_eq (linker : Linker) (index : Nat) (command : Command) :
    (ledger linker).enter index command =
      ((linker.enter index command).mapError unlinked).map ledger := by
  unfold Ledger.enter Linker.enter
  cases quiet : command.complaint? index with
  | some complaint => rfl
  | none =>
      cases marked : command.marks? with
      | some label =>
          obtain rfl := Command.marks?_eq_some_iff.mp marked
          dsimp only
          rw [if_pos rfl, mark_eq]
          cases linker.find? label <;> rfl
      | none =>
          have other := (Command.marks?_eq_none_iff quiet).mp marked
          dsimp only
          rw [if_neg other, entry_operations, pure_bind]
          cases refers : command.mnemonic.refersToLabel with
          | true =>
              obtain ⟨label, refersTo⟩ := exists_refersTo quiet refers
              rw [if_pos rfl, (Command.refersTo?_eq_some_iff.mp refersTo).2, refer_eq, refersTo]
              dsimp only
              cases linker.find? label <;> rfl
          | false =>
              have noReference : command.refersTo? = none := by simp [Command.refersTo?, refers]
              rw [if_neg nofun, given_eq quiet, emit_eq, noReference]
              rfl

theorem enterAll_eq (commands : List Command) :
    ∀ (linker : Linker) (index : Nat), (ledger linker).enterAll index commands =
      ((linker.enterAll index commands).mapError unlinked).map ledger := by
  induction commands with
  | nil =>
      intro linker index
      rfl
  | cons command rest ih =>
      intro linker index
      rw [Ledger.enterAll, Linker.enterAll, enter_eq]
      cases linker.enter index command with
      | error error => rfl
      | ok next => exact ih next (index + 1)

/-- The label of the last mark is among those that are known. -/
theorem close_eq (linker : Linker) :
    (ledger linker).close = match linker.pastEnd? with
      | some label => throw (unlinked (.labelPastEnd label.letters))
      | none => pure () := by
  rcases linker with ⟨_ | ⟨latest, earlier⟩, code, fixUps⟩
  · rfl
  · have last : (ledger ⟨latest :: earlier, code, fixUps⟩).last = some (.label latest.label) := rfl
    have known : entry (ledger ⟨latest :: earlier, code, fixUps⟩).labels (.label latest.label) =
        pure (latest.address, latest.index) := entry_label (by simp [Linker.find?])
    have size : (ledger ⟨latest :: earlier, code, fixUps⟩).code.size = code.size := Array.size_map
    simp only [Ledger.close, Linker.pastEnd?, last, known, size, pure_bind]
    split <;> rfl

/-- Filling in an address and forgetting that it is a number commute. -/
theorem map_modify (code : Array Instruction) (position : Nat) (address : Int) :
    (code.map draft).modify position ({ · with argument := .integer address }) =
      (code.modify position ({ · with argument := address })).map draft := by
  apply Array.ext_getElem?
  intro other
  simp only [Array.getElem?_modify, Array.getElem?_map]
  split
  · cases code[other]? <;> rfl
  · rfl

/-- The positions to be filled in are positions of instructions. -/
theorem patch_eq (linker : Linker) (fixUps : List FixUp) :
    ∀ {code : Array Instruction}, (∀ fixUp ∈ fixUps, fixUp.position < code.size) →
      (ledger linker).patch (code.map draft)
          (fixUps.map fun fixUp => (fixUp.position, .label fixUp.label)) =
        ((linker.patch code fixUps).mapError unlinked).map (·.map draft) := by
  induction fixUps with
  | nil =>
      intro code _
      rfl
  | cons fixUp rest ih =>
      intro code within
      rw [List.map_cons, Ledger.patch, Linker.patch, knows_label]
      cases known : linker.find? fixUp.label with
      | none => rfl
      | some definition =>
          have inside : fixUp.position < (code.map draft).size := by
            rw [Array.size_map]
            exact within fixUp List.mem_cons_self
          rw [Option.isSome_some, if_pos rfl, entry_label known, pure_bind, setArgument,
            if_pos inside, pure_bind]
          dsimp only
          rw [map_modify]
          apply ih
          intro other inRest
          rw [Array.size_modify]
          exact within other (List.mem_cons_of_mem _ inRest)

theorem mapM_draft (instructions : List Instruction) :
    (instructions.map draft).mapM Draft.instruction = pure instructions := by
  rw [List.mapM_map]
  exact List.mapM_pure.trans (congrArg pure (List.map_id _))

theorem ledger_empty : ledger {} = {} := by
  simp [ledger]

theorem link_eq (commands : List Command) :
    link commands = (BlankCode.link commands).mapError unlinked := by
  have tracks := Linking.enterAll_tracks commands Linking.tracks_nil
  rw [link, BlankCode.link, ← ledger_empty, enterAll_eq]
  cases entered : Linker.enterAll {} 0 commands with
  | error error => rfl
  | ok linker =>
      simp only [List.length_nil, List.nil_append, entered] at tracks
      have within : ∀ fixUp ∈ linker.fixUps.reverse, fixUp.position < linker.code.size := by
        intro fixUp member
        obtain ⟨_, there, _⟩ := tracks.waiting (List.mem_reverse.mp member)
        rw [tracks.size]
        exact (List.getElem?_eq_some_iff.mp there).1
      show ((ledger linker).close >>= fun _ => _) = _
      rw [close_eq]
      dsimp only
      cases linker.pastEnd? with
      | some label => rfl
      | none =>
          have patched := patch_eq linker linker.fixUps.reverse within
          rw [List.map_reverse] at patched
          have filled : (ledger linker).patch (ledger linker).code
              (ledger linker).fixUps.reverse = _ := patched
          simp only [pure_bind, filled]
          cases linker.patch linker.code linker.fixUps.reverse with
          | error error => rfl
          | ok code =>
              show ((code.map draft).toList.mapM Draft.instruction >>= fun _ => _) = _
              rw [Array.toList_map, mapM_draft, pure_bind, Array.toArray_toList]
              simp [ledger]
              rfl

theorem load_eq (source : Source) : load source = source.load.mapError .ofDefeat := by
  rw [load, parse_eq, Source.load]
  cases source.parse with
  | error defeat => rfl
  | ok commands =>
      show link commands = _
      rw [link_eq]
      dsimp only
      cases BlankCode.link commands <;> rfl

end BlankCode.Exposed

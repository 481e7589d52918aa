/-
Module: BlankCode.Proofs.Linker
Purpose: One pass over the commands, and the filling in of addresses afterwards, come to exactly
  what linking amounts to. The pass is followed command by command: `Tracks` says what the linker
  knows of the commands that it has taken in.
Main exports: Linking.Tracks, Linking.tracks_enter, Linking.enterAll_tracks, Linking.Patched,
  Linking.patch_patched, Linking.links_link, Linking.exists_link_of_links, Linking.link_iff_links
-/
import BlankCode.Proofs.Linking

namespace BlankCode.Linking

/-! ### The pass over the commands -/

/-- What the argument of an instruction is so far: what the command takes, the address of its label,
or something that waits to be replaced. -/
inductive Filled (fixUps : List FixUp) (done : List Command) (position : Nat) (command : Command) :
    Int → Prop where
  | operand (noReference : command.refersTo? = none) :
      Filled fixUps done position command command.operand
  | address {label : Label} {index : Nat} (refers : command.refersTo? = some label)
      (marks : Marks done index label) :
      Filled fixUps done position command (address done index)
  | waiting {label : Label} {argument : Int} (refers : command.refersTo? = some label)
      (waits : ⟨position, label⟩ ∈ fixUps) :
      Filled fixUps done position command argument

/-- What the linker knows of the commands that it has taken in. -/
structure Tracks (linker : Linker) (done : List Command) : Prop where
  sound : Sound done
  known : ∀ {label : Label} {definition : Definition}, linker.find? label = some definition →
    Marks done definition.index label ∧ definition.address = address done definition.index
  found : ∀ {index : Nat} {label : Label}, Marks done index label →
    linker.find? label ≠ none
  latest : ∀ {definition : Definition} {rest : List Definition},
    linker.definitions = definition :: rest →
      ∀ {index : Nat} {label : Label}, Marks done index label → index ≤ definition.index
  size : linker.code.size = (body done).length
  emitted : ∀ {position : Nat} {command : Command}, (body done)[position]? = some command →
    ∃ argument, linker.code[position]? = some ⟨command.mnemonic.operation, argument⟩ ∧
      Filled linker.fixUps done position command argument
  waiting : ∀ {fixUp : FixUp}, fixUp ∈ linker.fixUps →
    ∃ command, (body done)[fixUp.position]? = some command ∧
      command.refersTo? = some fixUp.label
  ordered : linker.fixUps.Pairwise fun later earlier => earlier.position < later.position

theorem tracks_nil : Tracks {} [] where
  sound := by
    intro index error fault
    obtain ⟨command, there, _⟩ := fault.cases_complaint
    cases there
  known found := by cases found
  found marks := by cases marks
  latest isFirst := by cases isFirst
  size := rfl
  emitted there := by cases there
  waiting member := by cases member
  ordered := List.Pairwise.nil

/-- One more command that is not complained of, and that marks no label twice, leaves the commands
without error. -/
theorem sound_snoc {done : List Command} {command : Command} (sound : Sound done)
    (quiet : command.complaint? done.length = none)
    (fresh : ∀ label, command = ⟨.mark, .label label⟩ → ∀ index, ¬ Marks done index label) :
    Sound (done ++ [command]) := by
  intro index error fault
  rcases Nat.lt_or_ge index done.length with before | behind
  · exact sound index error ((faulty_append_iff before).mp fault)
  · obtain ⟨there, isThere, reason⟩ := fault.cases_complaint
    rcases getElem?_snoc_iff.mp isThere with isBefore | ⟨rfl, rfl⟩
    · exact absurd (List.getElem?_eq_some_iff.mp isBefore).1 (Nat.not_lt_of_ge behind)
    rcases reason with ⟨complaint, complained, _⟩ | ⟨_, label, previous, isMark, before, marked, _⟩
    · rw [quiet] at complained
      cases complained
    · exact fresh label isMark previous ((marks_append_iff before).mp marked)

/-- What is filled in stays so when more is taken in. -/
theorem Filled.mono {fixUps next : List FixUp} {done more : List Command} {position : Nat}
    {command : Command} {argument : Int} (kept : fixUps ⊆ next)
    (filled : Filled fixUps done position command argument) :
    Filled next (done ++ more) position command argument := by
  cases filled with
  | operand noReference => exact .operand noReference
  | address refers marks =>
      rw [← marks.address_append more]
      exact .address refers (marks_append marks)
  | waiting refers waits => exact .waiting refers (kept waits)

/-- What is known of a label stays true when more is taken in. -/
theorem Tracks.known_append {linker : Linker} {done : List Command} {label : Label}
    {definition : Definition} (tracks : Tracks linker done)
    (found : linker.find? label = some definition) (more : List Command) :
    Marks (done ++ more) definition.index label ∧
      definition.address = address (done ++ more) definition.index := by
  obtain ⟨marks, leads⟩ := tracks.known found
  exact ⟨marks_append marks, leads.trans (marks.address_append more).symm⟩

/-- A mark adds what it says of its label. -/
theorem Tracks.mark {linker : Linker} {done : List Command} {label : Label}
    (tracks : Tracks linker done) (sound : Sound (done ++ [⟨.mark, .label label⟩])) :
    Tracks
      { linker with definitions := ⟨label, linker.code.size, done.length⟩ :: linker.definitions }
      (done ++ [⟨.mark, .label label⟩]) where
  sound := sound
  known := by
    intro other definition found
    simp only [Linker.find?, List.find?_cons] at found
    split at found
    · rename_i same
      cases found
      simp only [beq_iff_eq] at same
      subst same
      refine ⟨marks_snoc_iff.mpr (Or.inr ⟨rfl, rfl⟩), ?_⟩
      rw [tracks.size, address_append (Nat.le_refl _), address_length]
    · exact tracks.known_append found _
  found := by
    intro index other marks
    simp only [Linker.find?, List.find?_cons]
    split
    · simp
    · rename_i different
      rcases marks_snoc_iff.mp marks with before | ⟨_, same⟩
      · exact tracks.found before
      · cases same
        simp at different
  latest := by
    rintro definition rest ⟨⟩ index other marks
    rcases marks_snoc_iff.mp marks with before | ⟨rfl, _⟩
    · exact Nat.le_of_lt before.lt
    · exact Nat.le_refl _
  size := by simp [tracks.size, body_mark]
  emitted := by
    intro position command there
    rw [body_append, body_mark rfl, List.append_nil] at there
    obtain ⟨argument, stands, filled⟩ := tracks.emitted there
    exact ⟨argument, stands, filled.mono (List.Subset.refl _)⟩
  waiting := by
    intro fixUp member
    rw [body_append, body_mark rfl, List.append_nil]
    exact tracks.waiting member
  ordered := tracks.ordered

/-- A command that is no mark adds its instruction, and a fix-up if the instruction has to wait. -/
theorem Tracks.emit {linker : Linker} {done : List Command} {command : Command} {argument : Int}
    (fixUps : List FixUp) (tracks : Tracks linker done) (sound : Sound (done ++ [command]))
    (other : command.mnemonic ≠ .mark) (single : fixUps.length ≤ 1)
    (isNew : ∀ fixUp ∈ fixUps, fixUp.position = (body done).length ∧
      command.refersTo? = some fixUp.label)
    (filled : Filled (fixUps ++ linker.fixUps) (done ++ [command]) (body done).length command
      argument) :
    Tracks
      { linker.emit command.mnemonic.operation argument with
        fixUps := fixUps ++ linker.fixUps }
      (done ++ [command]) where
  sound := sound
  known found := tracks.known_append found _
  found := by
    intro index label marks
    rcases marks_snoc_iff.mp marks with before | ⟨_, rfl⟩
    · exact tracks.found before
    · exact absurd rfl other
  latest := by
    intro definition rest isFirst index label marks
    rcases marks_snoc_iff.mp marks with before | ⟨_, rfl⟩
    · exact tracks.latest isFirst before
    · exact absurd rfl other
  size := by simp [Linker.emit, tracks.size, body_other other]
  emitted := by
    intro position there stands
    rw [body_append, body_other other] at stands
    rw [Linker.emit, Array.getElem?_push, tracks.size]
    rcases getElem?_snoc_iff.mp stands with isBefore | ⟨rfl, rfl⟩
    · obtain ⟨earlier, isThere, isFilled⟩ := tracks.emitted isBefore
      refine ⟨earlier, ?_, isFilled.mono (List.subset_append_right _ _)⟩
      rw [if_neg (Nat.ne_of_lt (List.getElem?_eq_some_iff.mp isBefore).1)]
      exact isThere
    · exact ⟨argument, by rw [if_pos rfl], filled⟩
  waiting := by
    intro fixUp member
    rw [body_append, body_other other]
    rcases List.mem_append.mp member with isFirst | isOld
    · obtain ⟨position, refers⟩ := isNew fixUp isFirst
      exact ⟨command, getElem?_snoc_iff.mpr (Or.inr ⟨position, rfl⟩), refers⟩
    · obtain ⟨earlier, there, refers⟩ := tracks.waiting isOld
      exact ⟨earlier, getElem?_snoc_iff.mpr (Or.inl there), refers⟩
  ordered := by
    refine List.pairwise_append.mpr ⟨?_, tracks.ordered, ?_⟩
    · match fixUps, single with
      | [], _ => exact List.Pairwise.nil
      | [fixUp], _ => exact List.pairwise_singleton _ _
    · intro later isLater earlier isEarlier
      obtain ⟨_, there, _⟩ := tracks.waiting isEarlier
      rw [(isNew later isLater).1]
      exact (List.getElem?_eq_some_iff.mp there).1

/-- Taking in one more command either fails with the error of that command or is tracked. -/
theorem tracks_enter {linker : Linker} {done : List Command} (tracks : Tracks linker done)
    (command : Command) :
    match linker.enter done.length command with
    | .error error => Faulty (done ++ [command]) done.length error
    | .ok next => Tracks next (done ++ [command]) := by
  have there : (done ++ [command])[done.length]? = some command := List.getElem?_concat_length
  unfold Linker.enter
  cases quiet : command.complaint? done.length with
  | some complaint => exact faulty_of_complaint there quiet
  | none =>
      cases marked : command.marks? with
      | some label =>
          obtain rfl := Command.marks?_eq_some_iff.mp marked
          cases known : linker.find? label with
          | some previous =>
              simp only [known]
              obtain ⟨marks, _⟩ := tracks.known known
              refine .duplicate there marks.lt (marks_append marks) ?_
              intro earlier before marksToo
              have within := Nat.lt_trans before marks.lt
              have same := marks_unique tracks.sound ((marks_append_iff within).mp marksToo) marks
              exact Nat.ne_of_lt before same
          | none =>
              simp only [known]
              apply tracks.mark
              apply sound_snoc tracks.sound quiet
              rintro _ ⟨⟩ index marks
              exact tracks.found marks known
      | none =>
          have other := (Command.marks?_eq_none_iff quiet).mp marked
          have sound : Sound (done ++ [command]) := by
            apply sound_snoc tracks.sound quiet
            rintro label rfl
            exact absurd rfl other
          cases refers : command.refersTo? with
          | some label =>
              cases known : linker.find? label with
              | some definition =>
                  simp only [known]
                  obtain ⟨marks, leads⟩ := tracks.known_append known [command]
                  apply tracks.emit [] sound other (Nat.zero_le _) nofun
                  rw [leads]
                  exact .address refers marks
              | none =>
                  simp only [known, tracks.size]
                  apply tracks.emit [⟨(body done).length, label⟩] sound other (Nat.le_refl _)
                  · intro fixUp isNew
                    rw [List.mem_singleton.mp isNew]
                    exact ⟨rfl, refers⟩
                  · exact .waiting refers List.mem_cons_self
          | none =>
              show Tracks _ _
              apply tracks.emit [] sound other (Nat.zero_le _) nofun
              exact .operand refers

/-- Taking in commands either fails with the first error among them or is tracked. -/
theorem enterAll_tracks (rest : List Command) :
    ∀ {linker : Linker} {done : List Command}, Tracks linker done →
      match linker.enterAll done.length rest with
      | .error error => ∃ index, Faulty (done ++ rest) index error ∧
          ∀ earlier < index, ∀ other, ¬ Faulty (done ++ rest) earlier other
      | .ok final => Tracks final (done ++ rest) := by
  induction rest with
  | nil =>
      intro linker done tracks
      rw [List.append_nil]
      exact tracks
  | cons command rest ih =>
      intro linker done tracks
      have step := tracks_enter tracks command
      have split : done ++ command :: rest = done ++ [command] ++ rest := by simp
      rw [Linker.enterAll, split]
      cases entered : linker.enter done.length command with
      | error error =>
          rw [entered] at step
          have within : done.length < (done ++ [command]).length := by simp
          refine ⟨done.length, (faulty_append_iff within).mpr step, ?_⟩
          intro earlier before other fault
          rw [List.append_assoc] at fault
          exact tracks.sound earlier other ((faulty_append_iff before).mp fault)
      | ok next =>
          rw [entered] at step
          have run := ih step
          rw [List.length_append, List.length_singleton] at run
          exact run

/-! ### The mark that nothing follows -/

/-- The label behind all code is that of the last mark, which dangles. -/
theorem Tracks.pastEnd_some {linker : Linker} {commands : List Command} {label : Label}
    (tracks : Tracks linker commands) (found : linker.pastEnd? = some label) :
    ∃ last, Dangles commands last ∧ Marks commands last label ∧
      ∀ later other, last < later → ¬ Marks commands later other := by
  unfold Linker.pastEnd? at found
  split at found
  · cases found
  · rename_i definition rest isFirst
    split at found
    · rename_i ends
      cases found
      have isKnown : linker.find? definition.label = some definition := by
        simp [Linker.find?, isFirst]
      obtain ⟨marks, leads⟩ := tracks.known isKnown
      refine ⟨definition.index, marks.dangles_iff.mpr ?_, marks, ?_⟩
      · rw [← leads, ← tracks.size]
        exact ends
      · intro later other behind marksLater
        exact Nat.not_le_of_lt behind (tracks.latest isFirst marksLater)
    · cases found

/-- If any mark dangles then the last one does. -/
theorem Tracks.pastEnd_none {linker : Linker} {commands : List Command}
    (tracks : Tracks linker commands) (found : linker.pastEnd? = none) :
    ∀ index, ¬ Dangles commands index := by
  rintro index ⟨⟨label, marks⟩, onlyMarks⟩
  unfold Linker.pastEnd? at found
  split at found
  · rename_i noDefinition
    exact tracks.found marks (by simp [Linker.find?, noDefinition])
  · rename_i definition rest isFirst
    split at found
    · cases found
    · rename_i within
      have isKnown : linker.find? definition.label = some definition := by
        simp [Linker.find?, isFirst]
      obtain ⟨last, leads⟩ := tracks.known isKnown
      have before : index ≤ definition.index := tracks.latest isFirst marks
      have dangles : Dangles commands definition.index :=
        ⟨⟨_, last⟩, fun later command behind => onlyMarks later command (by omega)⟩
      have ends := last.dangles_iff.mp dangles
      rw [← leads, ← tracks.size] at ends
      exact within ends

/-! ### Filling in the addresses -/

/-- Code in which some instructions have got their addresses. -/
structure Patched (linker : Linker) (code : Array Instruction) (fixUps : List FixUp)
    (patched : Array Instruction) : Prop where
  size : patched.size = code.size
  kept : ∀ {position : Nat}, (∀ fixUp ∈ fixUps, fixUp.position ≠ position) →
    patched[position]? = code[position]?
  replaced : ∀ {fixUp : FixUp}, fixUp ∈ fixUps →
    ∃ definition, linker.find? fixUp.label = some definition ∧
      patched[fixUp.position]? = code[fixUp.position]?.map fun instruction =>
        { instruction with argument := definition.address }

theorem Patched.of_reverse {linker : Linker} {code patched : Array Instruction}
    {fixUps : List FixUp} (filled : Patched linker code fixUps.reverse patched) :
    Patched linker code fixUps patched where
  size := filled.size
  kept := by
    intro position avoids
    apply filled.kept
    intro fixUp member
    exact avoids fixUp (List.mem_reverse.mp member)
  replaced member := filled.replaced (List.mem_reverse.mpr member)

/-- Filling in fails at the first label that is not known, or gives every instruction that lacks an
address the one of its label. -/
theorem patch_patched (linker : Linker) {fixUps : List FixUp} :
    ∀ {code : Array Instruction},
      fixUps.Pairwise (fun earlier later => earlier.position < later.position) →
      match linker.patch code fixUps with
      | .error error => ∃ earlier fixUp later, fixUps = earlier ++ fixUp :: later ∧
          (∀ resolved ∈ earlier, linker.find? resolved.label ≠ none) ∧
          linker.find? fixUp.label = none ∧
          error = .undefinedLabel fixUp.label.letters fixUp.position
      | .ok patched => Patched linker code fixUps patched := by
  induction fixUps with
  | nil =>
      intro code _
      exact ⟨rfl, fun _ => rfl, nofun⟩
  | cons fixUp rest ih =>
      intro code ordered
      obtain ⟨isFirst, ordered⟩ := List.pairwise_cons.mp ordered
      rw [Linker.patch]
      cases isKnown : linker.find? fixUp.label with
      | none => exact ⟨[], fixUp, rest, rfl, nofun, isKnown, rfl⟩
      | some definition =>
          have run := @ih (code.modify fixUp.position fun instruction =>
            { instruction with argument := definition.address }) ordered
          revert run
          simp only
          split
          · rintro ⟨earlier, missing, later, rfl, resolved, unknown, rfl⟩
            refine ⟨fixUp :: earlier, missing, later, rfl, ?_, unknown, rfl⟩
            intro one member
            rcases List.mem_cons.mp member with rfl | inRest
            · rw [isKnown]
              nofun
            · exact resolved one inRest
          · intro run
            refine ⟨run.size.trans Array.size_modify, ?_, ?_⟩
            · intro position avoids
              rw [run.kept fun one member => avoids one (List.mem_cons_of_mem _ member),
                Array.getElem?_modify, if_neg (avoids fixUp List.mem_cons_self)]
            · intro one member
              rcases List.mem_cons.mp member with rfl | inRest
              · refine ⟨definition, isKnown, ?_⟩
                rw [run.kept fun other inRest => Nat.ne_of_gt (isFirst other inRest),
                  Array.getElem?_modify, if_pos rfl]
              · obtain ⟨found, isFound, stands⟩ := run.replaced inRest
                refine ⟨found, isFound, ?_⟩
                rw [stands, Array.getElem?_modify, if_neg (Nat.ne_of_lt (isFirst one inRest))]

/-! ### Linking as a whole -/

/-- A reference whose label is marked before, or which is filled in, has its label marked. -/
theorem Tracks.marks_of_refers {linker : Linker} {commands : List Command} {position : Nat}
    {label : Label} (tracks : Tracks linker commands) (refers : Refers commands position label)
    (resolved : ⟨position, label⟩ ∈ linker.fixUps → linker.find? label ≠ none) :
    ∃ index, Marks commands index label := by
  obtain ⟨command, there, isReference⟩ := refers_iff.mp refers
  obtain ⟨_, _, filled⟩ := tracks.emitted there
  cases filled with
  | operand noReference =>
      rw [noReference] at isReference
      cases isReference
  | address same marks =>
      cases same.symm.trans isReference
      exact ⟨_, marks⟩
  | waiting same waits =>
      cases same.symm.trans isReference
      obtain ⟨definition, found⟩ := Option.ne_none_iff_exists'.mp (resolved waits)
      exact ⟨definition.index, (tracks.known found).1⟩

/-- Once all addresses are filled in, an instruction is what its command becomes. -/
theorem Tracks.compiles {linker : Linker} {commands : List Command} {code : Array Instruction}
    {position : Nat} {command : Command} (tracks : Tracks linker commands)
    (patched : Patched linker linker.code linker.fixUps code)
    (there : (body commands)[position]? = some command) :
    ∃ instruction, code[position]? = some instruction ∧
      Compiles commands command instruction := by
  obtain ⟨argument, stands, filled⟩ := tracks.emitted there
  obtain ⟨member, other⟩ := List.mem_filter.mp (List.mem_of_getElem? there)
  simp only [decide_not, Bool.not_eq_true', decide_eq_false_iff_not] at other
  by_cases waits : ∃ fixUp ∈ linker.fixUps, fixUp.position = position
  · obtain ⟨fixUp, isWaiting, rfl⟩ := waits
    obtain ⟨definition, found, replaced⟩ := patched.replaced isWaiting
    obtain ⟨same, isThere, refers⟩ := tracks.waiting isWaiting
    obtain rfl := Option.some.inj (there.symm.trans isThere)
    obtain ⟨marks, leads⟩ := tracks.known found
    rw [stands] at replaced
    refine ⟨_, replaced, ?_⟩
    rw [leads]
    exact compiles_reference refers marks
  · have settled : code[position]? = linker.code[position]? :=
      patched.kept fun fixUp isWaiting here => waits ⟨fixUp, isWaiting, here⟩
    refine ⟨_, settled.trans stands, ?_⟩
    cases filled with
    | operand noReference => exact compiles_operand tracks.sound member other noReference
    | address refers marks => exact compiles_reference refers marks
    | waiting _ isWaiting => exact absurd ⟨_, isWaiting, rfl⟩ waits

/-- Once all addresses are filled in, the code is what the commands become. -/
theorem Tracks.compiled {linker : Linker} {commands : List Command} {code : Array Instruction}
    (tracks : Tracks linker commands) (patched : Patched linker linker.code linker.fixUps code) :
    List.Forall₂ (Compiles commands) (body commands) code.toList := by
  have sameLength : (body commands).length = code.toList.length := by
    simp [patched.size, tracks.size]
  refine List.forall₂_iff_get.mpr ⟨sameLength, ?_⟩
  intro position within withinCode
  obtain ⟨instruction, stands, compiles⟩ :=
    tracks.compiles patched (List.getElem?_eq_getElem within)
  rw [← Array.getElem?_toList, List.getElem?_eq_getElem withinCode] at stands
  cases stands
  exact compiles

/-- In a list in order, what is before an entry stands left of it. -/
theorem mem_left_of_before {left right : List FixUp} {middle one : FixUp}
    (ordered : (left ++ middle :: right).Pairwise fun earlier later =>
      earlier.position < later.position)
    (member : one ∈ left ++ middle :: right) (before : one.position < middle.position) :
    one ∈ left := by
  rcases List.mem_append.mp member with isLeft | notLeft
  · exact isLeft
  · rcases List.mem_cons.mp notLeft with rfl | isRight
    · exact absurd before (Nat.lt_irrefl _)
    · have behind := (List.pairwise_cons.mp (List.pairwise_append.mp ordered).2.1).1 one isRight
      exact absurd before (Nat.lt_asymm behind)

/-- When no mark dangles, what comes of the commands is what filling in the addresses gives. -/
theorem Tracks.links_patch {linker : Linker} {commands : List Command}
    (tracks : Tracks linker commands) (noneDangles : ∀ index, ¬ Dangles commands index) :
    Links commands ((linker.patch linker.code linker.fixUps.reverse).map Array.toList) := by
  have increasing : linker.fixUps.reverse.Pairwise fun earlier later =>
      earlier.position < later.position := List.pairwise_reverse.mpr tracks.ordered
  have outcome := @patch_patched linker _ linker.code increasing
  cases filling : linker.patch linker.code linker.fixUps.reverse with
  | error error =>
      rw [filling] at outcome
      obtain ⟨earlier, fixUp, later, parts, resolved, unknown, rfl⟩ := outcome
      have waits : fixUp ∈ linker.fixUps := by
        rw [← List.mem_reverse, parts]
        simp
      obtain ⟨command, there, isReference⟩ := tracks.waiting waits
      refine .undefined tracks.sound noneDangles
        (refers_iff.mpr ⟨command, there, isReference⟩) ?_ ?_
      · intro index marks
        exact tracks.found marks unknown
      · intro position before other refers
        rw [parts] at increasing
        apply tracks.marks_of_refers refers
        intro isWaiting
        rw [← List.mem_reverse, parts] at isWaiting
        exact resolved _ (mem_left_of_before increasing isWaiting before)
  | ok code =>
      rw [filling] at outcome
      have patched := outcome.of_reverse
      refine .linked tracks.sound noneDangles ?_ (tracks.compiled patched)
      intro position label refers
      apply tracks.marks_of_refers refers
      intro isWaiting
      obtain ⟨definition, isKnown, _⟩ := patched.replaced isWaiting
      rw [isKnown]
      nofun

/-- The linker does what linking amounts to. -/
theorem links_link (commands : List Command) :
    Links commands ((link commands).map Program.instructions) := by
  have run := enterAll_tracks commands tracks_nil
  unfold link
  cases entered : Linker.enterAll {} 0 commands with
  | error error =>
      simp only [List.length_nil, List.nil_append, entered] at run
      obtain ⟨index, fault, first⟩ := run
      exact .faulty fault first
  | ok linker =>
      simp only [List.length_nil, List.nil_append, entered] at run
      dsimp only
      cases found : linker.pastEnd? with
      | some label =>
          obtain ⟨last, dangles, marks, latest⟩ := run.pastEnd_some found
          exact .pastEnd run.sound dangles marks latest
      | none =>
          have filled := run.links_patch (run.pastEnd_none found)
          revert filled
          cases linker.patch linker.code linker.fixUps.reverse with
          | error error => exact id
          | ok code => exact id

theorem links_of_link {commands : List Command} {program : Program}
    (linked : link commands = .ok program) : Links commands (.ok program.instructions) := by
  have links := links_link commands
  rw [linked] at links
  exact links

theorem links_of_link_error {commands : List Command} {error : LinkError}
    (failed : link commands = .error error) : Links commands (.error error) := by
  have links := links_link commands
  rw [failed] at links
  exact links

/-- What linking amounts to is what the linker does. -/
theorem exists_link_of_links {commands : List Command} {instructions : List Instruction}
    (links : Links commands (.ok instructions)) :
    ∃ program, link commands = .ok program ∧ program.instructions = instructions := by
  cases linked : link commands with
  | ok program => exact ⟨program, rfl, Except.ok.inj ((links_of_link linked).unique links)⟩
  | error error => cases (links_of_link_error linked).unique links

theorem link_of_links_error {commands : List Command} {error : LinkError}
    (links : Links commands (.error error)) : link commands = .error error := by
  cases linked : link commands with
  | ok program => cases (links_of_link linked).unique links
  | error other => exact congrArg _ (Except.error.inj ((links_of_link_error linked).unique links))

/-- A load that succeeds has read commands and linked them. -/
theorem exists_link_of_load {source : Source} {program : Program}
    (loaded : source.load = .ok program) :
    ∃ commands, source.parse = .ok commands ∧ link commands = .ok program := by
  unfold Source.load at loaded
  cases parsed : source.parse with
  | error error =>
      rw [parsed] at loaded
      cases loaded
  | ok commands =>
      rw [parsed] at loaded
      refine ⟨commands, rfl, ?_⟩
      dsimp only at loaded
      cases linked : link commands with
      | error error =>
          rw [linked] at loaded
          cases loaded
      | ok linkedProgram =>
          rw [linked] at loaded
          cases loaded
          rfl

/-- Commands that have been read and linked have been loaded. -/
theorem load_of_link {source : Source} {commands : List Command} {program : Program}
    (parsed : source.parse = .ok commands) (linked : link commands = .ok program) :
    source.load = .ok program := by
  unfold Source.load
  rw [parsed]
  dsimp only
  rw [linked]

/-- Linking gives exactly what it amounts to: the error of the first command in error; else the
label of the last mark if a mark dangles; else the first reference to a label that is not marked;
else one instruction for each command that is no mark. -/
theorem link_iff_links (commands : List Command) (result : Except LinkError (List Instruction)) :
    (link commands).map Program.instructions = result ↔ Links commands result := by
  constructor
  · rintro rfl
    exact links_link commands
  · exact (links_link commands).unique

end BlankCode.Linking

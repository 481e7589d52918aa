/-
Module: BlankCode.Proofs.Exposure.Running
Purpose: A machine runs without mishap. Each instruction asks for its values before it touches the
  stack, divides by nothing that it has found to be zero, and catches what is raised behind the
  console; a counter is found to be inside the code before it is followed. The one mishap that is
  left is an error that cannot be told, and where a run breaks off for one the machine says so. What
  a run comes to is what the machine says that it comes to.
Main exports: Exposed.comesTo, Exposed.run_perform, Exposed.settled, Exposed.run_step,
  Exposed.run_loop
-/
import BlankCode.Proofs.Exposure
import BlankCode.Proofs.Performance

namespace BlankCode.Exposed

section

variable {σ μ α β : Type} {machine next : Machine σ μ}

/-! ### Acts in a row -/

theorem run_bind_of_ok {act : Act σ μ α} {rest : α → Act σ μ β} {value : α}
    (ran : act.run machine = .ok value next) :
    (act >>= rest).run machine = (rest value).run next := by
  rw [EStateM.run_bind, ran]

theorem run_bind_of_error {act : Act σ μ α} {rest : α → Act σ μ β} {trouble : Trouble}
    (ran : act.run machine = .error trouble next) :
    (act >>= rest).run machine = .error trouble next := by
  rw [EStateM.run_bind, ran]

/-- What is caught is caught where it happened: nothing that was done before is undone. -/
theorem run_tryCatch_of_error {act : Act σ μ α} {handler : Trouble → Act σ μ α} {trouble : Trouble}
    (ran : act.run machine = .error trouble next) :
    (tryCatch act handler).run machine = (handler trouble).run next := by
  change act machine = _ at ran
  change EStateM.tryCatch act handler machine = _
  delta EStateM.tryCatch
  dsimp only
  rw [ran]
  rfl

theorem run_tryCatch_of_ok {act : Act σ μ α} {handler : Trouble → Act σ μ α} {value : α}
    (ran : act.run machine = .ok value next) :
    (tryCatch act handler).run machine = .ok value next := by
  change act machine = _ at ran
  change EStateM.tryCatch act handler machine = _
  delta EStateM.tryCatch
  dsimp only
  rw [ran]

/-- What performing an instruction comes to, as an act comes to it. -/
def comesTo : Machine.Outcome σ μ → EStateM.Result Trouble (Machine σ μ) Unit
  | .done machine => .ok () machine
  | .faulted machine error => .error (.ofDefeat error.defeat) machine

/-! ### Places on the stack -/

theorem pop_of_cons {top : Int} {rest : List Int} (there : machine.stack = top :: rest) :
    pop.run machine = .ok top { machine with stack := rest } := by
  rw [pop, EStateM.run_bind, EStateM.run_get]
  dsimp only
  rw [there]
  rfl

/-- The value `count` places below the top has the index `-count - 1`. -/
theorem place?_fromTop {length count : Nat} {index : Int} (fromTop : index = -count - 1)
    (within : count < length) : place? length index = some (length - 1 - count) := by
  unfold place?
  rw [if_neg (by omega), if_pos (by omega)]
  congr 1
  omega

theorem item_of_getElem? (count : Nat) {index value : Int} (fromTop : index = -count - 1)
    (there : machine.stack[count]? = some value) :
    (item index).run machine = .ok value machine := by
  have within := (List.getElem?_eq_some_iff.mp there).1
  have found : (place? machine.stack.reverse.length index).bind (machine.stack.reverse[·]?) =
      some value := by
    rw [List.length_reverse, place?_fromTop fromTop within, Option.bind_some,
      List.getElem?_reverse (by omega), ← there]
    congr 1
    omega
  rw [item, EStateM.run_bind, EStateM.run_get]
  dsimp only
  rw [found]
  rfl

theorem item_top {top : Int} {rest : List Int} (there : machine.stack = top :: rest) :
    (item (-1)).run machine = .ok top machine :=
  item_of_getElem? 0 rfl (by rw [there]; rfl)

theorem item_second {top second : Int} {rest : List Int}
    (there : machine.stack = top :: second :: rest) :
    (item (-2)).run machine = .ok second machine :=
  item_of_getElem? 1 rfl (by rw [there]; rfl)

theorem reverse_set_reverse (values : List Int) {count : Nat} (within : count < values.length)
    (value : Int) :
    (values.reverse.set (values.length - 1 - count) value).reverse = values.set count value := by
  apply List.ext_getElem
  · simp
  · intro index lower upper
    simp only [List.length_reverse, List.length_set] at lower upper
    have same : values.length - 1 - count = values.length - 1 - index ↔ count = index := by omega
    simp only [List.getElem_reverse, List.getElem_set, List.length_set, List.length_reverse, same]
    split
    · rfl
    · congr 1
      omega

theorem setItem_of_lt (count : Nat) {index : Int} (fromTop : index = -count - 1)
    (within : count < machine.stack.length) (value : Int) :
    (setItem index value).run machine =
      .ok () { machine with stack := machine.stack.set count value } := by
  have found : place? machine.stack.reverse.length index =
      some (machine.stack.length - 1 - count) := by
    rw [List.length_reverse, place?_fromTop fromTop within]
  rw [setItem, EStateM.run_bind, EStateM.run_get]
  dsimp only
  rw [found]
  show EStateM.Result.ok () { machine with stack := _ } = _
  rw [reverse_set_reverse _ within]

theorem setItem_top {top : Int} {rest : List Int} (there : machine.stack = top :: rest)
    (value : Int) :
    (setItem (-1) value).run machine = .ok () { machine with stack := value :: rest } := by
  have replaced : (setItem (-1) value).run machine = _ :=
    setItem_of_lt 0 rfl (by simp [there]) value
  rw [replaced, there]
  rfl

theorem setItem_second {top second : Int} {rest : List Int}
    (there : machine.stack = top :: second :: rest) (value : Int) :
    (setItem (-2) value).run machine = .ok () { machine with stack := top :: value :: rest } := by
  have replaced : (setItem (-2) value).run machine = _ :=
    setItem_of_lt 1 rfl (by simp [there]) value
  rw [replaced, there]
  rfl

/-- Taking off all from the place above which there are `count` values. -/
theorem deleteFrom_of_place (count : Nat) {index : Int}
    (place : (if index < 0 then (index + machine.stack.length).toNat else index.toNat) =
      machine.stack.length - count) :
    (deleteFrom index).run machine = .ok () { machine with stack := machine.stack.drop count } := by
  show EStateM.Result.ok () { machine with stack := _ } = _
  rw [List.length_reverse, place, List.take_reverse, List.reverse_reverse]
  congr 2
  rcases Nat.le_total count machine.stack.length with within | beyond
  · congr 1
    omega
  · rw [List.drop_eq_nil_of_le beyond, List.drop_eq_nil_of_le (by omega)]

/-! ### Depths of the stack -/

/-- Where values are asked for, and are there, an act goes on. -/
theorem run_require_of_le {count : Int} {rest : Unit → Act σ μ β}
    (enough : count ≤ machine.stack.length) :
    (require count >>= rest).run machine = (rest ()).run machine := by
  apply run_bind_of_ok
  rw [require, EStateM.run_bind]
  show EStateM.run (if _ then _ else _) machine = _
  rw [if_neg (Int.not_lt.mpr enough)]
  rfl

/-- Where values are asked for, and are not there, an act is over. -/
theorem run_require_of_lt {count : Int} {rest : Unit → Act σ μ Unit}
    (short : machine.stack.length < count) :
    (require count >>= rest).run machine = comesTo (.faulted machine .stackUnderflow) := by
  apply run_bind_of_error
  rw [require, EStateM.run_bind]
  show EStateM.run (if _ then _ else _) machine = _
  rw [if_pos short]
  rfl

/-- The value that is asked for is there to be taken off, -/
theorem run_require_pop {top : Int} {rest : List Int} {act : Int → Act σ μ β}
    (there : machine.stack = top :: rest) :
    (require 1 >>= fun _ => pop >>= act).run machine =
      (act top).run { machine with stack := rest } := by
  have enough : (1 : Int) ≤ machine.stack.length := by
    rw [there, List.length_cons]
    omega
  rw [run_require_of_le enough, run_bind_of_ok (pop_of_cons there)]

/-- or to be looked at, -/
theorem run_require_item {top : Int} {rest : List Int} {act : Int → Act σ μ β}
    (there : machine.stack = top :: rest) :
    (require 1 >>= fun _ => item (-1) >>= act).run machine = (act top).run machine := by
  have enough : (1 : Int) ≤ machine.stack.length := by
    rw [there, List.length_cons]
    omega
  rw [run_require_of_le enough, run_bind_of_ok (item_top there)]

/-- and so are two values that are asked for. -/
theorem run_require_items {top second : Int} {rest : List Int} {act : Int → Int → Act σ μ β}
    (there : machine.stack = top :: second :: rest) :
    (require 2 >>= fun _ => item (-1) >>= fun upper => item (-2) >>= act upper).run machine =
      (act top second).run machine := by
  have enough : (2 : Int) ≤ machine.stack.length := by
    rw [there, List.length_cons, List.length_cons]
    omega
  rw [run_require_of_le enough, run_bind_of_ok (item_top there), run_bind_of_ok (item_second there)]

theorem run_require_pops {top second : Int} {rest : List Int} {act : Int → Int → Act σ μ β}
    (there : machine.stack = top :: second :: rest) :
    (require 2 >>= fun _ => pop >>= fun upper => pop >>= act upper).run machine =
      (act top second).run { machine with stack := rest } := by
  have enough : (2 : Int) ≤ machine.stack.length := by
    rw [there, List.length_cons, List.length_cons]
    omega
  rw [run_require_of_le enough, run_bind_of_ok (pop_of_cons there),
    run_bind_of_ok (pop_of_cons rfl)]

/-! ### Instructions -/

/-- The divisor of a division that goes on is not zero. -/
theorem run_truncatedDivide (machine : Machine σ μ) (lower : Int) {upper : Int}
    (nonzero : upper ≠ 0) :
    ∃ quotient, Word.divide? lower upper = some quotient ∧
      (truncatedDivide lower upper).run machine = .ok quotient machine := by
  have magnitude : (upper.natAbs : Int) ≠ 0 := by omega
  have floor : (lower.natAbs : Int).fdiv upper.natAbs = (lower.natAbs : Int) / upper.natAbs :=
    Int.fdiv_eq_ediv_of_nonneg _ (Int.natCast_nonneg _)
  refine ⟨_, by rw [Word.divide?, if_neg nonzero], ?_⟩
  rw [truncatedDivide, floorDivide, if_neg magnitude, pure_bind, floor]
  rfl

theorem run_combine (machine : Machine σ μ) (operation : Operation) (lower upper : Int) :
    (combine operation lower upper).run machine =
      match Machine.combine operation lower upper with
      | .ok result => .ok result machine
      | .error error => .error (.ofDefeat error.defeat) machine := by
  cases operation with
  | divide =>
      by_cases zero : upper = 0
      · subst zero
        rfl
      · obtain ⟨quotient, divides, ran⟩ := run_truncatedDivide machine lower zero
        simp only [combine, Machine.combine, if_neg zero, divides]
        exact ran
  | modulo =>
      by_cases zero : upper = 0
      · subst zero
        rfl
      · obtain ⟨quotient, divides, ran⟩ := run_truncatedDivide machine lower zero
        simp only [combine, Machine.combine, if_neg zero, divides]
        exact run_bind_of_ok ran
  | _ => rfl

theorem run_arithmetic (operation : Operation) :
    (arithmetic operation).run machine = comesTo (machine.arithmetic operation) := by
  rw [arithmetic, Machine.arithmetic]
  rcases there : machine.stack with _ | ⟨upper, _ | ⟨lower, rest⟩⟩
  · exact run_require_of_lt (by simp [there])
  · exact run_require_of_lt (by simp [there])
  · rw [run_require_items there]
    have combined := run_combine machine operation lower upper
    dsimp only
    cases result : Machine.combine operation lower upper with
    | error error =>
        rw [result] at combined
        exact run_bind_of_error combined
    | ok value =>
        rw [result] at combined
        have deleted : (deleteFrom (-2)).run machine =
            .ok () { machine with stack := machine.stack.drop 2 } :=
          deleteFrom_of_place 2 (by rw [if_pos (by decide)]; omega)
        rw [run_bind_of_ok combined, run_bind_of_ok deleted, there]
        rfl

theorem run_copy (count : Int) : (copy count).run machine = comesTo (machine.copy count) := by
  rw [copy, Machine.copy]
  by_cases negative : count < 0
  · rw [if_pos negative, if_pos negative]
    rfl
  · rw [if_neg negative, if_neg negative]
    cases found : machine.stack[count.toNat]? with
    | none =>
        have short := List.getElem?_eq_none_iff.mp found
        exact run_require_of_lt (by omega)
    | some value =>
        have within := (List.getElem?_eq_some_iff.mp found).1
        have there : (item (-count - 1)).run machine = .ok value machine :=
          item_of_getElem? count.toNat (by omega) found
        dsimp only
        rw [run_require_of_le (by omega), run_bind_of_ok there]
        rfl

theorem run_slide (count : Int) : (slide count).run machine = comesTo (machine.slide count) := by
  rw [slide, Machine.slide]
  by_cases negative : count < 0
  · rw [if_pos negative, if_pos negative]
    rfl
  · rw [if_neg negative, if_neg negative]
    cases there : machine.stack with
    | nil => exact run_require_of_lt (by rw [there, List.length_nil]; omega)
    | cons top rest =>
        have size : machine.stack.length = rest.length + 1 := by rw [there, List.length_cons]
        dsimp only
        by_cases short : (rest.length : Int) < count
        · rw [if_pos short]
          exact run_require_of_lt (by omega)
        · have deleted : (deleteFrom (rest.length - count)).run { machine with stack := rest } =
              .ok () { machine with stack := rest.drop count.toNat } :=
            deleteFrom_of_place count.toNat (by dsimp only; rw [if_neg (by omega)]; omega)
          rw [if_neg short, run_require_of_le (by omega), run_bind_of_ok (pop_of_cons there),
            run_bind_of_ok (EStateM.run_get _), run_bind_of_ok deleted]
          rfl

theorem run_swap :
    swap.run machine = comesTo (match machine.stack with
      | first :: second :: rest => .done { machine with stack := second :: first :: rest }
      | _ => .faulted machine .stackUnderflow) := by
  rw [swap]
  rcases there : machine.stack with _ | ⟨first, _ | ⟨second, rest⟩⟩
  · exact run_require_of_lt (by simp [there])
  · exact run_require_of_lt (by simp [there])
  · rw [run_require_items there, run_bind_of_ok (setItem_top there second)]
    exact setItem_second rfl first

theorem run_branch (condition : Int → Bool) (target : Int) :
    (branch condition target).run machine = comesTo (machine.branch condition target) := by
  rw [branch, Machine.branch]
  cases there : machine.stack with
  | nil => exact run_require_of_lt (by simp [there])
  | cons value rest =>
      rw [run_require_pop there]
      dsimp only
      cases condition value <;> rfl

/-- Storing fails at addresses that are negative. -/
theorem run_store [Memory μ] (address value : Int) :
    (store address value).run machine = comesTo (machine.finishStore address value) := by
  rw [Machine.finishStore_eq, store]
  by_cases negative : address < 0
  · rw [if_pos negative, if_pos negative]
    rfl
  · rw [if_neg negative, if_neg negative]
    rfl

theorem run_retrieve [Memory μ] : retrieve.run machine = comesTo machine.retrieve := by
  rw [retrieve, Machine.retrieve]
  cases there : machine.stack with
  | nil => exact run_require_of_lt (by simp [there])
  | cons address rest =>
      rw [run_require_item there]
      dsimp only
      by_cases negative : address < 0
      · rw [if_pos negative, if_pos negative]
        rfl
      · rw [if_neg negative, if_neg negative, run_bind_of_ok (EStateM.run_get _)]
        exact setItem_top there _

/-- What goes wrong behind the console comes out as a failure. -/
theorem run_guarded_ask (machine : Machine σ μ) (call : σ → Except Console.Fault α × σ) :
    (guarded (ask call)).run machine = match call machine.console with
      | (.ok value, console) => .ok value { machine with console := console }
      | (.error fault, console) =>
        .error (.ofDefeat fault.error.defeat) { machine with console := console } := by
  have asked : (ask call).run machine = ask call machine := rfl
  unfold ask at asked
  rcases reply : call machine.console with ⟨(_ | ⟨kind, text⟩) | value, console⟩
  all_goals rw [reply] at asked
  · exact run_tryCatch_of_error asked
  · exact run_tryCatch_of_error asked
  · exact run_tryCatch_of_ok asked

theorem run_write [Console σ] (output : Int → Console.Output) :
    (write output).run machine = comesTo (machine.write output) := by
  rw [write, Machine.write]
  cases there : machine.stack with
  | nil => exact run_require_of_lt (by simp [there])
  | cons value rest =>
      rw [run_require_pop there, run_guarded_ask]
      dsimp only
      rcases Console.write machine.console (output value) with ⟨fault | _, console⟩ <;> rfl

theorem run_read [Console σ] [Memory μ] (query : Console.Query) (adjust : Int → Int) :
    (read query adjust).run machine = comesTo (machine.read query adjust) := by
  rw [read, Machine.read]
  cases there : machine.stack with
  | nil => exact run_require_of_lt (by simp [there])
  | cons address rest =>
      have asked := run_guarded_ask { machine with stack := rest } (Console.read · query)
      rw [run_require_pop there]
      dsimp only at asked ⊢
      rcases reply : Console.read machine.console query with ⟨fault | value, console⟩
      · rw [reply] at asked
        exact run_bind_of_error asked
      · rw [reply] at asked
        rw [run_bind_of_ok asked]
        exact run_store address (adjust value)

/-- Performing an instruction comes to the same without mishap. -/
theorem run_perform [Console σ] [Memory μ] (instruction : Instruction) :
    (perform instruction).run machine = comesTo (machine.perform instruction) := by
  rw [perform, Machine.perform]
  cases instruction.operation with
  | invalid | push | call | jump | exit => rfl
  | copy => exact run_copy instruction.argument
  | swap => exact run_swap
  | slide => exact run_slide instruction.argument
  | add | subtract | multiply | divide | modulo => exact run_arithmetic _
  | retrieve => exact run_retrieve
  | jumpIfZero | jumpIfNegative => exact run_branch _ instruction.argument
  | writeChar | writeNumber => exact run_write _
  | readChar | readNumber => exact run_read _ _
  | duplicate =>
      dsimp only
      cases there : machine.stack with
      | nil => exact run_require_of_lt (by simp [there])
      | cons top rest =>
          rw [run_require_item there]
          show EStateM.Result.ok () { machine with stack := top :: machine.stack } = _
          rw [there]
          rfl
  | discard =>
      dsimp only
      cases there : machine.stack with
      | nil => exact run_require_of_lt (by simp [there])
      | cons top rest => exact run_require_pop there
  | store =>
      dsimp only
      rcases there : machine.stack with _ | ⟨value, _ | ⟨address, rest⟩⟩
      · exact run_require_of_lt (by simp [there])
      · exact run_require_of_lt (by simp [there])
      · rw [run_require_pops there]
        exact run_store address value
  | ret =>
      dsimp only
      rw [run_bind_of_ok (EStateM.run_get _)]
      cases there : machine.calls with
      | nil => rfl
      | cons position rest =>
          have popped : popCall.run machine = .ok position { machine with calls := rest } := by
            rw [popCall, run_bind_of_ok (EStateM.run_get _), there]
            rfl
          exact run_bind_of_ok popped

/-! ### Steps and runs -/

/-- What comes out in an error's place: the failure, if it can be told. -/
def told (program : Program) (error : ExecutionError) : Trouble :=
  if program.tells error then .failure (.execution error) else .ofDefeat .unwritable

/-- Apart from the end of the code an error can be told if its report can be written. -/
theorem told_of_tells {program : Program} {error : ExecutionError}
    (same : program.tells error = error.isTellable) :
    told program error = .ofDefeat error.defeat := by
  rw [told, ExecutionError.defeat, same]
  split <;> rfl

/-- Where a run has broken off the mishap comes out, and otherwise the failure that is recorded. -/
def settled (ran : Machine.Ran σ μ) : EStateM.Result Trouble (Machine σ μ) Unit :=
  if ran.brokeOff then .error (.ofDefeat .unwritable) ran.machine
  else
    match ran.machine.failure? with
    | some failure => .error (.failure failure) ran.machine
    | none => .ok () ran.machine

theorem settled_of_failure? {failure : Failure} (failed : machine.failure? = some failure) :
    settled ⟨machine, false⟩ = .error (.failure failure) machine := by
  simp [settled, failed]

theorem settled_of_unfailed (unfailed : machine.failure? = none) :
    settled ⟨machine, false⟩ = .ok () machine := by
  simp [settled, unfailed]

/-- A counter that is found to be inside the code has an instruction. -/
theorem run_current (machine : Machine σ μ) (program : Program) :
    (current program).run machine = match machine.current program with
      | .ok instruction => .ok instruction machine
      | .error error => .error (told program error) machine := by
  rw [current, Machine.current, run_bind_of_ok (EStateM.run_get _)]
  dsimp only
  cases found : program.fetch? machine.counter with
  | none =>
      have outside := Program.outside_of_fetch? found
      dsimp only
      by_cases atEnd : machine.counter = program.size
      · have tells : program.tells (.counterOutOfRange machine.counter) = true := by
          simp [Program.tells, atEnd]
        rw [if_pos atEnd, told, if_pos tells]
        rfl
      · have same : program.tells (.counterOutOfRange machine.counter) =
            (ExecutionError.counterOutOfRange machine.counter).isTellable := by
          simp [Program.tells, atEnd]
        rw [if_neg atEnd, if_pos (by omega), told_of_tells same]
        rfl
  | some instruction =>
      obtain ⟨lower, upper, _⟩ := Program.inside_of_fetch? found
      have there : (place? program.size machine.counter).bind (program.instructions[·]?) =
          some instruction := by
        rw [place?, if_pos lower, if_pos upper, Option.bind_some, Program.instructions,
          Array.getElem?_toList]
        rw [Program.fetch?, if_pos lower] at found
        exact found
      rw [if_neg (by omega), if_neg (by omega), there]
      rfl

/-- An instruction that is done records no failure, -/
theorem failure?_of_done [Console σ] [Memory μ] {instruction : Instruction}
    (performs : machine.Performs instruction (.done next)) (running : machine.status = .running) :
    next.failure? = none := by
  cases performs with
  | exited => simp [Machine.failure?, Machine.stop, running]
  | _ => simp [Machine.failure?, running]

/-- nor does one that has failed by itself. -/
theorem status_of_faulted [Console σ] [Memory μ] {instruction : Instruction}
    {error : ExecutionError} (performs : machine.Performs instruction (.faulted next error))
    (running : machine.status = .running) : next.status = .running := by
  cases performs <;> exact running

/-- An error that can be told is recorded, and any other passes without a trace. -/
theorem run_recording_of_error {act : Act σ μ Unit} {program : Program} {error : ExecutionError}
    (ran : act.run machine = .error (told program error) next) (running : next.status = .running) :
    (recording act).run machine =
      settled ⟨next.raise program error, !program.tells error⟩ := by
  rw [recording, run_tryCatch_of_error ran, told, Machine.raise]
  cases program.tells error with
  | true =>
      have recorded : (next.fail (.execution error)).failure? = some (.execution error) := by
        simp [Machine.fail, Machine.failure?, running]
      exact (settled_of_failure? recorded).symm
  | false => rfl

theorem run_recording_of_ok {act : Act σ μ Unit} (ran : act.run machine = .ok () next)
    (unfailed : next.failure? = none) : (recording act).run machine = settled ⟨next, false⟩ := by
  rw [recording, run_tryCatch_of_ok ran, settled_of_unfailed unfailed]

/-- An attempt comes to the same without mishap. -/
theorem run_attempt [Console σ] [Memory μ] (program : Program)
    (running : machine.status = .running) :
    (recording do
        let instruction ← current program
        modify fun machine => { machine with counter := machine.counter + 1 }
        perform instruction : Act σ μ Unit).run machine =
      settled ⟨(machine.attempt program).settle program,
        (machine.attempt program).breaksOff program⟩ := by
  have fetched := run_current machine program
  rw [Machine.attempt]
  cases found : machine.current program with
  | error error =>
      rw [found] at fetched
      exact run_recording_of_error (run_bind_of_error fetched) running
  | ok instruction =>
      rw [found] at fetched
      dsimp only
      let advanced := { machine with counter := machine.counter + 1 }
      have performs := Machine.performs_perform advanced instruction
      have acted : (do
            let instruction ← current program
            modify fun machine => { machine with counter := machine.counter + 1 }
            perform instruction : Act σ μ Unit).run machine = _ :=
        (run_bind_of_ok fetched).trans (run_perform instruction)
      cases outcome : advanced.perform instruction with
      | done next =>
          rw [outcome] at acted performs
          exact run_recording_of_ok acted (failure?_of_done performs running)
      | faulted next error =>
          rw [outcome, comesTo] at acted
          rw [outcome] at performs
          rw [← told_of_tells (Machine.tells_of_faulted _ program performs)] at acted
          exact run_recording_of_error acted (status_of_faulted performs running)

/-- A step comes to the same without mishap, and what is recorded after it comes out. -/
theorem run_step [Console σ] [Memory μ] (machine : Machine σ μ) (program : Program) :
    (step program).run machine =
      settled ⟨machine.step program, machine.breaksOff program⟩ := by
  rw [step, run_bind_of_ok (EStateM.run_get _)]
  by_cases running : machine.status = .running
  · rw [Machine.step_of_running running, Machine.breaksOff_of_running running, running]
    exact run_attempt program running
  · rw [Machine.step_of_ended running,
      Machine.breaksOff_of_ended (Machine.isRunning_eq_false_iff.mpr running)]
    cases status : machine.status with
    | failed failure =>
        rw [settled_of_failure? (Machine.failure?_eq_some_iff.mpr status)]
        rfl
    | stopped =>
        rw [settled_of_unfailed (by simp [Machine.failure?, status])]
        rfl
    | running => exact absurd status running

/-- So does a run. -/
theorem run_loop [Console σ] [Memory μ] (program : Program) (count : Nat) :
    ∀ {machine : Machine σ μ}, machine.failure? = none →
      (loop program count).run machine = settled (machine.loop program count) := by
  induction count with
  | zero =>
      intro machine unfailed
      rw [Machine.loop, settled_of_unfailed unfailed]
      rfl
  | succ count ih =>
      intro machine unfailed
      rw [loop, run_bind_of_ok (EStateM.run_get _)]
      cases goesOn : machine.isRunning with
      | false =>
          rw [Machine.loop_of_ended goesOn, settled_of_unfailed unfailed]
          rfl
      | true =>
          have stepped := run_step machine program
          rw [if_pos rfl, Machine.loop_succ]
          cases broke : machine.breaksOff program with
          | true =>
              rw [broke] at stepped
              exact run_bind_of_error stepped
          | false =>
              rw [broke] at stepped
              rw [if_neg Bool.false_ne_true]
              cases failed : (machine.step program).failure? with
              | some failure =>
                  rw [settled_of_failure? failed] at stepped
                  have ended := Machine.isRunning_of_failure? failed
                  rw [Machine.loop_of_ended ended, settled_of_failure? failed]
                  exact run_bind_of_error stepped
              | none =>
                  rw [settled_of_unfailed failed] at stepped
                  exact (run_bind_of_ok stepped).trans (ih failed)

end

end BlankCode.Exposed

/-
Module: BlankCode.Proofs.DenseHeap
Purpose: The heap that keeps only the cells that were stored to does what the heap of the language
  does, an array that is filled up with zeros as far as it is stored to. A machine that has the one
  goes through the same states as a machine that has the other, and fetches from either what was
  stored last.
Main exports: Dense, Dense.fetch_store, Fills, matches_fills, Machine.Stores, Machine.Latest,
  Machine.latest_fetch, DenseHeap.Refines, DenseHeap.sparse_refines
-/
import BlankCode.Console.Streams
import BlankCode.Proofs.Likeness

namespace BlankCode

/-- A heap that keeps every cell up to the last one that was stored to. -/
structure Dense where
  cells : Array Int := #[]
deriving DecidableEq, Repr

namespace Dense

/-- A heap to which nothing was stored. -/
instance : EmptyCollection Dense := ⟨⟨#[]⟩⟩

/-- The value at an address. Beyond the cells it is zero. -/
def fetch (dense : Dense) (address : Int) : Int :=
  dense.cells.getD address.toNat 0

/-- The cells with zeros behind them, as many as there have to be for a number of cells. -/
def extended (dense : Dense) (count : Nat) : Array Int :=
  dense.cells ++ Array.replicate (count - dense.cells.size) 0

/-- The heap with a value stored at an address, for which there is a cell then. -/
def store (dense : Dense) (address value : Int) : Dense :=
  ⟨(dense.extended (address.toNat + 1)).setIfInBounds address.toNat value⟩

instance : Memory Dense where
  fetch := fetch
  store := store

/-- Zeros behind the cells make no difference to what is fetched. -/
theorem getD_extended (dense : Dense) (count index : Nat) :
    (dense.extended count).getD index 0 = dense.cells.getD index 0 := by
  simp only [extended, Array.getD_eq_getD_getElem?, Array.getElem?_append]
  split
  · rfl
  · rename_i beyond
    rw [Array.getElem?_eq_none (Nat.le_of_not_lt beyond), Array.getElem?_replicate]
    split <;> rfl

theorem lt_size_extended (dense : Dense) (index : Nat) :
    index < (dense.extended (index + 1)).size := by
  simp only [extended, Array.size_append, Array.size_replicate]
  omega

/-- A store is seen at its own address and nowhere else. -/
theorem fetch_store (dense : Dense) {address other : Int} (addressed : 0 ≤ address)
    (otherAddressed : 0 ≤ other) (value : Int) :
    (dense.store address value).fetch other =
      if address = other then value else dense.fetch other := by
  have inside := dense.lt_size_extended address.toNat
  by_cases same : address = other
  · rw [if_pos same, ← same]
    simp only [fetch, store, Array.getD_eq_getD_getElem?, Array.getElem?_setIfInBounds,
      if_pos inside, if_true, Option.getD_some]
  · have apart : address.toNat ≠ other.toNat := by omega
    rw [if_neg same, fetch, fetch, ← dense.getD_extended (address.toNat + 1)]
    simp only [store, Array.getD_eq_getD_getElem?, Array.getElem?_setIfInBounds, if_neg apart]

end Dense

/-- A dense heap is a sparse one filled up with zeros: there is the same at every address, and of
the cells of the sparse one none is at a negative address. -/
structure Fills (heap : Heap) (dense : Dense) : Prop where
  cell : ∀ address, 0 ≤ address → heap.fetch address = dense.cells.getD address.toNat 0
  addressed : ∀ cell ∈ heap.cells, 0 ≤ cell.1

theorem fills_empty : Fills ∅ ∅ where
  cell := fun address _ => Heap.fetch_empty address
  addressed := nofun

/-- Whatever the order of the stores is, those before are not lost. -/
theorem Fills.store {heap : Heap} {dense : Dense} (fills : Fills heap dense) {address : Int}
    (addressed : 0 ≤ address) (value : Int) :
    Fills (heap.store address value) (dense.store address value) where
  cell := by
    intro other otherAddressed
    have before := fills.cell other otherAddressed
    have after := dense.fetch_store addressed otherAddressed value
    rw [Dense.fetch, Dense.fetch, ← before] at after
    rw [after, Heap.fetch_store]
  addressed := by
    intro cell member
    rcases Heap.mem_cells_store member with rfl | before
    · exact addressed
    · exact fills.addressed cell before

theorem matches_fills : Memory.Matches Fills where
  fetch := fun fills addressed => fills.cell _ addressed
  store := fun fills addressed value => fills.store addressed value

namespace Machine

variable {σ μ : Type} [Console σ]

/-! ### The last store -/

/-- In its next step a machine stores a value at an address. It takes both off the stack, or only
the address, and for the value asks its console. -/
inductive Stores (program : Program) (machine : Machine σ μ) : Int → Int → Prop where
  | stored {value address argument : Int} {rest : List Int} (running : machine.status = .running)
      (found : program.fetch? machine.counter = some ⟨.store, argument⟩)
      (top : machine.stack = value :: address :: rest) (addressed : 0 ≤ address) :
      Stores program machine address value
  | read {value address : Int} {rest : List Int} {instruction : Instruction}
      {query : Console.Query} {console : σ} (running : machine.status = .running)
      (found : program.fetch? machine.counter = some instruction)
      (reads : instruction.operation = query.operation) (top : machine.stack = address :: rest)
      (addressed : 0 ≤ address)
      (reply : Console.read machine.console query = (.ok value, console)) :
      Stores program machine address (query.kept value)

variable [Memory μ] {program : Program} {machine : Machine σ μ}

/-- The step stores there what it is said to store. -/
theorem Stores.heap_step {address value : Int} (stores : Stores program machine address value) :
    (machine.step program).heap = Memory.store machine.heap address value := by
  cases stores with
  | stored running found top addressed =>
      rw [step_of_fetch? running found]
      simp only [perform, top, finishStore_eq, if_neg (Int.not_lt.mpr addressed), Outcome.settle]
  | @read value address rest instruction query console running found reads top addressed reply =>
      rw [step_of_fetch? running found]
      rcases instruction with ⟨operation, argument⟩
      subst reads
      cases query with
      | char | number =>
          simp only [Console.Query.operation, perform, Machine.read, top, reply, finishStore_eq,
            if_neg (Int.not_lt.mpr addressed), Outcome.settle]
          rfl

/-- No other step changes the heap. -/
theorem heap_step (unstored : ∀ address value, ¬ Stores program machine address value) :
    (machine.step program).heap = machine.heap := by
  apply step_cases (motive := fun next => next.heap = machine.heap)
  · intro _
    rfl
  · intro _ _
    exact heap_raise
  · intro instruction outcome running found performs
    cases performs with
    | rearranged | called | went | returned | wrote => rfl
    | refused | misplaced | unwritten | readMisplaced | unread => exact heap_raise
    | exited => exact heap_stop
    | @stored value address _ top addressed isStore =>
        rcases instruction with ⟨operation, argument⟩
        subst isStore
        exact absurd (.stored running found top addressed) (unstored address value)
    | @read address value _ query _ top reply addressed reads =>
        exact absurd (.read running found reads top addressed reply)
          (unstored address (query.kept value))

/-- The last value that is stored at an address in a number of steps, or zero when none is. -/
inductive Latest (program : Program) (first : Machine σ μ) (steps : Nat) (address : Int) :
    Int → Prop where
  | stored {value : Int} {before : Nat} (inTime : before < steps)
      (stores : Stores program ((step program)^[before] first) address value)
      (afterwards : ∀ later, before < later → later < steps → ∀ other,
        ¬ Stores program ((step program)^[later] first) address other) :
      Latest program first steps address value
  | never (unstored : ∀ before < steps, ∀ value,
        ¬ Stores program ((step program)^[before] first) address value) :
      Latest program first steps address 0

/-- A step more, that stores nothing there. -/
theorem Latest.succ {first : Machine σ μ} {steps : Nat} {address value : Int}
    (latest : Latest program first steps address value)
    (unstored : ∀ other, ¬ Stores program ((step program)^[steps] first) address other) :
    Latest program first (steps + 1) address value := by
  cases latest with
  | stored inTime stores afterwards =>
      refine .stored (Nat.lt_succ_of_lt inTime) stores ?_
      intro later follows inTime
      rcases Nat.lt_succ_iff_lt_or_eq.mp inTime with earlier | rfl
      · exact afterwards later follows earlier
      · exact unstored
  | never unstoredBefore =>
      refine .never ?_
      intro before inTime
      rcases Nat.lt_succ_iff_lt_or_eq.mp inTime with earlier | rfl
      · exact unstoredBefore before earlier
      · exact unstored

/-- What is at an address is only changed by a store there. -/
theorem fetch_step {machine : Machine σ} {address : Int}
    (unstored : ∀ value, ¬ Stores program machine address value) :
    (machine.step program).heap.fetch address = machine.heap.fetch address := by
  by_cases elsewhere : ∃ other value, Stores program machine other value
  · obtain ⟨other, value, stores⟩ := elsewhere
    have apart : other ≠ address := by
      rintro rfl
      exact unstored value stores
    have fetched := Heap.fetch_store machine.heap other value address
    rw [if_neg apart] at fetched
    rw [stores.heap_step]
    exact fetched
  · rw [heap_step fun other value stores => elsewhere ⟨other, value, stores⟩]

/-- What is fetched is what was stored last. -/
theorem latest_fetch (program : Program) (console : σ) (steps : Nat) (address : Int) :
    Latest program (start console : Machine σ) steps address
      (((step program)^[steps] (start console : Machine σ)).heap.fetch address) := by
  induction steps with
  | zero =>
      have nothing : (start console : Machine σ).heap.fetch address = 0 := Heap.fetch_empty address
      rw [Function.iterate_zero_apply, nothing]
      exact .never fun before inTime => absurd inTime (Nat.not_lt_zero before)
  | succ steps ih =>
      rw [Function.iterate_succ_apply']
      by_cases here : ∃ value,
          Stores program ((step program)^[steps] (start console : Machine σ)) address value
      · obtain ⟨value, stores⟩ := here
        have fetched := Heap.fetch_store ((step program)^[steps] (start console : Machine σ)).heap
          address value address
        rw [if_pos rfl] at fetched
        rw [stores.heap_step]
        refine fetched.symm ▸ .stored (Nat.lt_succ_self steps) stores ?_
        intro later follows inTime
        omega
      · have unstored : ∀ value,
            ¬ Stores program ((step program)^[steps] (start console : Machine σ)) address value :=
          fun value stores => here ⟨value, stores⟩
        rw [fetch_step unstored]
        exact ih.succ unstored

end Machine

namespace DenseHeap

open Machine

variable {σ : Type} [Console σ]

/-- Two machines are in the same state but for their heaps, and the one heap filled up with zeros
is the other. -/
structure Refines (sparse : Machine σ) (dense : Machine σ Dense) : Prop where
  console : sparse.console = dense.console
  counter : sparse.counter = dense.counter
  stack : sparse.stack = dense.stack
  calls : sparse.calls = dense.calls
  status : sparse.status = dense.status
  heap : Fills sparse.heap dense.heap

omit [Console σ] in
theorem refines_of_alike {sparse : Machine σ} {dense : Machine σ Dense}
    (alike : sparse.Alike Eq Fills dense) : Refines sparse dense := by
  rcases alike with ⟨same, fills⟩
  exact ⟨same, rfl, rfl, rfl, rfl, fills⟩

/-- A console replies the same to both. -/
theorem consolesAgree {sparse : Machine σ} {dense : Machine σ Dense}
    (alike : sparse.Alike Eq Fills dense) (instruction : Instruction) :
    sparse.ConsolesAgree Eq dense instruction := by
  rcases alike with ⟨rfl, fills⟩
  exact ⟨fun _ _ _ => .intro _ rfl, fun _ _ _ => .intro _ rfl⟩

/-- After any number of steps a machine with a sparse heap is in the state of a machine with a dense
one, and a retrieve gives what was stored last at its address. -/
theorem sparse_refines (program : Program) (console : σ) (steps : Nat) :
    Refines (reached Heap program console steps) (reached Dense program console steps) ∧
      ∀ {argument address : Int} {rest : List Int},
        (reached Heap program console steps).status = .running →
        program.fetch? (reached Heap program console steps).counter =
          some ⟨.retrieve, argument⟩ →
        (reached Heap program console steps).stack = address :: rest → 0 ≤ address →
        ∃ value, Latest program (start console : Machine σ) steps address value ∧
          (reached Heap program console steps).step program =
            { reached Heap program console steps with
              counter := (reached Heap program console steps).counter + 1
              stack := value :: rest } := by
  constructor
  · have fresh : (start console : Machine σ).Alike Eq Fills (start console) :=
      .intro rfl fills_empty
    exact refines_of_alike (fresh.iterate_step matches_fills consolesAgree program steps)
  · intro argument address rest running found top addressed
    refine ⟨_, latest_fetch program console steps address, ?_⟩
    rw [step_of_fetch? running found]
    simp only [perform, retrieve, top, if_neg (Int.not_lt.mpr addressed), Outcome.settle]
    rfl

/-- Stores a number at an address, reads another to a smaller address, and fetches the first. -/
def scattered : Program :=
  .ofInstructions [⟨.push, 3⟩, ⟨.push, 7⟩, ⟨.store, 0⟩, ⟨.push, 1⟩, ⟨.readNumber, 0⟩, ⟨.push, 3⟩,
    ⟨.retrieve, 0⟩]

/-- The cell between the two is filled up with a zero, and filling up loses nothing. -/
theorem sparse_refines_scattered :
    let console := Streams.ofInput (Text.ofString "5")
    (reached Dense scattered console 6).heap.cells = #[0, 5, 0, 7] ∧
      (reached Heap scattered console 6).heap.cells = [(1, 5), (3, 7)] ∧
      Refines (reached Heap scattered console 6) (reached Dense scattered console 6) ∧
      ∃ value, Latest scattered (start console : Machine Streams) 6 3 value ∧
        (reached Heap scattered console 6).step scattered =
          { reached Heap scattered console 6 with counter := 7, stack := [value] } ∧
        value = 7 := by
  have refines := sparse_refines scattered (Streams.ofInput (Text.ofString "5")) 6
  obtain ⟨value, latest, gives⟩ := refines.2 rfl rfl rfl (by decide)
  have last : (reached Heap scattered (Streams.ofInput (Text.ofString "5")) 7).stack = [7] := by
    decide +kernel
  refine ⟨?_, ?_, refines.1, value, latest, gives, ?_⟩
  · decide +kernel
  · decide +kernel
  · rw [reached, Function.iterate_succ_apply', ← reached, gives] at last
    exact (List.cons.inj last).1

end DenseHeap

end BlankCode

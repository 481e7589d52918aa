/-
Module: BlankCode.Heap
Purpose: A memory with a value for every address, zero where nothing was stored. Only the cells that
  were stored to are kept.
Main exports: Heap, Heap.fetch, Heap.store, Heap.cells, Heap.fetch_store, Heap.mem_cells_store
-/
import BlankCode.Memory
import Std.Data.TreeMap.Lemmas

namespace BlankCode

/-- The cells that were stored to, by address. -/
structure Heap where
  written : Std.TreeMap Int Int := ∅

namespace Heap

/-- A heap to which nothing was stored. -/
instance : EmptyCollection Heap := ⟨⟨∅⟩⟩

instance : Inhabited Heap := ⟨∅⟩

/-- The value at an address. -/
def fetch (heap : Heap) (address : Int) : Int :=
  heap.written.getD address 0

/-- The heap with a value stored at an address. -/
def store (heap : Heap) (address value : Int) : Heap :=
  ⟨heap.written.insert address value⟩

instance : Memory Heap where
  fetch := fetch
  store := store

/-- The cells that were stored to, in the order of their addresses. -/
def cells (heap : Heap) : List (Int × Int) :=
  heap.written.toList

/-- The heap after some stores, the first of them first. -/
def ofCells (cells : List (Int × Int)) : Heap :=
  cells.foldl (fun heap (address, value) => heap.store address value) ∅

/-- Nothing was stored anywhere. -/
@[simp] theorem fetch_empty (address : Int) : (∅ : Heap).fetch address = 0 := by
  show (∅ : Std.TreeMap Int Int).getD address 0 = 0
  exact Std.TreeMap.getD_emptyc

/-- A store is seen at its own address and nowhere else. -/
theorem fetch_store (heap : Heap) (address value other : Int) :
    (heap.store address value).fetch other =
      if address = other then value else heap.fetch other := by
  simp only [fetch, store, Std.TreeMap.getD_insert, Std.LawfulEqCmp.compare_eq_iff_eq]

/-- A cell after a store is the one that was stored to, or was there before. -/
theorem mem_cells_store {heap : Heap} {address value : Int} {cell : Int × Int}
    (member : cell ∈ (heap.store address value).cells) :
    cell = (address, value) ∨ cell ∈ heap.cells := by
  rcases cell with ⟨other, content⟩
  simp only [cells, store, Std.TreeMap.mem_toList_iff_getElem?_eq_some,
    Std.TreeMap.getElem?_insert, Std.LawfulEqCmp.compare_eq_iff_eq] at member ⊢
  split at member
  · rename_i same
    cases member
    exact Or.inl (Prod.ext same.symm rfl)
  · exact Or.inr member

end Heap

end BlankCode

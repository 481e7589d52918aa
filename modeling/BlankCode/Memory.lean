/-
Module: BlankCode.Memory
Purpose: What a machine keeps its values in, other than its stacks: something that can be asked for
  the value at an address and told a value for it.
Main exports: Memory
-/

namespace BlankCode

/-- The calls that a memory answers. -/
class Memory (μ : Type) where
  fetch : μ → Int → Int
  store : μ → Int → Int → μ

end BlankCode

/-
Module: BlankCode.Command.Stem
Purpose: The beginnings of command spellings, as the states of a finite automaton. From each stem
  a token leads to a longer stem or completes a spelling, or nothing goes on that way.
Main exports: Stem, Stem.Branch, Stem.next?, Stem.refusal, Stem.spelling?_of_next?
-/
import BlankCode.Failure
import BlankCode.Mnemonic

namespace BlankCode

/-- A beginning of a spelling that is no spelling yet. [SPEC State] -/
inductive Stem where
  | start
  | tab
  | stack
  | stackTab
  | stackLineFeed
  | arithmetic
  | arithmeticSpace
  | arithmeticTab
  | heap
  | console
  | consoleSpace
  | consoleTab
  | flow
  | flowSpace
  | flowTab
  | flowLineFeed
deriving DecidableEq, Repr, Inhabited

namespace Stem

/-- Where a token leads. -/
inductive Branch where
  | stem (stem : Stem)
  | command (mnemonic : Mnemonic)
deriving DecidableEq, Repr

/-- The state's name in messages. -/
def name : Stem → String
  | .start => "start"
  | .tab => "impTab"
  | .stack => "stackManip"
  | .stackTab => "stackManipTab"
  | .stackLineFeed => "stackManipLF"
  | .arithmetic => "arithmetic"
  | .arithmeticSpace => "arithSpace"
  | .arithmeticTab => "arithTab"
  | .heap => "heapAccess"
  | .console => "io"
  | .consoleSpace => "ioSpace"
  | .consoleTab => "ioTab"
  | .flow => "flowControl"
  | .flowSpace => "flowControlSpace"
  | .flowTab => "flowControlTab"
  | .flowLineFeed => "flowControlLF"

/-- The tokens read so far, in words; the tokens of a group are the group's name. -/
def path : Stem → String
  | .start => ""
  | .tab => "Tab"
  | .stack => "Stack Manipulation"
  | .stackTab => "Stack Manipulation/Tab"
  | .stackLineFeed => "Stack Manipulation/LF"
  | .arithmetic => "Arithmetic"
  | .arithmeticSpace => "Arithmetic/Space"
  | .arithmeticTab => "Arithmetic/Tab"
  | .heap => "Heap Access"
  | .console => "IO"
  | .consoleSpace => "IO/Space"
  | .consoleTab => "IO/Tab"
  | .flow => "Flow Control"
  | .flowSpace => "Flow Control/Space"
  | .flowTab => "Flow Control/Tab"
  | .flowLineFeed => "Flow Control/LF"

/-- The tokens read so far. -/
def tokens : Stem → List Token
  | .start => []
  | .tab => [.tab]
  | .stack => [.space]
  | .stackTab => [.space, .tab]
  | .stackLineFeed => [.space, .lineFeed]
  | .arithmetic => [.tab, .space]
  | .arithmeticSpace => [.tab, .space, .space]
  | .arithmeticTab => [.tab, .space, .tab]
  | .heap => [.tab, .tab]
  | .console => [.tab, .lineFeed]
  | .consoleSpace => [.tab, .lineFeed, .space]
  | .consoleTab => [.tab, .lineFeed, .tab]
  | .flow => [.lineFeed]
  | .flowSpace => [.lineFeed, .space]
  | .flowTab => [.lineFeed, .tab]
  | .flowLineFeed => [.lineFeed, .lineFeed]

/-- Where each token leads from a stem, if anywhere. [SPEC TRANSITIONS] -/
def next? : Stem → Token → Option Branch
  | .start, .space => some (.stem .stack)
  | .start, .tab => some (.stem .tab)
  | .start, .lineFeed => some (.stem .flow)
  | .tab, .space => some (.stem .arithmetic)
  | .tab, .tab => some (.stem .heap)
  | .tab, .lineFeed => some (.stem .console)
  | .stack, .space => some (.command .push)
  | .stack, .tab => some (.stem .stackTab)
  | .stack, .lineFeed => some (.stem .stackLineFeed)
  | .stackTab, .space => some (.command .copy)
  | .stackTab, .tab => none
  | .stackTab, .lineFeed => some (.command .slide)
  | .stackLineFeed, .space => some (.command .duplicate)
  | .stackLineFeed, .tab => some (.command .swap)
  | .stackLineFeed, .lineFeed => some (.command .discard)
  | .arithmetic, .space => some (.stem .arithmeticSpace)
  | .arithmetic, .tab => some (.stem .arithmeticTab)
  | .arithmetic, .lineFeed => none
  | .arithmeticSpace, .space => some (.command .add)
  | .arithmeticSpace, .tab => some (.command .subtract)
  | .arithmeticSpace, .lineFeed => some (.command .multiply)
  | .arithmeticTab, .space => some (.command .divide)
  | .arithmeticTab, .tab => some (.command .modulo)
  | .arithmeticTab, .lineFeed => none
  | .heap, .space => some (.command .store)
  | .heap, .tab => some (.command .retrieve)
  | .heap, .lineFeed => none
  | .console, .space => some (.stem .consoleSpace)
  | .console, .tab => some (.stem .consoleTab)
  | .console, .lineFeed => none
  | .consoleSpace, .space => some (.command .writeChar)
  | .consoleSpace, .tab => some (.command .writeNumber)
  | .consoleSpace, .lineFeed => none
  | .consoleTab, .space => some (.command .readChar)
  | .consoleTab, .tab => some (.command .readNumber)
  | .consoleTab, .lineFeed => none
  | .flow, .space => some (.stem .flowSpace)
  | .flow, .tab => some (.stem .flowTab)
  | .flow, .lineFeed => some (.stem .flowLineFeed)
  | .flowSpace, .space => some (.command .mark)
  | .flowSpace, .tab => some (.command .call)
  | .flowSpace, .lineFeed => some (.command .jump)
  | .flowTab, .space => some (.command .jumpIfZero)
  | .flowTab, .tab => some (.command .jumpIfNegative)
  | .flowTab, .lineFeed => some (.command .ret)
  | .flowLineFeed, .space => none
  | .flowLineFeed, .tab => none
  | .flowLineFeed, .lineFeed => some (.command .exit)

/-- The error for a number that leads nowhere. Only of a token is it said that no command begins so.
[SPEC _unexpected] -/
def refusal (stem : Stem) (value : Int) : ParseError :=
  let path := if stem.path.isEmpty then "" else stem.path ++ "/"
  let reason := match Token.ofCode? value with
    | some token => "invalid command: " ++ path ++ token.name
    | none => ""
  .unexpectedByte value stem.name reason

/-- A token that completes a spelling completes the spelling of the command it leads to. -/
theorem spelling?_of_next? {stem : Stem} {token : Token} {mnemonic : Mnemonic}
    (leads : stem.next? token = some (.command mnemonic)) :
    mnemonic.spelling? = some (stem.tokens ++ [token]) := by
  revert leads
  cases stem <;> cases token <;> simp only [next?, reduceCtorEq, Option.some.injEq,
    Branch.command.injEq, false_implies] <;> rintro rfl <;> rfl

/-- A token that goes on leads to the stem longer by that token. -/
theorem tokens_of_next? {stem longer : Stem} {token : Token}
    (leads : stem.next? token = some (.stem longer)) :
    longer.tokens = stem.tokens ++ [token] := by
  revert leads
  cases stem <;> cases token <;> simp only [next?, reduceCtorEq, Option.some.injEq,
    Branch.stem.injEq, false_implies] <;> rintro rfl <;> rfl

/-- No token leads back to the start without completing a spelling. -/
theorem next?_ne_start (stem : Stem) (token : Token) :
    stem.next? token ≠ some (.stem .start) := by
  cases stem <;> cases token <;> simp [next?]

end Stem

end BlankCode

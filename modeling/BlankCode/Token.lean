/-
Module: BlankCode.Token
Purpose: The three bytes that carry meaning. Every other byte is comment. Here and in the modules on
  top of this one, [SPEC name] names the function, class or table that a definition is after.
Main exports: Token, Token.byte, Token.code, Token.ofCode?, Token.ofByte?, Token.nameOf
-/
import BlankCode.Text.Hexadecimal

namespace BlankCode

/-- A byte that carries meaning. [SPEC SIGNIFICANT] -/
inductive Token where
  | space
  | tab
  | lineFeed
deriving DecidableEq, Repr, Inhabited

namespace Token

/-- The byte that a token is written as. -/
def byte : Token → UInt8
  | .space => 0x20
  | .tab => 0x09
  | .lineFeed => 0x0A

/-- The same as a number, in a stream where any number may turn up. -/
def code : Token → Int
  | .space => 0x20
  | .tab => 0x09
  | .lineFeed => 0x0A

/-- The token with a given code. -/
def ofCode? (value : Int) : Option Token :=
  if value = 0x20 then some .space
  else if value = 0x09 then some .tab
  else if value = 0x0A then some .lineFeed
  else none

/-- The token that a byte is, unless the byte is comment. -/
def ofByte? (value : UInt8) : Option Token :=
  if value = 0x20 then some .space
  else if value = 0x09 then some .tab
  else if value = 0x0A then some .lineFeed
  else none

/-- What a token is called in messages. -/
def name : Token → String
  | .space => "space"
  | .tab => "tab"
  | .lineFeed => "LF"

/-- Any number as a byte in base sixteen. The sign counts as one of the two places to be filled. -/
def hexadecimal (value : Int) : String :=
  "0x" ++ (if value < 0 then "-" ++ Hexadecimal.upper 1 value.natAbs
    else Hexadecimal.upper 2 value.natAbs)

/-- What a number in a token stream is called: the token's name, or the number itself.
[SPEC token_name] -/
def nameOf (value : Int) : String :=
  match ofCode? value with
  | some token => token.name
  | none => hexadecimal value

@[simp] theorem ofCode?_code (token : Token) : ofCode? token.code = some token := by
  cases token <;> rfl

@[simp] theorem ofByte?_byte (token : Token) : ofByte? token.byte = some token := by
  cases token <;> rfl

/-- A code determines its token, and only the three codes have one. -/
theorem ofCode?_eq_some_iff {value : Int} {token : Token} :
    ofCode? value = some token ↔ value = token.code := by
  constructor
  · intro found
    unfold ofCode? at found
    split at found
    · cases found; assumption
    · split at found
      · cases found; assumption
      · split at found
        · cases found; assumption
        · cases found
  · rintro rfl
    exact ofCode?_code token

end Token

end BlankCode

/-
Module: BlankCode.Text.CodePoint
Purpose: Code points and the texts made of them. A text may hold surrogates, which a `String`
  cannot, because a program is free to write and read any of the 0x110000 code points.
Main exports: CodePoint, CodePoint.ofInt?, CodePoint.ofChar, Text, Text.ofString, Text.characters,
  Text.Encodable, Text.characters_ofString, Text.ofString_characters
-/

namespace BlankCode

/-- A Unicode code point, surrogates included. -/
abbrev CodePoint := Fin 0x110000

namespace CodePoint

/-- The code point that a number names, if it names one. -/
def ofInt? (value : Int) : Option CodePoint :=
  if range : 0 ≤ value ∧ value < 0x110000 then some ⟨value.toNat, by omega⟩ else none

/-- Every character is a code point. -/
def ofChar (char : Char) : CodePoint :=
  ⟨char.toNat, by
    have valid : char.val.toNat < 0xD800 ∨
        0xDFFF < char.val.toNat ∧ char.val.toNat < 0x110000 := char.valid
    have same : char.toNat = char.val.toNat := rfl
    omega⟩

/-- The halves of a sixteen-bit pair, which no encoded text can hold. -/
def IsSurrogate (point : CodePoint) : Prop :=
  0xD800 ≤ point.val ∧ point.val ≤ 0xDFFF

instance (point : CodePoint) : Decidable point.IsSurrogate :=
  inferInstanceAs (Decidable (_ ∧ _))

/-- The character of a code point; surrogates have none. -/
def toChar? (point : CodePoint) : Option Char :=
  if surrogate : point.IsSurrogate then none
  else some ⟨point.val.toUInt32, by
    have bound : point.val < 0x110000 := point.isLt
    have outside : ¬ (0xD800 ≤ point.val ∧ point.val ≤ 0xDFFF) := surrogate
    have width : point.val.toUInt32.toNat = point.val := by
      simp only [Nat.toUInt32, UInt32.toNat_ofNat']
      omega
    show point.val.toUInt32.toNat < 0xD800 ∨
      0xDFFF < point.val.toUInt32.toNat ∧ point.val.toUInt32.toNat < 0x110000
    omega⟩

/-- No character is half of a pair. -/
theorem not_isSurrogate_ofChar (char : Char) : ¬ (ofChar char).IsSurrogate := by
  have valid : char.val.toNat < 0xD800 ∨
      0xDFFF < char.val.toNat ∧ char.val.toNat < 0x110000 := char.valid
  have value : char.toNat = char.val.toNat := rfl
  show ¬ (0xD800 ≤ char.toNat ∧ char.toNat ≤ 0xDFFF)
  omega

/-- Every character is the character of its code point. -/
@[simp] theorem toChar?_ofChar (char : Char) : toChar? (ofChar char) = some char := by
  rw [toChar?, dif_neg (not_isSurrogate_ofChar char), Option.some.injEq]
  exact Char.ext UInt32.ofNat_toNat

/-- A code point has no character but one that it is the code point of. -/
theorem ofChar_of_toChar? {point : CodePoint} {char : Char}
    (isChar : point.toChar? = some char) : ofChar char = point := by
  unfold toChar? at isChar
  split at isChar
  · cases isChar
  · cases isChar
    refine Fin.ext ?_
    have bound : point.val < 0x110000 := point.isLt
    show point.val.toUInt32.toNat = point.val
    simp only [Nat.toUInt32, UInt32.toNat_ofNat']
    omega

/-- The line feed, which ends a line. -/
def lineFeed : CodePoint := 0x0A

/-- The carriage return. -/
def carriageReturn : CodePoint := 0x0D

/-- The minus sign, which begins options. -/
def minus : CodePoint := ofChar '-'

/-- The equals sign, which parts an option from its value. -/
def equals : CodePoint := ofChar '='

end CodePoint

/-- A text: any code points in any order. -/
abbrev Text := List CodePoint

namespace Text

/-- The code points of a string. -/
def ofString (string : String) : Text :=
  string.toList.map CodePoint.ofChar

/-- Texts in a row, with a string between every two. -/
def join (between : String) (texts : List Text) : Text :=
  List.intercalate (ofString between) texts

/-- The characters of a text, without its surrogates. -/
def characters (text : Text) : List Char :=
  text.filterMap CodePoint.toChar?

/-- A text that an encoding has: one without surrogates. -/
def Encodable (text : Text) : Prop :=
  ∀ point ∈ text, ¬ point.IsSurrogate

instance (text : Text) : Decidable text.Encodable :=
  List.decidableBAll _ text

theorem encodable_ofString (string : String) : (ofString string).Encodable := by
  intro point among
  obtain ⟨char, _, rfl⟩ := List.mem_map.mp among
  exact CodePoint.not_isSurrogate_ofChar char

/-- The characters of a string's text are those of the string. -/
@[simp] theorem characters_ofString (string : String) :
    (ofString string).characters = string.toList := by
  have same : CodePoint.toChar? ∘ CodePoint.ofChar = some := funext CodePoint.toChar?_ofChar
  rw [ofString, characters, List.filterMap_map, same, List.filterMap_some]

theorem ofString_injective {left right : String} (same : ofString left = ofString right) :
    left = right := by
  have characters := congrArg characters same
  rw [characters_ofString, characters_ofString] at characters
  exact String.toList_injective characters

@[simp] theorem ofString_append (left right : String) :
    ofString (left ++ right) = ofString left ++ ofString right := by
  simp [ofString]

/-- A text that an encoding has is the text of its characters. -/
theorem ofString_characters {text : Text} (encodable : text.Encodable) :
    ofString (String.ofList text.characters) = text := by
  rw [ofString, String.toList_ofList]
  induction text with
  | nil => rfl
  | cons point rest ih =>
      have plain : ¬ point.IsSurrogate := encodable point List.mem_cons_self
      have others : Encodable rest := fun other among =>
        encodable other (List.mem_cons_of_mem _ among)
      obtain ⟨char, isChar⟩ : ∃ char, point.toChar? = some char := ⟨_, dif_neg plain⟩
      rw [characters, List.filterMap_cons, isChar]
      rw [List.map_cons, CodePoint.ofChar_of_toChar? isChar]
      exact congrArg (point :: ·) (ih others)

end Text

end BlankCode

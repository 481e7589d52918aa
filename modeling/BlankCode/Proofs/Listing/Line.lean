/-
Module: BlankCode.Proofs.Listing.Line
Purpose: A line of the listing, read back. The text of a command that was read from a source has no
  line feed, no space and no colon in it: it ends where the padding begins or, if it is too long to
  be padded, three letters in front of the first colon. Its title ends at a parenthesis, and behind
  that is all that the command takes.
Main exports: Listing.textOf, Listing.command?, Listing.Shows, Listing.Shows.command?_text,
  Listing.textOf_listing, Listing.Legible, Listing.Legible.of_spells
-/
import BlankCode.CommandLine.Session
import BlankCode.Proofs.OneLine
import BlankCode.Proofs.Readback
import Mathlib.Data.Bool.AllAny
import Mathlib.Data.List.DropRight

namespace BlankCode

namespace Listing

/-! ### The reader -/

/-- The text of the command in a line: what stands in front of the group, up to the padding. -/
def textOf (line : String) : String :=
  String.ofList (((line.toList.takeWhile (· ≠ ':')).rdrop 3).takeWhile (· ≠ ' '))

/-- The name that a title stands for. -/
def mnemonic? (title : List Char) : Option Mnemonic :=
  Mnemonic.all.find? fun mnemonic => mnemonic.title.toList = title

/-- The byte that a letter of a label stands for. -/
def byte? : Char → Option UInt8
  | 'S' => some 0x20
  | 'T' => some 0x09
  | _ => none

/-- The argument that is shown behind a title. -/
def argument? (parameter : Parameter) (shown : List Char) : Option Argument :=
  match parameter with
  | .nothing => some .absent
  | .number =>
    (Numeral.read (shown.tail.dropLast.map CodePoint.ofChar)).toOption.map .integer
  | .label => some (.label (shown.filterMap byte?))

/-- The command that a text shows. -/
def command? (text : String) : Option Command :=
  match mnemonic? (text.toList.takeWhile (· ≠ '(')) with
  | none => none
  | some mnemonic =>
    (argument? mnemonic.parameter (text.toList.dropWhile (· ≠ '('))).map (Command.mk mnemonic)

/-! ### Titles, numbers and letters -/

/-- A character that shows as itself, in one line with others: printable ASCII. -/
def Visible (char : Char) : Prop :=
  ' ' ≤ char ∧ char ≤ '~'

instance : DecidablePred Visible := fun _ =>
  inferInstanceAs (Decidable (_ ∧ _))

/-- A visible character that is not taken for the padding or for a part of the group. -/
def Inner (char : Char) : Prop :=
  Visible char ∧ char ≠ ' ' ∧ char ≠ ':'

instance : DecidablePred Inner := fun _ =>
  inferInstanceAs (Decidable (_ ∧ _))

theorem mnemonic?_title (mnemonic : Mnemonic) :
    mnemonic? mnemonic.title.toList = some mnemonic := by
  cases mnemonic <;> decide

theorem inner_title (mnemonic : Mnemonic) :
    ∀ char ∈ mnemonic.title.toList, Inner char ∧ char ≠ '(' := by
  rw [← List.all_iff_forall_prop]
  cases mnemonic <;> decide

/-- A number is shown as it is written. -/
theorem toList_repr (value : Int) : value.repr.toList = Numeral.write value := by
  cases value with
  | ofNat value =>
      show value.repr.toList = _
      rw [Nat.toList_repr]
      rfl
  | negSucc value =>
      show ("-" ++ (value + 1).repr).toList = _
      rw [String.toList_append, Nat.toList_repr, Numeral.write, if_pos (Int.negSucc_lt_zero value)]
      rfl

theorem inner_write (value : Int) : ∀ char ∈ Numeral.write value, Inner char := by
  have inDigits : ∀ char ∈ Nat.toDigits 10 value.natAbs, Inner char := by
    obtain ⟨digits, written, _, areDigits, _⟩ := Numeral.exists_digits value.natAbs
    intro char among
    rw [written] at among
    obtain ⟨digit, isThere, rfl⟩ := List.mem_map.mp among
    have isDigit := areDigits digit isThere
    interval_cases digit <;> decide
  unfold Numeral.write
  split
  · exact List.forall_mem_cons.mpr ⟨by decide, inDigits⟩
  · exact inDigits

variable {chars : List Char}

/-- Letters of labels are put between single quotes. -/
theorem delimiter_letters (letters : ∀ char ∈ chars, char = 'S' ∨ char = 'T') :
    Quoted.delimiter ((chars.map CodePoint.ofChar).map Fin.val) = '\'' := by
  have noQuote : '\''.toNat ∉ (chars.map CodePoint.ofChar).map Fin.val := by
    rw [List.map_map, List.mem_map]
    rintro ⟨char, among, same⟩
    rcases letters char among with rfl | rfl <;> cases same
  simp only [Quoted.delimiter, List.contains_eq_mem, noQuote, decide_false, Bool.false_and,
    Bool.false_eq_true, if_false]

/-- None of them is escaped there. -/
theorem flatMap_point (letters : ∀ char ∈ chars, char = 'S' ∨ char = 'T') :
    (chars.flatMap fun char => (Quoted.point '\'' (CodePoint.ofChar char)).toList) = chars := by
  have plain : (chars.map fun char => (Quoted.point '\'' (CodePoint.ofChar char)).toList) =
      chars.map fun char => [char] := by
    apply List.map_congr_left
    intro char among
    rcases letters char among with rfl | rfl <;> decide
  rw [List.flatMap_def, plain, ← List.flatMap_def]
  simp

theorem toList_quoted (letters : ∀ char ∈ chars, char = 'S' ∨ char = 'T') :
    (Quoted.string (String.ofList chars)).toList = '\'' :: (chars ++ ['\'']) := by
  rw [Quoted.string, Quoted.text, Text.ofString, String.toList_ofList, delimiter_letters letters]
  simp only [String.toList_append, String.toList_singleton, String.toList_join, List.flatMap_map,
    flatMap_point letters]
  rfl

/-! ### Texts -/

/-- What a command's text has behind the title. -/
structure Shows (command : Command) (shown : List Char) : Prop where
  text : command.text.toList = command.mnemonic.title.toList ++ shown
  opens : shown.takeWhile (· ≠ '(') = []
  inner : ∀ char ∈ shown, Inner char
  told : argument? command.mnemonic.parameter shown = some command.argument

theorem shows_absent {mnemonic : Mnemonic} (takes : mnemonic.parameter = .nothing) :
    Shows ⟨mnemonic, .absent⟩ [] where
  text := by simp [Command.text, takes]
  opens := rfl
  inner := nofun
  told := by rw [takes, argument?]

theorem shows_integer {mnemonic : Mnemonic} (takes : mnemonic.parameter = .number) {value : Int}
    (range : Word.InRange value) :
    Shows ⟨mnemonic, .integer value⟩ ('(' :: (Numeral.write value ++ [')'])) where
  text := by simp [Command.text, takes, Argument.written, toList_repr]
  opens := rfl
  inner := by
    rw [List.forall_mem_cons, List.forall_mem_append, List.forall_mem_singleton]
    exact ⟨by decide, inner_write value, by decide⟩
  told := by
    -- the reader of numbers refuses those with very many digits, and no number of a source has them
    rw [takes, argument?, List.tail_cons, List.dropLast_concat, ← Numeral.text,
      Numeral.read_text, if_pos (Numeral.isWritable_of_inRange range)]
    rfl

theorem shows_label {mnemonic : Mnemonic} (takes : mnemonic.parameter = .label) {label : Label}
    (blank : ∀ byte ∈ label, byte = 0x20 ∨ byte = 0x09) :
    Shows ⟨mnemonic, .label label⟩ ('(' :: '\'' :: (label.map Label.letter ++ ['\'', ')'])) where
  text := by
    have letters : ∀ char ∈ label.map Label.letter, char = 'S' ∨ char = 'T' :=
      List.forall_mem_map.mpr fun byte _ => Label.letter_eq byte
    simp [Command.text, takes, Label.letters_eq blank, toList_quoted letters]
  opens := rfl
  inner := by
    rw [List.forall_mem_cons, List.forall_mem_cons, List.forall_mem_append, List.forall_mem_map]
    refine ⟨by decide, by decide, ?_, List.all_iff_forall_prop.mp (by decide)⟩
    intro byte among
    rcases blank byte among with rfl | rfl <;> decide
  told := by
    have letters : (label.map Label.letter).filterMap byte? = label := by
      rw [List.filterMap_map]
      refine Eq.trans (List.filterMap_congr ?_) List.filterMap_some
      intro byte among
      rcases blank byte among with rfl | rfl <;> rfl
    have ends : ['\'', ')'].filterMap byte? = [] := rfl
    rw [takes, argument?, List.filterMap_cons, List.filterMap_cons, List.filterMap_append, letters,
      ends, List.append_nil]
    rfl

namespace Shows

variable {command : Command} {shown : List Char}

theorem inner_text (shows : Shows command shown) : ∀ char ∈ command.text.toList, Inner char := by
  rw [shows.text]
  exact List.forall_mem_append.mpr
    ⟨fun char among => (inner_title command.mnemonic char among).1, shows.inner⟩

/-- The title ends where the argument begins, so that both are told from the text. -/
theorem command?_text (shows : Shows command shown) : command? command.text = some command := by
  have isTitle : ∀ char ∈ command.mnemonic.title.toList, decide (char ≠ '(') = true := by
    intro char among
    exact decide_eq_true (inner_title command.mnemonic char among).2
  have title : command.text.toList.takeWhile (· ≠ '(') = command.mnemonic.title.toList := by
    rw [shows.text, List.takeWhile_append_of_pos isTitle, shows.opens, List.append_nil]
  have behind : command.text.toList.dropWhile (· ≠ '(') = shown := by
    have whole : shown.takeWhile (· ≠ '(') ++ shown.dropWhile (· ≠ '(') = shown :=
      List.takeWhile_append_dropWhile
    rw [shows.opens, List.nil_append] at whole
    rw [shows.text, List.dropWhile_append_of_pos isTitle, whole]
  rw [command?, title, behind, mnemonic?_title]
  dsimp only
  rw [shows.told]
  rfl

end Shows

/-! ### Lines -/

theorem exists_group (group : Group) :
    ∃ name, group.text.toList = ['I', 'M', 'P'] ++ ':' :: name := by
  cases group <;> exact ⟨_, rfl⟩

theorem visible_group (group : Group) : ∀ char ∈ group.text.toList, Visible char := by
  rw [← List.all_iff_forall_prop]
  cases group <;> decide

/-- What is between a command's text and its group: the padding, unless the text is too long. -/
def padding (command : Command) : List Char :=
  List.replicate (24 - command.text.length) ' '

theorem toList_listing (command : Command) :
    command.listing.toList =
      command.text.toList ++ padding command ++ command.mnemonic.group.text.toList := by
  rw [Command.listing, String.toList_append, String.toList_append, String.toList_ofList]
  rfl

variable {command : Command}

/-- The text is told from a line, be it padded or not. -/
theorem textOf_listing (inner : ∀ char ∈ command.text.toList, Inner char) :
    textOf command.listing = command.text := by
  obtain ⟨name, group⟩ := exists_group command.mnemonic.group
  have blank : ∀ char ∈ padding command, char = ' ' := fun char => List.eq_of_mem_replicate
  have noColon : ∀ char ∈ command.text.toList ++ padding command ++ ['I', 'M', 'P'],
      decide (char ≠ ':') = true := by
    simp only [List.forall_mem_append, decide_eq_true_eq]
    refine ⟨⟨fun char among => (inner char among).2.2, ?_⟩,
      List.all_iff_forall_prop.mp (by decide)⟩
    intro char among
    rw [blank char among]
    decide
  have noSpace : ∀ char ∈ command.text.toList, decide (char ≠ ' ') = true :=
    fun char among => decide_eq_true (inner char among).2.1
  -- the first colon of the line is the group's, whatever there is between the text and the group
  have front : command.listing.toList.takeWhile (· ≠ ':') =
      command.text.toList ++ padding command ++ ['I', 'M', 'P'] := by
    rw [toList_listing, group, ← List.append_assoc, List.takeWhile_append_of_pos noColon]
    simp
  have ends : (padding command).takeWhile (· ≠ ' ') = [] := by
    rw [List.takeWhile_eq_nil_iff]
    intro nonempty
    simp [padding]
  have text : (command.text.toList ++ padding command ++ ['I', 'M', 'P']).rdrop 3 =
      command.text.toList ++ padding command := List.rdrop_append_length
  rw [textOf, front, text, List.takeWhile_append_of_pos noSpace, ends, List.append_nil,
    String.ofList_toList]

theorem visible_listing (inner : ∀ char ∈ command.text.toList, Inner char) :
    ∀ char ∈ command.listing.toList, Visible char := by
  rw [toList_listing, List.forall_mem_append, List.forall_mem_append]
  refine ⟨⟨fun char among => (inner char among).1, ?_⟩, visible_group _⟩
  intro char among
  rw [List.eq_of_mem_replicate among]
  decide

theorem oneLine_of_visible {string : String} (visible : ∀ char ∈ string.toList, Visible char) :
    OneLine string :=
  fun among => absurd (visible _ among) (by decide)

/-! ### Commands that were read -/

/-- A command that its line identifies: it has one line, from which the text is told, and the
command from the text. -/
structure Legible (command : Command) : Prop where
  visible : ∀ char ∈ command.listing.toList, Visible char
  oneLine_text : OneLine command.text
  oneLine_listing : OneLine command.listing
  textOf_listing : textOf command.listing = command.text
  command?_text : command? command.text = some command

theorem Shows.legible {shown : List Char} (shows : Shows command shown) : Legible command where
  visible := visible_listing shows.inner_text
  oneLine_text := oneLine_of_visible fun char among => (shows.inner_text char among).1
  oneLine_listing := oneLine_of_visible (visible_listing shows.inner_text)
  textOf_listing := Listing.textOf_listing shows.inner_text
  command?_text := shows.command?_text

/-- A command that was read from a source is identified by its line. -/
theorem Legible.of_spells {piece : List Token} (spells : Grammar.Spells command piece) :
    Legible command := by
  have bounds := spells.argument_bounds
  cases spells with
  | plain spelled takes => exact (shows_absent takes).legible
  | number spelled takes isSign areDigits fits =>
      have small := bounds.1 _ rfl
      exact (shows_integer takes (by unfold Word.InRange; omega)).legible
  | label spelled takes areLetters => exact (shows_label takes (bounds.2 _ rfl)).legible

end Listing

end BlankCode

/-
Module: BlankCode.CommandLine.Options
Purpose: What the words of a command line ask for. Long options may be cut short as long as one
  option alone begins so, and short ones may stand together in one word; the first word that is
  neither an option nor the value of one names the file. Words are told apart before any of them
  takes effect; then they take effect from left to right, and a misspelt one also undoes those in
  front of it in its own word. A word is any text, surrogates included: systems hand over words
  that no string can hold.
Main exports: Setting, StepLimit, Options, Request, Request.ofWords
-/
import BlankCode.Numeral
import BlankCode.Text.Quoted

namespace BlankCode

/-- What an option sets. -/
inductive Setting where
  | help
  | maxSteps
  | list
  | verbose
deriving DecidableEq, Repr

namespace Setting

/-- The option's name in messages: all its spellings. -/
def title : Setting → String
  | .help => "-h/--help"
  | .maxSteps => "--max-steps/-n"
  | .list => "--list/-l"
  | .verbose => "--verbose/-v"

/-- An option that is followed by a value. -/
def takesValue : Setting → Bool
  | .maxSteps => true
  | _ => false

/-- The letter of a short option. -/
def ofLetter? (letter : CodePoint) : Option Setting :=
  match letter.toChar? with
  | some 'h' => some .help
  | some 'n' => some .maxSteps
  | some 'l' => some .list
  | some 'v' => some .verbose
  | _ => none

/-- The long options, in the order in which they are listed. -/
def long : List (Text × Setting) :=
  [(.ofString "--help", .help), (.ofString "--max-steps", .maxSteps), (.ofString "--list", .list),
    (.ofString "--verbose", .verbose)]

end Setting

/-- How many steps a program may take. -/
inductive StepLimit where
  | unlimited
  | atMost (steps : Int)
  /-- A limit that came without a number. Nothing can run by it. -/
  | void
deriving DecidableEq, Repr

/-- What a command line asks to be done with a file. [SPEC build_parser] -/
structure Options where
  file : Text := .ofString "hello-world.ws"
  maxSteps : StepLimit := .unlimited
  list : Bool := false
  verbose : Bool := false
deriving DecidableEq, Repr

/-- A whole command line: a plea for help, a mistake to be told of, or options to go by. -/
inductive Request where
  | help
  | mistake (message : Text)
  | proceed (options : Options)
deriving DecidableEq, Repr

namespace CommandLine

/-- A mistake in the use of an option. -/
def mistakeOf (setting : Setting) (text : String) : Text :=
  .ofString ("argument " ++ setting.title ++ ": " ++ text)

/-- The mistake of giving a value to an option that takes none. -/
def ignored (setting : Setting) (value : Text) : Text :=
  mistakeOf setting ("ignored explicit argument " ++ Quoted.text value)

/-- What the options in one word amount to. -/
inductive Cluster where
  /-- Settings with their values. -/
  | complete (settings : List (Setting × Text))
  /-- Settings, and another one whose value is the next word. -/
  | needsValue (settings : List (Setting × Text)) (last : Setting)
  | mistake (message : Text)
deriving DecidableEq, Repr

namespace Cluster

/-- An option without anything attached to it. -/
def bare (setting : Setting) : Cluster :=
  if setting.takesValue then .needsValue [] setting else .complete [(setting, [])]

/-- An option with a value attached to it. -/
def valued (setting : Setting) (value : Text) : Cluster :=
  if setting.takesValue then .complete [(setting, value)] else .mistake (ignored setting value)

/-- A cluster with one more option in front, which has no value. -/
def after (setting : Setting) : Cluster → Cluster
  | .complete settings => .complete ((setting, []) :: settings)
  | .needsValue settings last => .needsValue ((setting, []) :: settings) last
  | .mistake message => .mistake message

/-- A long option, with what follows its equals sign if it has one. -/
def ofLong (setting : Setting) : Option Text → Cluster
  | none => bare setting
  | some value => valued setting value

/-- A short option and the letters right behind it, which are its value if it takes one and more
options otherwise. From a letter that is no option on, they count as a value again: one that the
option before them has no use for. -/
def ofLetters (setting : Setting) : Text → Cluster
  | [] => bare setting
  | letter :: rest =>
    if setting.takesValue then valued setting (letter :: rest)
    else
      match Setting.ofLetter? letter with
      | none => valued setting (letter :: rest)
      | some next => (ofLetters next rest).after setting

/-- A short option and the rest of its word. An equals sign at once behind the first letter is not
part of what is attached to it; farther on it is a letter like any other. -/
def ofShort (setting : Setting) (rest : Text) : Cluster :=
  match rest with
  | [] => bare setting
  | first :: value =>
    if first ≠ .equals then ofLetters setting rest
    else if value.isEmpty then valued setting []
    else ofLetters setting value

end Cluster

/-- A word of the command line by its role. -/
inductive Word where
  /-- No option: a value or a file. -/
  | plain (word : Text)
  /-- The word behind which there are no more options. -/
  | separator
  /-- A long option, or a cluster of short ones. -/
  | options (cluster : Cluster)
  /-- It looks like an option and is none. -/
  | unknown (word : Text)
deriving DecidableEq, Repr

/-- A word parted at its first equals sign. -/
def splitEquals (word : Text) : Text × Option Text :=
  match word.span (· ≠ CodePoint.equals) with
  | (name, []) => (name, none)
  | (name, _ :: value) => (name, some value)

/-- Decimal digits up to the end, where one line feed may follow them. -/
def endsInDigits (word : Text) : Bool :=
  let (digits, after) := word.span fun point => point.digit?.isSome
  !digits.isEmpty && (after == [] || after == [.lineFeed])

/-- A minus sign and a plain number, with or without a decimal point. -/
def isNegativeNumber : Text → Bool
  | [] => false
  | sign :: rest =>
    sign == .minus && (endsInDigits rest ||
      match rest.dropWhile fun point => point.digit?.isSome with
      | [] => false
      | mark :: fraction => mark == .ofChar '.' && endsInDigits fraction)

/-- What a word that is no option by its spelling is taken for: negative numbers and words with
a space in them are values. -/
def unrecognised (word : Text) : Word :=
  if isNegativeNumber word || word.contains (.ofChar ' ') then .plain word else .unknown word

/-- The role of a word that begins with two minus signs. -/
def classifyLong (word : Text) : Except Text Word :=
  let (name, value) := splitEquals word
  match Setting.long.find? fun option => option.1 == name with
  | some (_, setting) => .ok (.options (.ofLong setting value))
  | none =>
    match Setting.long.filter fun option => name.isPrefixOf option.1 with
    | [] => .ok (unrecognised word)
    | [(_, setting)] => .ok (.options (.ofLong setting value))
    | several => .error (Text.ofString "ambiguous option: " ++ word ++
        Text.ofString " could match " ++ Text.join ", " (several.map Prod.fst))

/-- The role of a word that begins with one minus sign, by the letter after it. -/
def classifyShort (word : Text) (letter : CodePoint) (rest : Text) : Word :=
  match Setting.ofLetter? letter with
  | none => unrecognised word
  | some setting => .options (.ofShort setting rest)

/-- The role of a word in front of the separator. -/
def classify (word : Text) : Except Text Word :=
  match word with
  | first :: second :: rest =>
    if first ≠ .minus then .ok (.plain word)
    else if second = .minus then classifyLong word
    else .ok (classifyShort word second rest)
  | _ => .ok (.plain word)

/-- The word behind which there are no more options. -/
def separatorText : Text := [.minus, .minus]

/-- The roles of all words. -/
def classifyAll : List Text → Except Text (List Word)
  | [] => .ok []
  | word :: rest =>
    if word = separatorText then .ok (.separator :: rest.map .plain)
    else
      match classify word with
      | .error message => .error message
      | .ok role =>
        match classifyAll rest with
        | .error message => .error message
        | .ok roles => .ok (role :: roles)

/-- What the words so far have come to. -/
structure Progress where
  options : Options := {}
  /-- A word has named the file. -/
  named : Bool := false
  /-- The word before was the one that named the file. -/
  justNamed : Bool := false
  /-- The words that found no use, latest first. -/
  unused : List Text := []
deriving DecidableEq, Repr

/-- The limit that a value sets. The separator is dropped where it stands as a value, so nothing is
left to be read as a number. -/
def readLimit (value : Text) : Except Text StepLimit :=
  if value = separatorText then .ok .void
  else
    match Numeral.read value with
    | .ok steps => .ok (.atMost steps)
    | .error _ => .error (mistakeOf .maxSteps ("invalid int value: " ++ Quoted.text value))

/-- Settings take effect one after the other, until one of them ends it all. -/
def applySettings (options : Options) : List (Setting × Text) → Except Request Options
  | [] => .ok options
  | (setting, value) :: rest =>
    match setting with
    | .help => .error .help
    | .list => applySettings { options with list := true } rest
    | .verbose => applySettings { options with verbose := true } rest
    | .maxSteps =>
      match readLimit value with
      | .ok limit => applySettings { options with maxSteps := limit } rest
      | .error message => .error (.mistake message)

/-- A word of options whose settings take effect. -/
def Progress.takeSettings (progress : Progress) (settings : List (Setting × Text)) :
    Except Request Progress :=
  match applySettings progress.options settings with
  | .ok options => .ok { progress with options := options, justNamed := false }
  | .error request => .error request

/-- A word that finds no use. -/
def Progress.leave (progress : Progress) (word : Text) : Progress :=
  { progress with unused := word :: progress.unused, justNamed := false }

/-- The first plain word that is no value names the file. -/
def Progress.takePlain (progress : Progress) (word : Text) : Progress :=
  if progress.named then progress.leave word
  else { progress with
    options := { progress.options with file := word }, named := true, justNamed := true }

/-- The separator serves its purpose before the file's name and right after it. Elsewhere it finds
no use itself. -/
def Progress.takeSeparator (progress : Progress) : Progress :=
  if progress.named && !progress.justNamed then progress.leave separatorText
  else { progress with justNamed := false }

/-- What a command line asks for, when all its words have been taken. -/
def Progress.request (progress : Progress) : Request :=
  if progress.unused.isEmpty then .proceed progress.options
  else .mistake
    (Text.ofString "unrecognized arguments: " ++ Text.join " " progress.unused.reverse)

/-- Takes the words from left to right. -/
def Progress.take (progress : Progress) : List Word → Request
  | [] => progress.request
  | .plain word :: rest => (progress.takePlain word).take rest
  | .separator :: rest => progress.takeSeparator.take rest
  | .unknown word :: rest => (progress.leave word).take rest
  | .options (.mistake message) :: _ => .mistake message
  | .options (.complete settings) :: rest =>
    match progress.takeSettings settings with
    | .error request => request
    | .ok next => next.take rest
  | .options (.needsValue settings last) :: .plain value :: rest =>
    match progress.takeSettings (settings ++ [(last, value)]) with
    | .error request => request
    | .ok next => next.take rest
  | .options (.needsValue _ last) :: _ => .mistake (mistakeOf last "expected one argument")

end CommandLine

/-- What the words of a command line ask for. [SPEC build_parser, parse_args] -/
def Request.ofWords (words : List Text) : Request :=
  match CommandLine.classifyAll words with
  | .error message => .mistake message
  | .ok roles => CommandLine.Progress.take {} roles

end BlankCode

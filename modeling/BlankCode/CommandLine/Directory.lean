/-
Module: BlankCode.CommandLine.Directory
Purpose: The files that a command line can name, and what becomes of a name that is none of them.
  Names are paths from the directory, with parts between slashes, and their bytes count: two names
  with the same bytes are one. Folders exist as far as files lie in them. Around the directory only
  that is known which every system has.
Main exports: FileError, Files, Directory, Directory.open?
-/
import BlankCode.Source
import BlankCode.Text.Quoted
import BlankCode.Text.Utf8

namespace BlankCode

/-- Why a name cannot be opened. -/
inductive FileError where
  | missing (name : Text)
  | notADirectory (name : Text)
  | isADirectory (name : Text)
  | nameTooLong (name : Text)
deriving DecidableEq, Repr

/-- The report of a name that cannot be opened. -/
def FileError.message : FileError → String
  | .missing name => "[Errno 2] No such file or directory: " ++ Quoted.text name
  | .notADirectory name => "[Errno 20] Not a directory: " ++ Quoted.text name
  | .isADirectory name => "[Errno 21] Is a directory: " ++ Quoted.text name
  | .nameTooLong name => "[Errno 36] File name too long: " ++ Quoted.text name

/-- What the names on a command line lead to. -/
abbrev Files := Text → Except FileError Source

/-- A part of a path: its bytes. -/
abbrev PathPart := List UInt8

namespace PathPart

/-- The part that stays where it is. -/
def here : PathPart := Utf8.encode "."

/-- The part that leads one folder up. -/
def above : PathPart := Utf8.encode ".."

/-- The byte between two parts. -/
def slash : UInt8 := '/'.toUInt8

/-- The parts of a name's bytes; two slashes in a row have an empty part between them. -/
def split (bytes : List UInt8) : List PathPart :=
  bytes.foldr (fun byte parts =>
    match parts with
    | [] => [[byte]]
    | part :: rest => if byte = slash then [] :: part :: rest else (byte :: part) :: rest) [[]]

/-- An empty part and a single point lead nowhere. -/
def stays (part : PathPart) : Prop :=
  part = [] ∨ part = here

instance (part : PathPart) : Decidable part.stays :=
  inferInstanceAs (Decidable (_ ∨ _))

end PathPart

/-- The most bytes that a name can have. -/
def longestName : Nat := 4095

/-- The most bytes that a part of a name can have. -/
def longestPart : Nat := 255

/-- Why there is nothing behind a part of a name: it does not exist, or it never could. -/
def FileError.absent (name : Text) (part : PathPart) : FileError :=
  if longestPart < part.length then .nameTooLong name else .missing name

/-- Files by name. -/
structure Directory where
  files : List (Text × Source) := []
deriving Repr

namespace Directory

/-- Where a walk along a path has come to. -/
inductive Place where
  /-- A folder of the directory, by its parts, the innermost first; the directory itself has none.
  -/
  | folder (parts : List PathPart)
  | document (source : Source)
  /-- A folder around the directory, of which nothing is known. -/
  | outside
  /-- A folder from the root of the system, by its parts, the innermost first; the root has none. -/
  | system (parts : List PathPart)

/-- The files by the parts of their names. -/
def paths (directory : Directory) : List (List PathPart × Source) :=
  directory.files.filterMap fun (name, source) =>
    (Utf8.encodeName? name).map fun bytes => (PathPart.split bytes, source)

/-- The file at some parts, the last of them first. -/
def document? (directory : Directory) (parts : List PathPart) : Option Source :=
  (directory.paths.find? fun file => file.1 == parts.reverse).map Prod.snd

/-- A folder exists when a file lies in it. -/
def hasFolder (directory : Directory) (parts : List PathPart) : Bool :=
  directory.paths.any fun (path, _) =>
    parts.length < path.length && path.take parts.length == parts.reverse

/-- The folders at the root of every system. -/
def systemFolders : List PathPart :=
  ["bin", "boot", "dev", "etc", "home", "lib", "media", "mnt", "opt", "proc", "root", "run", "sbin",
    "srv", "sys", "tmp", "usr", "var"].map Utf8.encode

/-- The device that reads as an empty file, the last part of its path first. -/
def emptyDevice : List PathPart :=
  [Utf8.encode "null", Utf8.encode "dev"]

/-- What every system has at some parts from its root, the last of them first. -/
def systemPlace? (parts : List PathPart) : Option Place :=
  if parts = emptyDevice then some (.document (.whole (.bytes [])))
  else
    match parts with
    | [folder] => if folder ∈ systemFolders then some (.system parts) else none
    | _ => none

/-- One part further. A document has nothing in it, not even itself. -/
def enter (directory : Directory) (name : Text) (place : Place) (part : PathPart) :
    Except FileError Place :=
  match place with
  | .document _ => .error (.notADirectory name)
  | .outside =>
    if part.stays ∨ part = .above then .ok .outside else .error (.absent name part)
  | .system parts =>
    if part.stays then .ok place
    else if part = .above then .ok (.system (parts.drop 1))
    else
      match systemPlace? (part :: parts) with
      | some next => .ok next
      | none => .error (.absent name part)
  | .folder parts =>
    if part.stays then .ok place
    else if part = .above then
      match parts with
      | [] => .ok .outside
      | _ :: around => .ok (.folder around)
    else
      match directory.document? (part :: parts) with
      | some source => .ok (.document source)
      | none =>
        if directory.hasFolder (part :: parts) then .ok (.folder (part :: parts))
        else .error (.absent name part)

/-- The place that the parts of a name lead to. -/
def walk (directory : Directory) (name : Text) (place : Place) :
    List PathPart → Except FileError Place
  | [] => .ok place
  | part :: rest =>
    match directory.enter name place part with
    | .ok next => directory.walk name next rest
    | .error error => .error error

/-- The file of a name. An empty name is no file, and a name that begins with a slash is a path from
the root of the system. A name without bytes is the name of nothing. -/
def open? (directory : Directory) : Files := fun name =>
  match Utf8.encodeName? name with
  | none | some [] => .error (.missing name)
  | some (first :: rest) =>
    let start : Place := if first = PathPart.slash then .system [] else .folder []
    if longestName < rest.length + 1 then .error (.nameTooLong name)
    else
      match directory.walk name start (PathPart.split (first :: rest)) with
      | .ok (.document source) => .ok source
      | .ok _ => .error (.isADirectory name)
      | .error error => .error error

end Directory

end BlankCode

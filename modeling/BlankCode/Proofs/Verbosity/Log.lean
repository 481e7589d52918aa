/-
Module: BlankCode.Proofs.Verbosity.Log
Purpose: The log among the lines that a session reports. A line of the log is known by the mark at
  its beginning, so it can be taken out of what was reported again; two sessions, of which one keeps
  a log and the other does not, have then reported the same.
Main exports: Text.lines, Text.IsLogged, Text.withoutLog, Text.logged, Text.isLogged_marked,
  Session.log_eq_report, Session.Logs, Session.Logs.reported, Session.Logs.logged,
  Session.Logs.note
-/
import BlankCode.CommandLine.Session
import BlankCode.Proofs.OneLine

namespace BlankCode

/-! ### Lines -/

namespace Text

/-- The lines of a text, each with the line feed that ends it, if one does. -/
def lines : Text → List Text
  | [] => []
  | point :: rest =>
    if point = .lineFeed then [point] :: lines rest
    else
      match lines rest with
      | [] => [[point]]
      | line :: others => (point :: line) :: others

/-- A line of the log. -/
def IsLogged (line : Text) : Prop :=
  ofString "[DEBUG] " <+: line ∨ ofString "[INFO] " <+: line

instance (line : Text) : Decidable line.IsLogged :=
  inferInstanceAs (Decidable (_ ∨ _))

/-- What is left of a text when the lines of the log are taken out. -/
def withoutLog (text : Text) : Text :=
  (text.lines.filter (¬ IsLogged ·)).flatten

/-- The lines of the log that a text has. -/
def logged (text : Text) : List Text :=
  text.lines.filter (IsLogged ·)

theorem lines_append {line : Text} (unbroken : CodePoint.lineFeed ∉ line) (rest : Text) :
    lines (line ++ .lineFeed :: rest) = (line ++ [.lineFeed]) :: lines rest := by
  induction line with
  | nil => simp [lines]
  | cons point line ih =>
      obtain ⟨other, unbroken⟩ := List.ne_and_not_mem_of_not_mem_cons unbroken
      rw [List.cons_append, lines, if_neg (Ne.symm other), ih unbroken]
      rfl

/-- Lines that are put one behind the other are the lines of the text that they make. -/
theorem lines_flatMap {each : List Text} (unbroken : ∀ line ∈ each, CodePoint.lineFeed ∉ line) :
    lines (each.flatMap (· ++ [.lineFeed])) = each.map (· ++ [.lineFeed]) := by
  induction each with
  | nil => rfl
  | cons line rest ih =>
      obtain ⟨first, others⟩ := List.forall_mem_cons.mp unbroken
      rw [List.flatMap_cons, List.append_assoc, List.singleton_append, lines_append first,
        ih others, List.map_cons]

/-- The end of a line does not tell whether it is one of the log. -/
@[simp] theorem isLogged_ended (line : Text) : IsLogged (line ++ [.lineFeed]) ↔ line.IsLogged := by
  have same {start : String} (isLine : OneLine start) :
      ofString start <+: line ++ [.lineFeed] ↔ ofString start <+: line := by
    rw [List.prefix_concat_iff]
    constructor
    · rintro (whole | isPrefix)
      · have ends : CodePoint.lineFeed ∈ ofString start := by
          rw [whole]
          simp
        exact absurd (lineFeed_mem_ofString.mp ends) isLine
      · exact isPrefix
    · exact Or.inr
  unfold IsLogged
  rw [same (.literal (by decide)), same (.literal (by decide))]

/-- A line that begins in another way is none of the log. -/
theorem not_isLogged_of_head? {line : Text} {first : CodePoint} (begins : line.head? = some first)
    (other : first ≠ CodePoint.ofChar '[') : ¬ line.IsLogged := by
  rintro (⟨rest, rfl⟩ | ⟨rest, rfl⟩)
  · exact other (Option.some.inj begins).symm
  · exact other (Option.some.inj begins).symm

theorem not_isLogged_error (message : String) : ¬ IsLogged (ofString ("Error: " ++ message)) := by
  rw [ofString_append]
  exact not_isLogged_of_head? rfl (by decide)

/-- A line behind one of the two marks is one of the log. -/
theorem isLogged_marked {start : String} (starts : start = "[DEBUG] " ∨ start = "[INFO] ")
    (line : Text) : IsLogged (ofString start ++ line) := by
  rcases starts with rfl | rfl
  · exact Or.inl (List.prefix_append _ _)
  · exact Or.inr (List.prefix_append _ _)

end Text

/-! ### The log -/

namespace Session

/-- A single handler reports each line of the log once. -/
theorem log_eq_report {session : Session} (loudly : session.level = .everything)
    (handled : session.handlers = 1) {mark start : String} (marks : "[" ++ mark ++ "] " = start)
    (lines : List Text) :
    session.log mark lines = session.report (lines.map (Text.ofString start ++ ·)) := by
  simp only [log, loudly, marks, handled, List.replicate_one, List.map_eq_flatMap]

/-- Two sessions that have shown the same, except that the second has also kept a log. -/
structure Logs (log : List Text) (quiet loud : Session) : Prop where
  quietly : quiet.level = .warnings
  loudly : loud.level = .everything
  handled : loud.handlers = 1
  terminal : loud.terminal = quiet.terminal
  shown : loud.reports.filter (¬ Text.IsLogged ·) = quiet.reports
  kept : loud.reports.filter (Text.IsLogged ·) = log.reverse
  unbroken : ∀ line ∈ loud.reports, CodePoint.lineFeed ∉ line

variable {log : List Text} {quiet loud : Session}

namespace Logs

theorem lines_reported (logs : Logs log quiet loud) :
    loud.reported.lines = loud.reports.reverse.map (· ++ [.lineFeed]) := by
  apply Text.lines_flatMap
  intro line among
  exact logs.unbroken line (List.mem_reverse.mp among)

/-- Without the lines of the log both have reported the same. -/
theorem reported (logs : Logs log quiet loud) : loud.reported.withoutLog = quiet.reported := by
  rw [Text.withoutLog, logs.lines_reported, Session.reported, ← logs.shown, ← List.filter_reverse,
    List.flatMap_def, List.filter_map]
  simp [Function.comp_def]

/-- The lines of the log are in what the second has reported. -/
theorem logged (logs : Logs log quiet loud) :
    loud.reported.logged = log.map (· ++ [.lineFeed]) := by
  rw [Text.logged, logs.lines_reported, List.filter_map]
  simp only [Function.comp_def, Text.isLogged_ended]
  rw [List.filter_reverse, logs.kept, List.reverse_reverse]

/-- A line that both report is in none of the logs. -/
theorem report (logs : Logs log quiet loud) {line : Text} (unbroken : CodePoint.lineFeed ∉ line)
    (other : ¬ line.IsLogged) : Logs log (quiet.report [line]) (loud.report [line]) where
  quietly := logs.quietly
  loudly := logs.loudly
  handled := logs.handled
  terminal := logs.terminal
  shown := by
    simp [Session.report, other, ← logs.shown]
  kept := by
    simp [Session.report, other, ← logs.kept]
  unbroken := by
    intro one among
    rcases List.mem_cons.mp among with rfl | before
    · exact unbroken
    · exact logs.unbroken one before

/-- What keeps a command line from its end is reported by both. -/
theorem giveUp (logs : Logs log quiet loud) {message : String} (isLine : OneLine message) :
    Logs log (quiet.giveUp message).2 (loud.giveUp message).2 := by
  apply logs.report
  · rw [lineFeed_mem_ofString]
    exact OneLine.append (.literal (by decide)) isLine
  · exact Text.not_isLogged_error message

/-- Neither reports what is no failure. -/
theorem yield (logs : Logs log quiet loud) (defeat : Defeat)
    (tells : ∀ failure, defeat = .failure failure → OneLine failure.message) :
    (loud.yield defeat).1 = (quiet.yield defeat).1 ∧
      Logs log (quiet.yield defeat).2 (loud.yield defeat).2 := by
  cases defeat with
  | failure failure => exact ⟨rfl, logs.giveUp (tells failure rfl)⟩
  | raised kind text => exact ⟨rfl, logs⟩

/-- What is printed is printed by both. -/
theorem printLines (logs : Logs log quiet loud) (lines : List String) :
    Logs log (quiet.printLines lines) (loud.printLines lines) :=
  { logs with terminal := by rw [Session.printLines, Session.printLines, logs.terminal] }

/-- Lines of the log are reported by the second alone. -/
theorem add (logs : Logs log quiet loud) {lines : List Text}
    (isLog : ∀ line ∈ lines, line.IsLogged)
    (unbroken : ∀ line ∈ lines, CodePoint.lineFeed ∉ line) :
    Logs (log ++ lines) quiet (loud.report lines) where
  quietly := logs.quietly
  loudly := logs.loudly
  handled := logs.handled
  terminal := logs.terminal
  shown := by
    have none : lines.reverse.filter (¬ Text.IsLogged ·) = [] := by
      rw [List.filter_eq_nil_iff]
      intro line among
      simp [isLog line (List.mem_reverse.mp among)]
    rw [Session.report, List.filter_append, none, logs.shown, List.nil_append]
  kept := by
    have all : lines.reverse.filter (Text.IsLogged ·) = lines.reverse := by
      rw [List.filter_eq_self]
      intro line among
      simp [isLog line (List.mem_reverse.mp among)]
    rw [Session.report, List.filter_append, all, logs.kept, List.reverse_append]
  unbroken := by
    intro line among
    rcases List.mem_append.mp among with isNew | before
    · exact unbroken line (List.mem_reverse.mp isNew)
    · exact logs.unbroken line before

/-- The first keeps no log. -/
theorem silent (logs : Logs log quiet loud) (mark : String) (lines : List Text) :
    quiet.log mark lines = quiet := by
  rw [Session.log, logs.quietly]

/-- What is logged under one of the two marks is reported by the second alone. -/
theorem note (logs : Logs log quiet loud) {mark start : String} {lines : List Text}
    (marks : "[" ++ mark ++ "] " = start) (starts : start = "[DEBUG] " ∨ start = "[INFO] ")
    (unbroken : ∀ line ∈ lines, CodePoint.lineFeed ∉ line) :
    Logs (log ++ lines.map (Text.ofString start ++ ·)) (quiet.log mark lines)
      (loud.log mark lines) := by
  have isLine : OneLine start := by
    rcases starts with rfl | rfl
    · exact .literal (by decide)
    · exact .literal (by decide)
  rw [Session.log_eq_report logs.loudly logs.handled marks, logs.silent]
  apply logs.add
  · intro line among
    obtain ⟨text, _, rfl⟩ := List.mem_map.mp among
    exact Text.isLogged_marked starts text
  · intro line among
    obtain ⟨text, isThere, rfl⟩ := List.mem_map.mp among
    rw [List.mem_append, lineFeed_mem_ofString]
    rintro (inMark | inText)
    · exact isLine inMark
    · exact unbroken text isThere inText

theorem debug (logs : Logs log quiet loud) {lines : List Text}
    (unbroken : ∀ line ∈ lines, CodePoint.lineFeed ∉ line) :
    Logs (log ++ lines.map (Text.ofString "[DEBUG] " ++ ·)) (quiet.log "DEBUG" lines)
      (loud.log "DEBUG" lines) :=
  logs.note (by decide) (Or.inl rfl) unbroken

theorem info (logs : Logs log quiet loud) {lines : List Text}
    (unbroken : ∀ line ∈ lines, CodePoint.lineFeed ∉ line) :
    Logs (log ++ lines.map (Text.ofString "[INFO] " ++ ·)) (quiet.log "INFO" lines)
      (loud.log "INFO" lines) :=
  logs.note (by decide) (Or.inr rfl) unbroken

end Logs

/-- Logging is not printing, nor reading. -/
@[simp] theorem terminal_log (session : Session) (mark : String) (lines : List Text) :
    (session.log mark lines).terminal = session.terminal := by
  unfold Session.log
  cases session.level with
  | everything => rfl
  | warnings => rfl

end Session

end BlankCode

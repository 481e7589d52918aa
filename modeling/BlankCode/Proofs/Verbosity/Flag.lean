/-
Module: BlankCode.Proofs.Verbosity.Flag
Purpose: The flag that asks for a log. It is told apart from all other words of a command line: in
  front of them it asks for the same to be done, verbosely, and leaves every mistake as it is.
Main exports: Request.loud, CommandLine.Progress.take_loud, Request.ofWords_verbose
-/
import BlankCode.CommandLine.Options

namespace BlankCode

/-- The same request, to be carried out verbosely. -/
def Request.loud : Request → Request
  | .proceed options => .proceed { options with verbose := true }
  | request => request

namespace CommandLine

/-- Words that have come to the same, and to the flag. -/
def Progress.loud (progress : Progress) : Progress :=
  { progress with options := { progress.options with verbose := true } }

/-- No other setting has to do with the flag. -/
theorem applySettings_loud (settings : List (Setting × Text)) :
    ∀ options : Options, applySettings { options with verbose := true } settings =
      (applySettings options settings).map fun changed => { changed with verbose := true } := by
  induction settings with
  | nil =>
      intro options
      rfl
  | cons first rest ih =>
      intro options
      rcases first with ⟨setting, value⟩
      cases setting with
      | help => rfl
      | list => exact ih { options with list := true }
      | verbose => exact ih { options with verbose := true }
      | maxSteps =>
          simp only [applySettings]
          cases readLimit value with
          | ok limit => exact ih { options with maxSteps := limit }
          | error message => rfl

/-- A setting that ends it all is no request to proceed. -/
theorem loud_of_applySettings {request : Request} (settings : List (Setting × Text)) :
    ∀ {options : Options}, applySettings options settings = .error request →
      request.loud = request := by
  induction settings with
  | nil =>
      intro options failed
      cases failed
  | cons first rest ih =>
      intro options failed
      rcases first with ⟨setting, value⟩
      cases setting with
      | help =>
          cases failed
          rfl
      | list => exact ih failed
      | verbose => exact ih failed
      | maxSteps =>
          simp only [applySettings] at failed
          cases limited : readLimit value with
          | ok limit =>
              rw [limited] at failed
              exact ih failed
          | error message =>
              rw [limited] at failed
              cases failed
              rfl

namespace Progress

theorem takeSettings_loud_of_ok {progress next : Progress} {settings : List (Setting × Text)}
    (taken : progress.takeSettings settings = .ok next) :
    progress.loud.takeSettings settings = .ok next.loud := by
  unfold takeSettings at taken ⊢
  cases applied : applySettings progress.options settings with
  | error request =>
      rw [applied] at taken
      cases taken
  | ok options =>
      rw [applied] at taken
      cases taken
      rw [loud, applySettings_loud, applied]
      rfl

theorem takeSettings_loud_of_error {progress : Progress} {request : Request}
    {settings : List (Setting × Text)} (taken : progress.takeSettings settings = .error request) :
    progress.loud.takeSettings settings = .error request ∧ request.loud = request := by
  unfold takeSettings at taken ⊢
  cases applied : applySettings progress.options settings with
  | error found =>
      rw [applied] at taken
      cases taken
      rw [loud, applySettings_loud, applied]
      exact ⟨rfl, loud_of_applySettings settings applied⟩
  | ok options =>
      rw [applied] at taken
      cases taken

theorem request_loud (progress : Progress) : progress.loud.request = progress.request.loud := by
  unfold request
  cases unused : progress.unused.isEmpty with
  | true => simp [loud, unused, Request.loud]
  | false => simp [loud, unused, Request.loud]

theorem takePlain_loud (progress : Progress) (word : Text) :
    progress.loud.takePlain word = (progress.takePlain word).loud := by
  unfold takePlain
  cases named : progress.named with
  | true => simp [loud, named, leave]
  | false => simp [loud, named]

theorem takeSeparator_loud (progress : Progress) :
    progress.loud.takeSeparator = progress.takeSeparator.loud := by
  unfold takeSeparator
  cases late : progress.named && !progress.justNamed with
  | true => simp [loud, late, leave]
  | false => simp [loud, late]

/-- Words that come after the flag come to what they would have come to, and to the flag. -/
theorem take_loud (progress : Progress) (roles : List Word) :
    progress.loud.take roles = (progress.take roles).loud := by
  fun_induction take progress roles with
  | case1 progress => exact progress.request_loud
  | case2 progress word rest ih => rw [take, takePlain_loud, ih]
  | case3 progress rest ih => rw [take, takeSeparator_loud, ih]
  | case4 progress word rest ih => exact ih
  | case5 progress message rest => rfl
  | case6 progress settings rest request taken =>
      obtain ⟨taken, same⟩ := takeSettings_loud_of_error taken
      rw [take, taken, same]
  | case7 progress settings rest next taken ih =>
      rw [take, takeSettings_loud_of_ok taken]
      exact ih
  | case8 progress settings last value rest request taken =>
      obtain ⟨taken, same⟩ := takeSettings_loud_of_error taken
      rw [take, taken, same]
  | case9 progress settings last value rest next taken ih =>
      rw [take, takeSettings_loud_of_ok taken]
      exact ih
  | case10 progress settings last rest noValue =>
      rw [take]
      · rfl
      · exact noValue

end Progress

end CommandLine

/-- The flag in front of other words asks for what they ask for, done verbosely. -/
theorem Request.ofWords_verbose (words : List Text) :
    ofWords (Text.ofString "-v" :: words) = (ofWords words).loud := by
  have isFlag : CommandLine.classify (Text.ofString "-v") =
      .ok (.options (.complete [(.verbose, [])])) := rfl
  have noSeparator : Text.ofString "-v" ≠ CommandLine.separatorText := by decide
  unfold ofWords
  rw [CommandLine.classifyAll, if_neg noSeparator, isFlag]
  cases CommandLine.classifyAll words with
  | error message => rfl
  | ok roles => exact CommandLine.Progress.take_loud {} roles

end BlankCode

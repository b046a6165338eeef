import TagMarkup.Proofs.Arguments
import TagMarkup.Proofs.Inputs
import TagMarkup.Proofs.Reports

/-!
# Verdicts of the command

**Theorem (`Checker.conduct_invokeOn`).** On every run of the command its exit status, its output
and its input agree. Status 2 stands for wrong arguments and for a document that cannot be read, and
nothing is written to the output then. Help is given without reading anything. In all other cases
the status is the verdict on the document, the first line of the output tells it again, and the
status does not depend on how the output is written.

There are three ways through the command, and each has its own lemma: the arguments are wrong
(`conduct_of_error`), they ask for help (`conduct_of_help`), or they choose a document
(`conduct_of_not_help`). The first line is found in each form of report by showing what the report
is up to its first line feed, so what is told there has to stay on one line.
-/

namespace TagMarkup

/-! ## First lines -/

/-- What a text starts with, up to the first line feed. -/
def firstLine (text : String) : String := .ofList (text.toList.takeWhile (· ≠ '\n'))

theorem firstLine_append {line : String} (h : '\n' ∉ line.toList) (rest : String) :
    firstLine (line ++ ("\n" ++ rest)) = line := by
  have hne (c : Char) (hc : c ∈ line.toList) : decide (c ≠ '\n') = true := by
    refine decide_eq_true ?_
    rintro rfl
    exact h hc
  simp only [firstLine, String.toList_append]
  rw [List.takeWhile_append_of_pos hne]
  simp

namespace Checker

/-! ## The command -/

/-- The exit tells the verdict on a text, in the form that the options ask for. -/
structure Tells (options : Options) (terminal : Bool) (text : String) (exit : Exit) : Prop where
  accepted_iff : exit.status = 0 ↔ ∃ root, parseDocument text = .ok root
  rejected_iff : exit.status = 1 ↔ ∃ e, parseDocument text = .error e
  /-- Without colors, a text starts with the verdict. -/
  firstLine_text : options.format = .text → options.color.resolve terminal = false →
    firstLine exit.stdout =
      match parseDocument text with
      | .ok _ => "OK"
      | .error e => e.message
  /-- In JSON, the first line is an object, and its member `ok` is the verdict. -/
  firstLine_json : options.format = .json → ∃ members,
    (∀ ms, Json.IsObject (firstLine exit.stdout) ms ↔ ms = members) ∧
      (members.map Prod.fst).Nodup ∧
      members.lookup "ok" = some (.truth (parseDocument text).isOk)

/-- The object on the first line, and nothing else is to be read there. -/
theorem isObject_firstLine_iff {members : List (String × Json.Value)} (h : members ≠ [])
    (ms : List (String × Json.Value)) :
    Json.IsObject (firstLine (Json.write members ++ "\n")) ms ↔ ms = members := by
  have hline := firstLine_append (Json.newline_not_mem_write members) ""
  rw [String.append_empty] at hline
  rw [hline]
  exact Json.isObject_write_iff h ms

theorem tells_accepted {options : Options} {terminal : Bool} {text : String} {root : Node}
    (h : parseDocument text = .ok root) :
    Tells options terminal text (finish options terminal (.ok text)) := by
  have hexit : finish options terminal (.ok text) =
      ⟨0, Report.accepted ⟨options.format, options.color.resolve terminal⟩ root options.tree,
        ""⟩ := by simp [finish, check_of_ok h, Verdict.exitStatus]
  rw [hexit]
  refine { accepted_iff := by simp [h], rejected_iff := by simp [h],
           firstLine_text := fun hformat hcolor => ?text, firstLine_json := fun hformat => ?json }
  case text =>
    rw [hformat, hcolor, Report.accepted_text, h]
    exact firstLine_append (by decide) _
  case json =>
    rw [hformat, Report.accepted_json, h]
    refine ⟨_, isObject_firstLine_iff ?_, ?_, ?_⟩ <;> cases options.tree <;>
      simp [Except.isOk, Except.toBool]

theorem tells_rejected {options : Options} {terminal : Bool} {text : String} {e : ParseError}
    (h : parseDocument text = .error e) :
    Tells options terminal text (finish options terminal (.ok text)) := by
  have hexit : finish options terminal (.ok text) =
      ⟨1, Report.rejected ⟨options.format, options.color.resolve terminal⟩ text e, ""⟩ := by
    simp [finish, check_of_error h, Verdict.exitStatus]
  rw [hexit]
  refine { accepted_iff := by simp [h], rejected_iff := by simp [h],
           firstLine_text := fun hformat hcolor => ?text, firstLine_json := fun hformat => ?json }
  case text =>
    rw [hformat, hcolor, Report.rejected_text, h]
    exact firstLine_append (newline_not_mem_message h) _
  case json =>
    rw [hformat, Report.rejected_json, h]
    refine ⟨_, isObject_firstLine_iff ?_, ?_, ?_⟩ <;> simp [Except.isOk, Except.toBool]

/-- The exit tells the verdict on any text. -/
theorem tells_finish (options : Options) (terminal : Bool) (text : String) :
    Tells options terminal text (finish options terminal (.ok text)) := by
  cases h : parseDocument text with
  | ok root => exact tells_accepted h
  | error e => exact tells_rejected h

/-- The status depends on the document alone, and is 2 only where there is none. -/
theorem status_finish (options : Options) (terminal : Bool) (document : Except RunError String) :
    (finish options terminal document).status =
      match document with
      | .error _ => 2
      | .ok text => if (parseDocument text).isOk then 0 else 1 := by
  cases document with
  | error e => rfl
  | ok text =>
    cases h : parseDocument text <;>
      simp [finish, check, h, Verdict.exitStatus, Except.isOk, Except.toBool]

theorem status_eq_two_iff_error {options : Options} {terminal : Bool}
    {document : Except RunError String} :
    (finish options terminal document).status = 2 ↔ ∃ e, document = .error e := by
  rw [status_finish]
  cases document with
  | error e => simp
  | ok text =>
    dsimp only
    split_ifs <;> simp

/-- What the command does on arguments, a console and files. -/
structure Conduct (arguments : List String) (console : Except ReadError (List UInt8))
    (files : String → Except ReadError (List UInt8)) (terminal : Bool) (exit : Exit) : Prop where
  /-- Status 2 stands for wrong arguments, and for a document that cannot be read as UTF-8. -/
  status_eq_two_iff : exit.status = 2 ↔ (∃ e, Options.ofArguments arguments = .error e) ∨
    ∃ options, Options.ofArguments arguments = .ok options ∧ ¬ AsksForHelp arguments ∧
      ∀ text, ¬ Supplies console files options.source text
  /-- No verdict is written then. -/
  stdout_eq_empty : exit.status = 2 → exit.stdout = ""
  /-- Where help is asked for, the command ends with it before it reads anything. -/
  help (options : Options) : Options.ofArguments arguments = .ok options →
    AsksForHelp arguments → begin arguments = .error ⟨0, usage, ""⟩ ∧ exit = ⟨0, usage, ""⟩
  /-- In all other cases the exit tells the verdict on the document. -/
  tells (options : Options) (text : String) : Options.ofArguments arguments = .ok options →
    ¬ AsksForHelp arguments → Supplies console files options.source text →
      Tells options terminal text exit
  /-- The status is the same for all arguments that choose this document. -/
  status_eq (arguments' : List String) (options options' : Options) (terminal' : Bool) :
    Options.ofArguments arguments = .ok options → Options.ofArguments arguments' = .ok options' →
      options'.source = options.source → (AsksForHelp arguments' ↔ AsksForHelp arguments) →
        (invokeOn arguments' console files terminal').status = exit.status

section Ways

variable {arguments : List String} {options : Options} (console : Except ReadError (List UInt8))
  (files : String → Except ReadError (List UInt8)) (terminal : Bool)

theorem invokeOn_of_error {e : UsageError} (h : Options.ofArguments arguments = .error e) :
    invokeOn arguments console files terminal = usageExit e := by
  simp [invokeOn, begin, h]

theorem begin_of_help (h : Options.ofArguments arguments = .ok options)
    (hhelp : AsksForHelp arguments) : begin arguments = .error ⟨0, usage, ""⟩ := by
  simp [begin, h, (Options.help_of_ofArguments h).2 hhelp]

theorem invokeOn_of_not_help (h : Options.ofArguments arguments = .ok options)
    (hhelp : ¬ AsksForHelp arguments) :
    invokeOn arguments console files terminal =
      finish options terminal (readFrom console files options.source) := by
  simp [invokeOn, begin, h, mt (Options.help_of_ofArguments h).1 hhelp]

theorem conduct_of_error {e : UsageError} (h : Options.ofArguments arguments = .error e) :
    Conduct arguments console files terminal (usageExit e) where
  status_eq_two_iff := by simp [usageExit, errorStatus, h]
  stdout_eq_empty _ := rfl
  help options hargs := by cases hargs.symm.trans h
  tells options text hargs := by cases hargs.symm.trans h
  status_eq arguments' options options' terminal' hargs := by cases hargs.symm.trans h

theorem conduct_of_help (h : Options.ofArguments arguments = .ok options)
    (hhelp : AsksForHelp arguments) :
    Conduct arguments console files terminal ⟨0, usage, ""⟩ where
  status_eq_two_iff := by simp [h, hhelp]
  stdout_eq_empty := by simp
  help _ _ _ := ⟨begin_of_help h hhelp, rfl⟩
  tells _ _ _ hnot := absurd hhelp hnot
  status_eq arguments' _ options' terminal' _ hargs' _ hiff := by
    rw [invokeOn, begin_of_help hargs' (hiff.2 hhelp)]

theorem conduct_of_not_help (h : Options.ofArguments arguments = .ok options)
    (hhelp : ¬ AsksForHelp arguments) :
    Conduct arguments console files terminal
      (finish options terminal (readFrom console files options.source)) where
  status_eq_two_iff := by
    simp only [h, hhelp, ← exists_error_iff, status_eq_two_iff_error]
    simp
  stdout_eq_empty hstatus := by
    obtain ⟨e, hread⟩ := status_eq_two_iff_error.1 hstatus
    rw [hread]
    rfl
  help _ _ hhelp' := absurd hhelp' hhelp
  tells options' text hargs _ htext := by
    cases h.symm.trans hargs
    rw [readFrom_eq_ok_iff.2 htext]
    exact tells_finish options terminal text
  status_eq arguments' options₁ options' terminal' hargs hargs' hsource hiff := by
    cases h.symm.trans hargs
    rw [invokeOn_of_not_help _ _ _ hargs' (mt hiff.1 hhelp), hsource, status_finish, status_finish]

end Ways

/-- **Exit status, output and input agree**, for all arguments, whatever the console and the files
contain or why they cannot be read, and on a terminal or not. -/
theorem conduct_invokeOn (arguments : List String) (console : Except ReadError (List UInt8))
    (files : String → Except ReadError (List UInt8)) (terminal : Bool) :
    Conduct arguments console files terminal (invokeOn arguments console files terminal) := by
  cases hargs : Options.ofArguments arguments with
  | error e =>
    rw [invokeOn_of_error console files terminal hargs]
    exact conduct_of_error console files terminal hargs
  | ok options =>
    by_cases hhelp : AsksForHelp arguments
    · rw [invokeOn, begin_of_help hargs hhelp]
      exact conduct_of_help console files terminal hargs hhelp
    · rw [invokeOn_of_not_help console files terminal hargs hhelp]
      exact conduct_of_not_help console files terminal hargs hhelp

end Checker

end TagMarkup

import TagMarkup.Command.Checker
import TagMarkup.Proofs.Utf8

/-!
# Documents from files and from the console

What the checker takes for its document, said of the bytes as they are: a file as a whole, and of
the console the lines before the first empty one (`Console.documentLines`), each of them ended by a
line feed. Both have to be UTF-8; what is behind the first empty line is of no account.
-/

namespace TagMarkup

namespace Console

/-- The lines before the first empty one. -/
def documentLines (bytes : List UInt8) : List (List UInt8) :=
  (Lines.all 0x0A 0x0D bytes).takeWhile (· ≠ [])

/-- Lines, each of them with a line feed behind it. -/
def unlines (lines : List String) : String := .join (lines.map (· ++ "\n"))

theorem documentLines_of_none {bytes : List UInt8} (h : nextLine? bytes = none) :
    documentLines bytes = [] := by
  unfold nextLine? at h
  rw [documentLines, Lines.all]
  split <;> simp_all

theorem documentLines_of_some {bytes line rest : List UInt8}
    (h : nextLine? bytes = some (line, rest)) :
    documentLines bytes = if line = [] then [] else line :: documentLines rest := by
  unfold nextLine? at h
  rw [documentLines, Lines.all]
  split <;> simp_all [documentLines, List.takeWhile_cons]

/-- Behind a part of the document come the lines that are left of it. -/
theorem readFrom?_eq (document : String) (bytes : List UInt8) :
    readFrom? document bytes =
      ((documentLines bytes).mapM decodeUtf8?).map fun lines => document ++ unlines lines := by
  induction hn : bytes.length using Nat.strongRecOn generalizing document bytes with
  | _ n ih =>
    rw [readFrom?]
    split
    next h => simp [documentLines_of_none h, unlines]
    next line rest h =>
      have hlt : rest.length < bytes.length := Lines.next?_length h
      rw [documentLines_of_some h]
      split
      next hline =>
        have hne : line ≠ [] := by
          rintro rfl
          cases decodeUtf8?_nil.symm.trans hline
        simp [hne, hline]
      next text hline =>
        have hempty := isEmpty_of_decodeUtf8? hline
        by_cases hnil : line = []
        · simp [hnil, hempty.2 hnil, unlines]
        · rw [if_neg (mt hempty.1 hnil), if_neg hnil, ih _ (hn ▸ hlt) _ rest rfl]
          simp only [List.mapM_cons, hline]
          cases (documentLines rest).mapM decodeUtf8? with
          | none => rfl
          | some lines => simp [unlines, String.append_assoc]

/-- **Reading from the console.** The document consists of the lines before the first empty one. -/
theorem read?_eq (bytes : List UInt8) :
    read? bytes = ((documentLines bytes).mapM decodeUtf8?).map unlines := by
  simp [read?, readFrom?_eq]

end Console

namespace Checker

/-! ## Sources -/

/-- The source can be read, and this is its text: of a file all of it, of the console the lines
before the first empty one. -/
inductive Supplies (console : Except ReadError (List UInt8))
    (files : String → Except ReadError (List UInt8)) : Source → String → Prop
  | file {path : String} {bytes : List UInt8} {text : String} : files path = .ok bytes →
      decodeUtf8? bytes = some text → Supplies console files (.file path) text
  | console {bytes : List UInt8} {lines : List String} : console = .ok bytes →
      (Console.documentLines bytes).mapM decodeUtf8? = some lines →
      Supplies console files .console (Console.unlines lines)

section Sources

variable {console : Except ReadError (List UInt8)} {files : String → Except ReadError (List UInt8)}

theorem readFrom_eq_ok_iff {source : Source} {text : String} :
    readFrom console files source = .ok text ↔ Supplies console files source text := by
  refine ⟨fun h => ?_, fun h => ?_⟩
  · cases source with
    | console =>
      simp only [readFrom, Console.read?_eq] at h
      split at h
      next => cases h
      next bytes =>
        split at h
        next text' hlines =>
          cases h
          obtain ⟨lines, hdecode, rfl⟩ := Option.map_eq_some_iff.1 hlines
          exact .console rfl hdecode
        next => cases h
    | file path =>
      simp only [readFrom] at h
      split at h
      next => cases h
      next bytes hbytes =>
        split at h
        next text' htext =>
          cases h
          exact .file hbytes htext
        next => cases h
  · cases h with
    | file hbytes htext => simp [readFrom, hbytes, htext]
    | console hbytes hlines => simp [readFrom, Console.read?_eq, hbytes, hlines]

/-- A source that cannot be read is an error. -/
theorem exists_error_iff {source : Source} :
    (∃ e, readFrom console files source = .error e) ↔
      ∀ text, ¬ Supplies console files source text := by
  simp only [← readFrom_eq_ok_iff]
  cases readFrom console files source <;> simp

end Sources

/-! ## Runs -/

theorem check_of_ok {text : String} {root : Node} (h : parseDocument text = .ok root)
    (options : Options) (terminal : Bool) : check options terminal text =
      (.accepted,
        Report.accepted ⟨options.format, options.color.resolve terminal⟩ root options.tree) := by
  simp [check, h]

theorem check_of_error {text : String} {e : ParseError} (h : parseDocument text = .error e)
    (options : Options) (terminal : Bool) : check options terminal text =
      (.rejected, Report.rejected ⟨options.format, options.color.resolve terminal⟩ text e) := by
  simp [check, h]

variable {console : List UInt8} {directory : Directory}

/-- A run ends without output if there is no document. -/
theorem run_of_error (options : Options) {e : RunError}
    (h : readSource console directory options.source = .error e) (terminal : Bool) :
    run options console directory terminal = ⟨.error e, []⟩ := by
  simp [run, h]

/-- A run writes the report on the document and nothing else. -/
theorem run_of_ok (options : Options) {text : String}
    (h : readSource console directory options.source = .ok text) (terminal : Bool) :
    run options console directory terminal =
      ⟨.ok (check options terminal text).1, encodeUtf8 (check options terminal text).2⟩ := by
  simp [run, h]

end Checker

end TagMarkup

import Mathlib.Data.List.TakeWhile
import Mathlib.Tactic.Common
import TagMarkup.Proofs.Inputs

/-!
# Colors

**Theorem (`Checker.sameButColors_run`).** Colors are presentation only. In JSON they make no
difference. In a text, what is left when all codes are erased is the same with colors and without
them, whatever codes or beginnings of codes are in the document.

**Erasing.** A code is the escape character, a bracket, digits and semicolons, and the letter `m`
(`IsCode`). They are erased from left to right (`eraseCodes`): a code that the text starts with is
left out (`eraseCodes_append_of_isCode`), and a character that starts none stays
(`eraseCodes_cons`).

**Seams.** Two texts in a row are erased one by one if none of the codes reaches over the seam. This
is so if the second text starts with a character that goes on with no code, whatever the first text
ends with (`StartsAnew`, `eraseCodes_append`).

**Pieces.** A report is a row of pieces, some of them in color. All of them start anew, and so do
the codes around those in color: the offending line has a space in front of it and a line feed
behind it, so that nothing in it is completed by what the report adds. So every piece is erased by
itself (`Report.eraseCodes_write`), and the pieces do not depend on colors.
-/

namespace TagMarkup

/-! ## Codes -/

/-- A digit or a semicolon. -/
def isParameter (c : Char) : Bool := c.isDigit || c == ';'

/-- A sequence that a terminal takes for a change of colors. -/
def IsCode (code : List Char) : Prop :=
  ∃ ps, (∀ p ∈ ps, isParameter p = true) ∧ code = '\x1b' :: '[' :: (ps ++ ['m'])

/-- What is behind the code that a text starts with, if it starts with one. -/
def behindCode? : List Char → Option (List Char)
  | '\x1b' :: '[' :: text =>
    match text.dropWhile isParameter with
    | 'm' :: rest => some rest
    | _ => none
  | _ => none

theorem behindCode?_eq_some_iff {text rest : List Char} :
    behindCode? text = some rest ↔ ∃ code, IsCode code ∧ text = code ++ rest := by
  refine ⟨fun h => ?_, fun h => ?_⟩
  · unfold behindCode? at h
    split at h
    next text =>
      split at h
      next rest' hdrop =>
        cases h
        refine ⟨'\x1b' :: '[' :: (text.takeWhile isParameter ++ ['m']),
          ⟨_, fun p hp => List.mem_takeWhile_imp hp, rfl⟩, ?_⟩
        have htext : text.takeWhile isParameter ++ 'm' :: rest = text := by
          rw [← hdrop, List.takeWhile_append_dropWhile]
        simpa using htext.symm
      next => cases h
    next => cases h
  · obtain ⟨-, ⟨ps, hps, rfl⟩, rfl⟩ := h
    have hdrop : (ps ++ 'm' :: rest).dropWhile isParameter = 'm' :: rest := by
      rw [List.dropWhile_append_of_pos hps]
      rfl
    simp [behindCode?, hdrop]

theorem length_lt_of_behindCode? {text rest : List Char} (h : behindCode? text = some rest) :
    rest.length < text.length := by
  obtain ⟨-, ⟨ps, -, rfl⟩, rfl⟩ := behindCode?_eq_some_iff.1 h
  simp only [List.cons_append, List.length_cons, List.length_append]
  omega

/-- The text without its codes. -/
def eraseCodes (text : List Char) : List Char :=
  match _h : behindCode? text with
  | some rest => eraseCodes rest
  | none =>
    match text with
    | [] => []
    | c :: rest => c :: eraseCodes rest
termination_by text.length
decreasing_by
  · exact length_lt_of_behindCode? (by assumption)
  · simp

@[simp] theorem eraseCodes_nil : eraseCodes [] = [] := by
  rw [eraseCodes]
  rfl

/-- A code at the front is left out. -/
theorem eraseCodes_append_of_isCode {code : List Char} (h : IsCode code) (rest : List Char) :
    eraseCodes (code ++ rest) = eraseCodes rest := by
  have hbehind : behindCode? (code ++ rest) = some rest :=
    behindCode?_eq_some_iff.2 ⟨code, h, rfl⟩
  rw [eraseCodes]
  split <;> simp_all

/-- A character at the front that starts no code stays. -/
theorem eraseCodes_cons {c : Char} {rest : List Char}
    (h : ∀ code behind, IsCode code → c :: rest ≠ code ++ behind) :
    eraseCodes (c :: rest) = c :: eraseCodes rest := by
  have hbehind : behindCode? (c :: rest) = none := by
    rw [Option.eq_none_iff_forall_ne_some]
    intro behind hsome
    obtain ⟨code, hcode, heq⟩ := behindCode?_eq_some_iff.1 hsome
    exact h code behind hcode heq
  rw [eraseCodes]
  split <;> simp_all

/-! ## Seams -/

/-- Whatever stands in front of it, the text does not go on with a code. -/
def StartsAnew (text : List Char) : Prop :=
  ∀ c ∈ text.head?, c ≠ '[' ∧ c ≠ 'm' ∧ isParameter c = false

/-- No code reaches over the seam. -/
theorem ne_code_append {c : Char} {front text : List Char} (htext : StartsAnew text)
    (h : ∀ code behind, IsCode code → c :: front ≠ code ++ behind) :
    ∀ code behind, IsCode code → c :: (front ++ text) ≠ code ++ behind := by
  intro code behind hiscode heq
  rw [← List.cons_append] at heq
  rcases List.append_eq_append_iff.1 heq with ⟨beyond, hcode, htail⟩ | ⟨inside, hinside, -⟩
  · cases beyond with
    | nil => exact h code [] hiscode (by simpa using hcode.symm)
    | cons x beyond =>
      -- the text goes on with a character of the code, and not with its first one
      obtain ⟨ps, hps, rfl⟩ := hiscode
      obtain ⟨hbracket, hm, hparameter⟩ := htext x (by rw [htail]; rfl)
      have hx : x ∈ '[' :: (ps ++ ['m']) := by
        rw [(List.cons.inj hcode).2]
        simp
      simp only [List.mem_cons, List.mem_append, List.not_mem_nil, or_false] at hx
      rcases hx with hx | hx | hx
      · exact hbracket hx
      · rw [hps x hx] at hparameter
        cases hparameter
      · exact hm hx
  · exact h code inside hiscode hinside

/-- Texts in a row are erased one by one. -/
theorem eraseCodes_append (front : List Char) {text : List Char} (h : StartsAnew text) :
    eraseCodes (front ++ text) = eraseCodes front ++ eraseCodes text := by
  induction hn : front.length using Nat.strongRecOn generalizing front with
  | _ n ih =>
    by_cases hstarts : ∃ code behind, IsCode code ∧ front = code ++ behind
    · obtain ⟨code, behind, hcode, rfl⟩ := hstarts
      have hlt : behind.length < n := by
        obtain ⟨ps, -, rfl⟩ := hcode
        simp only [List.cons_append, List.length_cons, List.length_append] at hn
        omega
      rw [List.append_assoc, eraseCodes_append_of_isCode hcode,
        eraseCodes_append_of_isCode hcode]
      exact ih _ hlt behind rfl
    · cases front with
      | nil => simp
      | cons c front =>
        have hne : ∀ code behind, IsCode code → c :: front ≠ code ++ behind := by
          intro code behind hcode heq
          exact hstarts ⟨code, behind, hcode, heq⟩
        have hlt : front.length < n := by
          rw [← hn, List.length_cons]
          omega
        rw [List.cons_append, eraseCodes_cons (ne_code_append h hne), eraseCodes_cons hne,
          ih _ hlt front rfl, List.cons_append]

/-- A code that is begun at the end of a text is not completed behind a line feed. -/
example : eraseCodes "a\x1b[1;\nm\x1b[0mb".toList = "a\x1b[1;\nmb".toList := by decide +kernel

/-! ## Pieces of a report -/

namespace Report

/-- A piece of a report. It is written in the color of its role, if it has one. -/
structure Piece where
  role? : Option Role
  text : String

namespace Piece

/-- A piece as it is written, with colors or without. -/
def write (colors : Bool) (p : Piece) : String :=
  match p.role? with
  | some role => paint colors role p.text
  | none => p.text

end Piece

/-- Pieces in a row. -/
def write (colors : Bool) (ps : List Piece) : String := .join (ps.map (Piece.write colors))

theorem isCode_code (role : Role) : IsCode role.code.toList := by
  cases role with
  | verdictOk => exact ⟨['1', ';', '3', '2'], by simp [isParameter], rfl⟩
  | error => exact ⟨['1', ';', '3', '1'], by simp [isParameter], rfl⟩
  | gutter => exact ⟨['1', ';', '3', '4'], by simp [isParameter], rfl⟩

theorem isCode_resetCode : IsCode resetCode.toList :=
  ⟨['0'], by simp [isParameter], rfl⟩

theorem startsAnew_of_isCode {code : List Char} (h : IsCode code) (rest : List Char) :
    StartsAnew (code ++ rest) := by
  obtain ⟨ps, -, rfl⟩ := h
  intro c hc
  obtain rfl : '\x1b' = c := by simpa using hc
  decide

theorem eraseCodes_of_isCode {code : List Char} (h : IsCode code) : eraseCodes code = [] := by
  simpa using eraseCodes_append_of_isCode h []

namespace Piece

/-- The piece starts with a character that goes on with no code. -/
def IsSeparate (p : Piece) : Prop := ∃ c cs, p.text.toList = c :: cs ∧ StartsAnew [c]

theorem startsAnew_write {p : Piece} (h : p.IsSeparate) (colors : Bool) (rest : List Char) :
    StartsAnew ((p.write colors).toList ++ rest) := by
  obtain ⟨c, cs, htext, hc⟩ := h
  have hplain : StartsAnew (p.text.toList ++ rest) := by
    rw [htext]
    exact hc
  unfold write
  split
  next role _ =>
    cases colors with
    | false => exact hplain
    | true =>
      rw [paint, if_pos rfl, String.toList_append, String.toList_append, List.append_assoc,
        List.append_assoc]
      exact startsAnew_of_isCode (isCode_code role) _
  next => exact hplain

/-- Erasing takes the color from a piece. -/
theorem eraseCodes_write (colors : Bool) (p : Piece) :
    eraseCodes (p.write colors).toList = eraseCodes p.text.toList := by
  unfold write
  split
  next role _ =>
    cases colors with
    | false => rfl
    | true =>
      have hreset : StartsAnew resetCode.toList := by
        simpa using startsAnew_of_isCode isCode_resetCode []
      rw [paint, if_pos rfl, String.toList_append, String.toList_append, List.append_assoc,
        eraseCodes_append_of_isCode (isCode_code role), eraseCodes_append _ hreset,
        eraseCodes_of_isCode isCode_resetCode, List.append_nil]
  next => rfl

end Piece

theorem toList_write_cons (colors : Bool) (p : Piece) (ps : List Piece) :
    (write colors (p :: ps)).toList = (p.write colors).toList ++ (write colors ps).toList := by
  simp [write, String.toList_join]

/-- In a report, every piece is erased by itself, so that it is of no account whether colors are
used. -/
theorem eraseCodes_write (colors : Bool) {ps : List Piece} (h : ∀ p ∈ ps, p.IsSeparate) :
    eraseCodes (write colors ps).toList = ps.flatMap fun p => eraseCodes p.text.toList := by
  induction ps with
  | nil => exact eraseCodes_nil
  | cons p ps ih =>
    have hrest : StartsAnew (write colors ps).toList := by
      cases ps with
      | nil => exact fun c hc => by cases hc
      | cons q qs =>
        rw [toList_write_cons]
        exact Piece.startsAnew_write (h q (by simp)) colors _
    rw [toList_write_cons, eraseCodes_append _ hrest, Piece.eraseCodes_write,
      ih fun q hq => h q (List.mem_cons_of_mem p hq), List.flatMap_cons]

/-! ## Reports -/

/-- The report on an accepted document. -/
def acceptedPieces (root : Node) (tree : Bool) : List Piece :=
  [⟨some .verdictOk, "OK"⟩, ⟨none, "\n" ++ if tree then root.outline else ""⟩]

/-- The report on a rejected text. -/
def rejectedPieces (text : String) (e : ParseError) : List Piece :=
  let line := sourceLine text e.position.line
  let number := toString (e.position.line + 1)
  [⟨some .error, "Failed"⟩,
    ⟨none, " on " ++ e.position.render ++ ": " ++ e.reason.message ++ "\n"⟩,
    ⟨some .gutter, "  " ++ number ++ " |"⟩, ⟨none, " " ++ line ++ "\n"⟩,
    ⟨some .gutter, "  " ++ blanks number.length ++ " |"⟩, ⟨none, " " ++ pad line e.position.column⟩,
    ⟨some .error, "^"⟩, ⟨none, "\n"⟩]

theorem accepted_eq_write (colors : Bool) (root : Node) (tree : Bool) :
    accepted ⟨.text, colors⟩ root tree = write colors (acceptedPieces root tree) := by
  refine String.toList_injective ?_
  simp [accepted, acceptedPieces, write, Piece.write]

theorem rejected_eq_write (colors : Bool) (text : String) (e : ParseError) :
    rejected ⟨.text, colors⟩ text e = write colors (rejectedPieces text e) := by
  refine String.toList_injective ?_
  simp [rejected, snippet, rejectedPieces, write, Piece.write]

theorem isSeparate_acceptedPieces (root : Node) (tree : Bool) :
    ∀ p ∈ acceptedPieces root tree, p.IsSeparate := by
  simp [acceptedPieces, Piece.IsSeparate, StartsAnew, isParameter]

theorem isSeparate_rejectedPieces (text : String) (e : ParseError) :
    ∀ p ∈ rejectedPieces text e, p.IsSeparate := by
  simp [rejectedPieces, Piece.IsSeparate, StartsAnew, isParameter]

theorem eraseCodes_accepted (colors colors' : Bool) (root : Node) (tree : Bool) :
    eraseCodes (accepted ⟨.text, colors⟩ root tree).toList =
      eraseCodes (accepted ⟨.text, colors'⟩ root tree).toList := by
  have hpieces := isSeparate_acceptedPieces root tree
  rw [accepted_eq_write, accepted_eq_write, eraseCodes_write _ hpieces,
    eraseCodes_write _ hpieces]

theorem eraseCodes_rejected (colors colors' : Bool) (text : String) (e : ParseError) :
    eraseCodes (rejected ⟨.text, colors⟩ text e).toList =
      eraseCodes (rejected ⟨.text, colors'⟩ text e).toList := by
  have hpieces := isSeparate_rejectedPieces text e
  rw [rejected_eq_write, rejected_eq_write, eraseCodes_write _ hpieces,
    eraseCodes_write _ hpieces]

end Report

namespace Checker

/-! ## Runs -/

/-- Two results in a format are the same, but for codes in a text. -/
structure SameButColors (format : Format) (r s : Result) : Prop where
  verdict_eq : r.verdict = s.verdict
  json : format = .json → r.output = s.output
  text : format = .text → ∃ t u, r.output = encodeUtf8 t ∧ s.output = encodeUtf8 u ∧
    eraseCodes t.toList = eraseCodes u.toList

/-- **Colors are presentation only.** For all options, whatever is on the console and in the
directory, the color mode makes no difference but for codes, and neither does a terminal. -/
theorem sameButColors_run (options : Options) (mode : ColorMode) (console : List UInt8)
    (directory : Directory) (terminal terminal' : Bool) :
    SameButColors options.format (run options console directory terminal)
      (run { options with color := mode } console directory terminal') := by
  cases hread : readSource console directory options.source with
  | error e =>
    rw [run_of_error options hread, run_of_error { options with color := mode } hread]
    exact ⟨rfl, fun _ => rfl, fun _ => ⟨"", "", encodeUtf8_empty.symm, encodeUtf8_empty.symm, rfl⟩⟩
  | ok text =>
    rw [run_of_ok options hread, run_of_ok { options with color := mode } hread]
    cases hparse : parseDocument text with
    | ok root =>
      rw [check_of_ok hparse, check_of_ok hparse]
      refine ⟨rfl, fun hformat => ?_, fun hformat => ⟨_, _, rfl, rfl, ?_⟩⟩
      · rw [hformat]
        rfl
      · rw [hformat]
        exact Report.eraseCodes_accepted _ _ root options.tree
    | error e =>
      rw [check_of_error hparse, check_of_error hparse]
      refine ⟨rfl, fun hformat => ?_, fun hformat => ⟨_, _, rfl, rfl, ?_⟩⟩
      · rw [hformat]
        rfl
      · rw [hformat]
        exact Report.eraseCodes_rejected _ _ text e

end Checker

end TagMarkup

import Mathlib.Data.Set.List
import Mathlib.Tactic.Common
import TagMarkup.Proofs.CutLines
import TagMarkup.Proofs.Inputs

/-!
# Documents on the console

**Theorem (`Checker.readsConsole`).** Cut the bytes on the console at their line feeds, take the
carriage returns from the ends of the lines, and leave out everything from the first empty line on.
The document consists of the lines that are left, each of them with a line feed behind it, and there
is one exactly if all of them are UTF-8.

Three things follow. No line of a document is empty. What is behind an empty line on the console is
of no account. And a text is read from the console as it is exactly if it consists of lines, each of
them with a line feed behind it, of which none is empty or ends with a carriage return
(`Console.IsVerbatim`); a run on such a text is the same from the console as from a file.

All of this is said of rows of terminated pieces, of bytes (`Lines.terminate 0x0A`) as well as of
characters (`Lines.terminate '\n'`). A text of lines is such a row in both ways.
-/

namespace TagMarkup

namespace Console

/-! ## Texts of lines -/

theorem unlines_cons (l : String) (ls : List String) :
    unlines (l :: ls) = l ++ "\n" ++ unlines ls := by
  simp [unlines]

theorem toList_unlines (ls : List String) :
    (unlines ls).toList = Lines.terminate '\n' (ls.map String.toList) := by
  induction ls with
  | nil => rfl
  | cons l ls ih => simp [unlines_cons, ih]

theorem encodeUtf8_newline : encodeUtf8 "\n" = [0x0A] := by
  rw [encodeUtf8_eq]
  rfl

theorem encodeUtf8_unlines (ls : List String) :
    encodeUtf8 (unlines ls) = Lines.terminate 0x0A (ls.map encodeUtf8) := by
  induction ls with
  | nil => exact encodeUtf8_empty
  | cons l ls ih => simp [unlines_cons, ih, encodeUtf8_newline]

theorem mapM_decodeUtf8?_eq_some_iff {bs : List (List UInt8)} {ls : List String} :
    bs.mapM decodeUtf8? = some ls ↔ bs = ls.map encodeUtf8 := by
  induction bs generalizing ls with
  | nil => simp [eq_comm]
  | cons b bs ih =>
    simp only [List.mapM_cons, Option.bind_eq_bind, Option.bind_eq_some_iff, Option.pure_def,
      Option.some.injEq, ih, decodeUtf8?_eq_some_iff]
    refine ⟨?_, fun h => ?_⟩
    · rintro ⟨l, rfl, ls, rfl, rfl⟩
      rfl
    · cases ls with
      | nil => cases h
      | cons l ls =>
        obtain ⟨rfl, rfl⟩ := List.cons.inj h
        exact ⟨l, rfl, ls, rfl, rfl⟩

/-! ## Leading lines -/

/-- The lines of some bytes, cut at the line feeds, as far as none is empty. -/
def leadingLines (bytes : List UInt8) : List (List UInt8) :=
  (Lines.cut 0x0A 0x0D bytes).takeWhile (· ≠ [])

theorem documentLines_eq (bytes : List UInt8) : documentLines bytes = leadingLines bytes := by
  rw [documentLines, Lines.all_eq_cut, leadingLines]

/-- A document consists of the leading lines. -/
theorem read?_eq_some_iff {bytes : List UInt8} {text : String} :
    read? bytes = some text ↔ ∃ ls, leadingLines bytes = ls.map encodeUtf8 ∧ unlines ls = text := by
  simp only [read?_eq, documentLines_eq, Option.map_eq_some_iff, mapM_decodeUtf8?_eq_some_iff]

theorem exists_read?_iff {bytes : List UInt8} :
    (∃ text, read? bytes = some text) ↔
      ∀ line ∈ leadingLines bytes, ∃ text, decodeUtf8? line = some text := by
  have hrange : (∃ ls : List String, ls.map encodeUtf8 = leadingLines bytes) ↔
      ∀ line ∈ leadingLines bytes, ∃ text, encodeUtf8 text = line := by
    simpa using Set.ext_iff.1 (Set.range_list_map encodeUtf8) (leadingLines bytes)
  simp only [read?_eq_some_iff, decodeUtf8?_eq_some_iff]
  refine ⟨?_, fun h => ?_⟩
  · rintro ⟨-, ls, hls, -⟩
    simpa only [eq_comm] using hrange.1 ⟨ls, hls.symm⟩
  · obtain ⟨ls, hls⟩ := hrange.2 (by simpa only [eq_comm] using h)
    exact ⟨unlines ls, ls, hls.symm, rfl⟩

theorem encodeUtf8_of_read? {bytes : List UInt8} {text : String} (h : read? bytes = some text) :
    encodeUtf8 text = Lines.terminate 0x0A (leadingLines bytes) := by
  obtain ⟨ls, hls, rfl⟩ := read?_eq_some_iff.1 h
  rw [encodeUtf8_unlines, hls]

/-- A leading line is not empty, and no line feed is in it. -/
theorem of_mem_leadingLines {bytes line : List UInt8} (h : line ∈ leadingLines bytes) :
    line ≠ [] ∧ 0x0A ∉ line := by
  have hne : line ≠ [] := by simpa using List.mem_takeWhile_imp h
  have hall : line ∈ Lines.all 0x0A 0x0D bytes := by
    rw [Lines.all_eq_cut]
    exact (List.takeWhile_prefix _).mem h
  exact ⟨hne, Lines.not_mem_of_mem_all hall⟩

/-- A line of a document is not empty, and no line feed is in it. -/
theorem of_mem_lines {bytes : List UInt8} {ls : List String}
    (h : leadingLines bytes = ls.map encodeUtf8) {l : String} (hl : l ∈ ls) :
    l ≠ "" ∧ '\n' ∉ l.toList := by
  have hline : encodeUtf8 l ∈ leadingLines bytes := by
    rw [h]
    exact List.mem_map_of_mem hl
  obtain ⟨hne, hlf⟩ := of_mem_leadingLines hline
  refine ⟨?_, mt (mem_encodeUtf8_iff (a := '\n') (by decide) l).2 hlf⟩
  rintro rfl
  exact hne encodeUtf8_empty

/-- No line feed is at the start of a document or behind another one. -/
theorem ne_append_newline_of_read? {bytes : List UInt8} {text : String}
    (h : read? bytes = some text) {front : List Char} (hfront : Lines.EndsLine '\n' front)
    (rest : List Char) :
    text.toList ≠ front ++ '\n' :: rest := by
  obtain ⟨ls, hls, rfl⟩ := read?_eq_some_iff.1 h
  intro heq
  rw [toList_unlines] at heq
  have hpieces : ∀ p ∈ ls.map String.toList, '\n' ∉ p := by
    intro p hp
    obtain ⟨l, hl, rfl⟩ := List.mem_map.1 hp
    exact (of_mem_lines hls hl).2
  obtain ⟨l, hl, hnil⟩ := List.mem_map.1 (Lines.nil_mem_of_terminate_eq hpieces hfront heq)
  exact (of_mem_lines hls hl).1 (String.toList_eq_nil_iff.1 hnil)

/-! ## Behind an empty line -/

/-- What ends a line. -/
def IsLineEnd (ending : List UInt8) : Prop := ending = [0x0A] ∨ ending = [0x0D, 0x0A]

theorem leadingLines_terminate {ps : List (List UInt8)} (h : ∀ p ∈ ps, 0x0A ∉ p) :
    leadingLines (Lines.terminate 0x0A ps) =
      (ps.map (Lines.dropReturn 0x0D)).takeWhile (· ≠ []) := by
  rw [leadingLines, Lines.cut_terminate 0x0A 0x0D h]

/-- The leading lines end at an empty line, wherever one is. -/
theorem leadingLines_append {front ending : List UInt8} (hfront : Lines.EndsLine 0x0A front)
    (hending : IsLineEnd ending) (rest : List UInt8) :
    leadingLines (front ++ (ending ++ rest)) = leadingLines front := by
  obtain ⟨ps, rfl, hps⟩ := Lines.exists_eq_terminate hfront
  have hnext : Lines.next? 0x0A 0x0D (ending ++ rest) = some ([], rest) := by
    rcases hending with rfl | rfl
    · exact Lines.next?_cons_of_not_mem (p := []) (by decide) rest
    · exact Lines.next?_cons_of_not_mem (p := [0x0D]) (by decide) rest
  rw [leadingLines_terminate hps, leadingLines, ← Lines.all_eq_cut,
    Lines.all_terminate_append 0x0A 0x0D hps, Lines.all_of_next? hnext, List.takeWhile_append]
  split_ifs with hall
  · rw [List.takeWhile_cons_of_neg (by simp), List.append_nil]
    exact ((List.takeWhile_prefix _).eq_of_length hall).symm
  · rfl

theorem read?_append {front ending : List UInt8} (hfront : Lines.EndsLine 0x0A front)
    (hending : IsLineEnd ending) (rest : List UInt8) :
    read? (front ++ (ending ++ rest)) = read? front := by
  rw [read?_eq, read?_eq, documentLines_eq, documentLines_eq,
    leadingLines_append hfront hending]

/-- An empty line may end with a carriage return as well, and the bytes behind it need not be
UTF-8. -/
example : read? [0x61, 0x0D, 0x0D, 0x0A, 0x0D, 0x0A, 0xFF, 0x0A] = some "a\r\n" := by
  decide +kernel

/-- In front of the first empty line stand the leading lines and nothing else. -/
theorem exists_of_nil_mem_cut {bytes : List UInt8} (h : [] ∈ Lines.cut 0x0A 0x0D bytes) :
    ∃ front ending rest, bytes = front ++ (ending ++ rest) ∧ Lines.EndsLine 0x0A front ∧
      IsLineEnd ending ∧ Lines.cut 0x0A 0x0D front = leadingLines bytes := by
  obtain ⟨ps, tail, rfl, hps, htail⟩ := Lines.exists_eq_terminate_append 0x0A bytes
  have hmem : [] ∈ ps.map (Lines.dropReturn 0x0D) := by
    rw [Lines.cut_terminate_append 0x0A 0x0D hps htail, List.mem_append] at h
    rcases h with h | h
    · exact h
    · simp at h
  obtain ⟨lines, behind, hlines, hfirst⟩ := List.eq_append_cons_of_mem hmem
  obtain ⟨qs, rs, rfl, rfl, hrs⟩ := List.map_eq_append_iff.1 hlines
  obtain ⟨p, rs, rfl, hp, -⟩ := List.map_eq_cons_iff.1 hrs
  have hqs : ∀ q ∈ qs, 0x0A ∉ q := fun q hq => hps q (List.mem_append_left _ hq)
  have hfront := Lines.endsLine_terminate 0x0A qs
  have hending : IsLineEnd (p ++ [0x0A]) := by
    rcases Lines.dropReturn_eq_nil_iff.1 hp with rfl | rfl
    · exact .inl rfl
    · exact .inr rfl
  have hbytes : Lines.terminate 0x0A (qs ++ p :: rs) ++ tail =
      Lines.terminate 0x0A qs ++ ((p ++ [0x0A]) ++ (Lines.terminate 0x0A rs ++ tail)) := by
    simp
  refine ⟨_, _, _, hbytes, hfront, hending, ?_⟩
  rw [hbytes, leadingLines_append hfront hending, leadingLines, List.takeWhile_eq_self_iff.2]
  intro line hline
  rw [Lines.cut_terminate 0x0A 0x0D hqs] at hline
  refine decide_eq_true ?_
  rintro rfl
  exact hfirst hline

/-! ## Texts that are read as they are -/

/-- The text consists of lines with a line feed behind each of them. None of them is empty or ends
with a carriage return. -/
def IsVerbatim (text : String) : Prop :=
  ∃ lines : List String, text = unlines lines ∧
    ∀ l ∈ lines, l ≠ "" ∧ '\n' ∉ l.toList ∧ l.toList.getLast? ≠ some '\r'

theorem dropReturn_encodeUtf8_iff {l : String} :
    Lines.dropReturn 0x0D (encodeUtf8 l) = encodeUtf8 l ↔ l.toList.getLast? ≠ some '\r' :=
  Lines.dropReturn_eq_self_iff.trans (getLast?_encodeUtf8_eq_iff (a := '\r') (by decide) l).not

/-- The leading lines of a text of lines. -/
theorem leadingLines_encodeUtf8_unlines {ls : List String} (h : ∀ l ∈ ls, '\n' ∉ l.toList) :
    leadingLines (encodeUtf8 (unlines ls)) =
      ((ls.map encodeUtf8).map (Lines.dropReturn 0x0D)).takeWhile (· ≠ []) := by
  rw [encodeUtf8_unlines]
  refine leadingLines_terminate fun p hp => ?_
  obtain ⟨l, hl, rfl⟩ := List.mem_map.1 hp
  exact mt (mem_encodeUtf8_iff (a := '\n') (by decide) l).1 (h l hl)

theorem read?_of_isVerbatim {text : String} (h : IsVerbatim text) :
    read? (encodeUtf8 text) = some text := by
  obtain ⟨ls, rfl, hls⟩ := h
  refine read?_eq_some_iff.2 ⟨ls, ?_, rfl⟩
  have hdrop : (ls.map encodeUtf8).map (Lines.dropReturn 0x0D) = ls.map encodeUtf8 := by
    rw [List.map_map]
    refine List.map_congr_left fun l hl => ?_
    exact dropReturn_encodeUtf8_iff.2 (hls l hl).2.2
  rw [leadingLines_encodeUtf8_unlines fun l hl => (hls l hl).2.1, hdrop,
    List.takeWhile_eq_self_iff]
  intro p hp
  obtain ⟨l, hl, rfl⟩ := List.mem_map.1 hp
  refine decide_eq_true fun hnil => (hls l hl).1 ?_
  have hdecode := decodeUtf8?_encodeUtf8 l
  rw [hnil, decodeUtf8?_nil] at hdecode
  exact (Option.some.inj hdecode).symm

theorem isVerbatim_of_read? {text : String} (h : read? (encodeUtf8 text) = some text) :
    IsVerbatim text := by
  obtain ⟨ls, hls, rfl⟩ := read?_eq_some_iff.1 h
  have hlines : ∀ l ∈ ls, l ≠ "" ∧ '\n' ∉ l.toList := fun l hl => of_mem_lines hls hl
  refine ⟨ls, rfl, fun l hl => ⟨(hlines l hl).1, (hlines l hl).2, ?_⟩⟩
  -- as many lines were read as there are, so none was left out, and each is as it was
  rw [leadingLines_encodeUtf8_unlines fun l hl => (hlines l hl).2] at hls
  have hprefix : ls.map encodeUtf8 <+: (ls.map encodeUtf8).map (Lines.dropReturn 0x0D) := by
    nth_rewrite 1 [← hls]
    exact List.takeWhile_prefix _
  have hall := hprefix.eq_of_length (by simp)
  rw [List.map_map] at hall
  exact dropReturn_encodeUtf8_iff.1 (List.map_inj_left.1 hall l hl).symm

/-- A text is read from the console as it is exactly if it consists of such lines. -/
theorem read?_encodeUtf8_eq_self_iff {text : String} :
    read? (encodeUtf8 text) = some text ↔ IsVerbatim text :=
  ⟨isVerbatim_of_read?, read?_of_isVerbatim⟩

end Console

namespace Checker

open Console

/-! ## Runs -/

/-- A run on the console is the same as a run on a file with the document in it. -/
theorem run_console_eq_run_file (options : Options) {bytes : List UInt8} {text : String}
    (hread : read? bytes = some text) {directory : Directory} {path : String}
    (hfile : directory.readBytes path = .ok (encodeUtf8 text)) (console : List UInt8)
    (directory' : Directory) (terminal : Bool) :
    run { options with source := .console } bytes directory' terminal =
      run { options with source := .file path } console directory terminal := by
  have hconsole : readSource bytes directory' .console = .ok text := by
    simp [readSource, readFrom, hread]
  have hpath : readSource console directory (.file path) = .ok text := by
    simp [readSource, readFrom, hfile]
  rw [run_of_ok { options with source := .console } hconsole,
    run_of_ok { options with source := .file path } hpath]
  rfl

/-- What the checker makes of the bytes on the console. -/
structure ReadsConsole (bytes : List UInt8) : Prop where
  /-- There is a document exactly if all leading lines are UTF-8. -/
  exists_iff : (∃ text, read? bytes = some text) ↔
    ∀ line ∈ leadingLines bytes, ∃ text, decodeUtf8? line = some text
  /-- It consists of the leading lines, with a line feed behind each of them. -/
  bytes_eq (text : String) : read? bytes = some text →
    encodeUtf8 text = Lines.terminate 0x0A (leadingLines bytes)
  /-- It does not start with a line feed. -/
  head?_ne (text : String) : read? bytes = some text → text.toList.head? ≠ some '\n'
  /-- No two line feeds in it are in a row. -/
  not_infix (text : String) : read? bytes = some text → ¬ ['\n', '\n'] <:+: text.toList
  /-- In front of the first empty line stand the leading lines, and behind it may stand anything. -/
  first_empty : [] ∈ Lines.cut 0x0A 0x0D bytes → ∃ front ending rest,
    bytes = front ++ (ending ++ rest) ∧ Lines.EndsLine 0x0A front ∧ IsLineEnd ending ∧
      Lines.cut 0x0A 0x0D front = leadingLines bytes ∧
      ∀ rest', read? (front ++ (ending ++ rest')) = read? bytes
  /-- Without a document, a run ends with an error and writes nothing. -/
  run_error : read? bytes = none → ∀ (options : Options) (directory : Directory) (terminal : Bool),
    run { options with source := .console } bytes directory terminal =
      ⟨.error (.unreadableConsole .notUtf8), []⟩
  /-- A text is read as it is exactly if its lines are not empty, end with a line feed and have no
  carriage return in front of it. -/
  verbatim_iff (text : String) : bytes = encodeUtf8 text →
    (read? bytes = some text ↔ IsVerbatim text)
  /-- A run on such a text is the same from the console and from a file. -/
  run_eq (text : String) : bytes = encodeUtf8 text → IsVerbatim text →
    ∀ (options : Options) (console : List UInt8) (directory directory' : Directory)
      (path : String) (terminal : Bool), directory.readBytes path = .ok bytes →
        run { options with source := .console } bytes directory' terminal =
          run { options with source := .file path } console directory terminal

/-- **Reading from the console.** Whatever the bytes on the console are, the document consists of
the lines before the first empty one. -/
theorem readsConsole (bytes : List UInt8) : ReadsConsole bytes where
  exists_iff := exists_read?_iff
  bytes_eq _ := encodeUtf8_of_read?
  head?_ne text h hhead := by
    obtain ⟨rest, hrest⟩ := List.head?_eq_some_iff.1 hhead
    exact ne_append_newline_of_read? h (.inl rfl) rest hrest
  not_infix text h hinfix := by
    obtain ⟨front, rest, hrest⟩ := hinfix
    have hfront : Lines.EndsLine '\n' (front ++ ['\n']) := .inr List.getLast?_concat
    refine ne_append_newline_of_read? h hfront rest ?_
    rw [← hrest]
    simp
  first_empty h := by
    obtain ⟨front, ending, rest, hbytes, hfront, hending, hcut⟩ := exists_of_nil_mem_cut h
    refine ⟨front, ending, rest, hbytes, hfront, hending, hcut, fun rest' => ?_⟩
    rw [hbytes, read?_append hfront hending, read?_append hfront hending]
  run_error h options directory terminal := by
    refine run_of_error { options with source := .console } ?_ terminal
    show readSource bytes directory .console = _
    simp [readSource, readFrom, h]
  verbatim_iff text hbytes := by
    rw [hbytes]
    exact read?_encodeUtf8_eq_self_iff
  run_eq text hbytes htext options console directory directory' path terminal hfile := by
    subst hbytes
    exact run_console_eq_run_file options (read?_of_isVerbatim htext) hfile console directory'
      terminal

end Checker

end TagMarkup

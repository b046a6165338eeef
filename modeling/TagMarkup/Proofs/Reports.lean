import TagMarkup.Command.Report
import TagMarkup.Proofs.Documents
import TagMarkup.Proofs.JsonObjects

/-!
# Reports

**Theorem (`Report.isLine_json`).** In JSON, a report is one object on one line, and what is read
there is what was reported: the verdict, with the outline of the tree if that was asked for, or with
the place and the reason of the error.

A report is written by hand, as a text with two or five values in it. It is what `Json.write`
writes for its members (`accepted_json`, `rejected_json`), and this reads back as these members and
as nothing else, whatever characters are in its strings. The outline and the reason may be any texts
here, with escapes of their own that are escaped again.
-/

namespace TagMarkup

namespace Json

/-- The report is a line, with a line feed at its end and none before, and the line is an object
with these members and no others. No two of them have the same key. -/
structure IsLine (report : String) (members : List (String × Value)) : Prop where
  exists_line : ∃ line, report = line ++ "\n" ∧ '\n' ∉ line.toList ∧
    ∀ ms, IsObject line ms ↔ ms = members
  nodup_keys : (members.map Prod.fst).Nodup

theorem isLine_write {members : List (String × Value)} (hne : members ≠ [])
    (hkeys : (members.map Prod.fst).Nodup) : IsLine (write members ++ "\n") members where
  exists_line := ⟨write members, rfl, newline_not_mem_write members, isObject_write_iff hne⟩
  nodup_keys := hkeys

end Json

/-! ## What is written -/

theorem Position.newline_not_mem_render (p : Position) : '\n' ∉ p.render.toList := by
  simp [render, Json.newline_not_mem_toDigits]

/-- The error of a rejected text is told on one line. -/
theorem newline_not_mem_message {text : String} {e : ParseError}
    (h : parseDocument text = .error e) : '\n' ∉ e.message.toList := by
  obtain ⟨w, -, -, -, -, -, -, rfl⟩ := exists_stuck_of_parseDocument_eq_error h
  simp [ParseError.message, Position.newline_not_mem_render, ParseError.trailingAfter,
    Reason.message]

namespace Report

/-- Without colors the verdict is a line of its own. -/
theorem accepted_text (root : Node) (tree : Bool) : accepted ⟨.text, false⟩ root tree =
    "OK" ++ ("\n" ++ if tree then root.outline else "") := by
  refine String.toList_injective ?_
  simp [accepted, paint]

/-- Without colors the error is a line of its own. -/
theorem rejected_text (text : String) (e : ParseError) :
    rejected ⟨.text, false⟩ text e = e.message ++ ("\n" ++ snippet false text e) := by
  refine String.toList_injective ?_
  simp [rejected, paint, ParseError.message]

/-- In JSON a report is one object on a line of its own. -/
theorem accepted_json (colors : Bool) (root : Node) (tree : Bool) :
    accepted ⟨.json, colors⟩ root tree = Json.write
      (if tree then [("ok", .truth true), ("tree", .string root.outline)]
        else [("ok", .truth true)]) ++ "\n" := by
  cases tree with
  | false => rfl
  | true =>
    refine String.toList_injective ?_
    have hkeys : (JsonString.text "ok").toList = "\"ok\"".toList ∧
        (JsonString.text "tree").toList = "\"tree\"".toList := by decide
    simp [accepted, Json.write, Json.writeMembers, Json.writeMember, Json.Value.write, hkeys]

theorem rejected_json (colors : Bool) (text : String) (e : ParseError) :
    rejected ⟨.json, colors⟩ text e = Json.write
      [("ok", .truth false), ("line", .number e.position.line),
        ("column", .number e.position.column), ("offset", .number e.offset),
        ("reason", .string e.reason.message)] ++ "\n" := by
  have hkeys : (JsonString.text "ok").toList = "\"ok\"".toList ∧
      (JsonString.text "line").toList = "\"line\"".toList ∧
      (JsonString.text "column").toList = "\"column\"".toList ∧
      (JsonString.text "offset").toList = "\"offset\"".toList ∧
      (JsonString.text "reason").toList = "\"reason\"".toList := by decide
  refine String.toList_injective ?_
  simp [rejected, Json.write, Json.writeMembers, Json.writeMember, Json.Value.write, hkeys]

/-! ## What is read -/

/-- **Reports in JSON read as what was reported**, for all trees, texts and errors. -/
theorem isLine_json (colors : Bool) (root : Node) (text : String) (e : ParseError) :
    Json.IsLine (accepted ⟨.json, colors⟩ root false) [("ok", .truth true)] ∧
      Json.IsLine (accepted ⟨.json, colors⟩ root true)
        [("ok", .truth true), ("tree", .string root.outline)] ∧
      Json.IsLine (rejected ⟨.json, colors⟩ text e)
        [("ok", .truth false), ("line", .number e.position.line),
          ("column", .number e.position.column), ("offset", .number e.offset),
          ("reason", .string e.reason.message)] := by
  refine ⟨?_, ?_, ?_⟩
  · rw [accepted_json]
    exact Json.isLine_write (by simp) (by simp)
  · rw [accepted_json]
    exact Json.isLine_write (by simp) (by simp)
  · rw [rejected_json]
    exact Json.isLine_write (by simp) (by simp)

end Report

end TagMarkup

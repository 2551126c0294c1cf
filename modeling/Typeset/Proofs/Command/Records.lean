import Typeset.Proofs.Command.Faults
import Typeset.Proofs.Feedback.Accounting
import Typeset.Proofs.Feedback.Record

/-!
The records of a replay.  Each is one line, so the output is cut back into records, and the records
are read back as the diagnostics of the lines that were answered.
-/

namespace Typeset

theorem Report.lines_printLines {lines : List Text}
    (unbroken : ∀ line ∈ lines, '\n' ∉ line ∧ '\r' ∉ line) :
    Text.lines (printLines lines) = lines := by
  induction lines with
  | nil => rfl
  | cons line lines ih =>
      obtain ⟨⟨noFeed, noReturn⟩, others⟩ := List.forall_mem_cons.mp unbroken
      have rest := ih others
      rw [Text.lines] at rest
      rw [printLines, List.flatMap_cons, List.append_assoc, List.singleton_append, Text.lines,
        Text.cutAfter_stop noFeed, List.map_cons, Text.dropLineBreak_unreturned noReturn]
      exact congrArg (line :: ·) rest

namespace Feed

theorem eq_ok_of_refusal? {answer : Except FeedFault Feedback} (answered : refusal? answer = none) :
    ∃ feedback, answer = .ok feedback := by
  cases answer with
  | ok feedback => exact ⟨feedback, rfl⟩
  | error fault => cases answered

theorem eq_error_of_refusal? {answer : Except FeedFault Feedback} {fault : FeedFault}
    (refused : refusal? answer = some fault) : answer = .error fault := by
  cases answer with
  | ok feedback => cases refused
  | error other => exact congrArg Except.error (Option.some.inj refused)

theorem Call.told?_eq (call : Call) :
    call.told? = call.result.2.toOption.bind Feedback.diagnostic? := by
  rw [told?]
  cases call.result.2 <;> rfl

theorem served_eq_findIdx (feed : Feed) (lines : List (Text × LineKind)) :
    feed.served lines =
      (feed.calls lines).findIdx fun call => (refusal? call.result.2).isSome := by
  rw [served, answers_eq, List.findIdx_map]
  rfl

theorem firstFault?_eq_findSome? (feed : Feed) (lines : List (Text × LineKind)) :
    feed.firstFault? lines = (feed.calls lines).findSome? fun call => refusal? call.result.2 := by
  rw [firstFault?, answers_eq, List.findSome?_map]
  rfl

end Feed

namespace Replay

theorem diagnostics_run (replay : Replay) (lines : List Text) :
    (replay.run lines).diagnostics =
      ((replay.feed.calls (replay.kinds lines)).take
        (replay.feed.served (replay.kinds lines))).filterMap Feed.Call.told? := by
  obtain ⟨-, -, shown⟩ := replay.run_follows lines
  have told : Feed.Call.told? = fun call =>
      call.result.2.toOption.bind Feedback.diagnostic? :=
    funext Feed.Call.told?_eq
  calc
    (replay.run lines).diagnostics =
        ((replay.run lines).shown.map fun shown => Except.ok shown.2).filterMap
          fun answer : Except FeedFault Feedback => answer.toOption.bind Feedback.diagnostic? := by
      rw [List.filterMap_map]
      rfl
    _ = _ := by
      rw [shown, Feed.answers_eq, ← List.map_take, List.map_map, List.filterMap_map, told]
      rfl

variable {replay : Replay} {lines : List Text}

theorem run_faultless (faultless : (replay.run lines).fault? = none) :
    (∀ call ∈ replay.feed.calls (replay.kinds lines), ∃ feedback, call.result.2 = .ok feedback) ∧
      (replay.run lines).diagnostics =
        (replay.feed.calls (replay.kinds lines)).filterMap Feed.Call.told? ∧
      (replay.run lines).summary = (replay.feed.after (replay.kinds lines)).summary := by
  obtain ⟨last, first, -⟩ := replay.run_follows lines
  rw [first] at faultless
  have all := (replay.feed.firstFault?_eq_none_iff _).mp faultless
  refine ⟨fun call member => ?_, ?_, ?_⟩
  · rw [Feed.firstFault?_eq_findSome?, List.findSome?_eq_none_iff] at faultless
    exact Feed.eq_ok_of_refusal? (faultless call member)
  · rw [diagnostics_run, all, ← Feed.length_calls replay.feed, List.take_length]
  · rw [summary_run, last, Feed.untilFault, all, List.take_of_length_le (Nat.le_succ _)]

theorem run_faulty {fault : FeedFault} (faulty : (replay.run lines).fault? = some fault) :
    ∃ answered refused later,
      replay.feed.calls (replay.kinds lines) = answered ++ refused :: later ∧
        (∀ call ∈ answered, ∃ feedback, call.result.2 = .ok feedback) ∧
        refused.result.2 = .error fault ∧
        (replay.run lines).shown.length = answered.length ∧
        (replay.run lines).diagnostics = answered.filterMap Feed.Call.told? := by
  obtain ⟨-, first, -⟩ := replay.run_follows lines
  rw [first, Feed.firstFault?_eq_findSome?, List.findSome?_eq_some_iff] at faulty
  obtain ⟨answered, refused, later, same, fails, answers⟩ := faulty
  have served : replay.feed.served (replay.kinds lines) = answered.length := by
    have none : answered.findIdx (fun call => (Feed.refusal? call.result.2).isSome) =
        answered.length :=
      List.findIdx_eq_length.mpr fun call member => by rw [answers call member]; rfl
    rw [Feed.served_eq_findIdx, same, List.findIdx_append, none, if_neg (Nat.lt_irrefl _),
      List.findIdx_cons, fails]
    exact Nat.zero_add _
  refine ⟨answered, refused, later, same, fun call member => ?_,
    Feed.eq_error_of_refusal? fails, ?_, ?_⟩
  · exact Feed.eq_ok_of_refusal? (answers call member)
  · rw [length_shown, served]
  · rw [diagnostics_run, served, same, List.take_left]

end Replay

namespace ReplayResult

variable {result : ReplayResult} {file path : Path} {number : Nat} {fault : FeedFault}

theorem recordLines_of_faultless (faultless : result.fault? = none) :
    result.recordLines = result.diagnostics.map Diagnostic.write ++ [result.summary.write] := by
  rw [recordLines, faultless]

theorem recordLines_of_faulty (faulty : result.fault? = some fault) :
    result.recordLines = result.diagnostics.map Diagnostic.write := by
  rw [recordLines, faulty]
  exact List.append_nil _

theorem lines_recordLines (result : ReplayResult) :
    Text.lines (Report.printLines result.recordLines) = result.recordLines := by
  refine Report.lines_printLines ?_
  cases found : result.fault? with
  | none =>
      rw [recordLines_of_faultless found, List.forall_mem_append, List.forall_mem_singleton]
      exact ⟨Diagnostic.unbroken_records, result.summary.unbroken_write⟩
  | some fault =>
      rw [recordLines_of_faulty found]
      exact Diagnostic.unbroken_records

theorem of_failure? (fails : result.failure? file = some (.uninterpretable path number fault)) :
    result.fault? = some fault ∧ path = file ∧ number = result.shown.length + 1 := by
  have found := fault?_of_failure? fails
  rw [failure?, found] at fails
  cases fails
  exact ⟨found, rfl, rfl⟩

theorem faultless_of_failure?
    (ended : result.failure? file = none ∨ result.failure? file = some (.emptyOutput file)) :
    result.fault? = none := by
  cases found : result.fault? with
  | none => rfl
  | some fault =>
      rw [failure?, found] at ended
      rcases ended with ended | ended <;> cases ended

end ReplayResult

theorem ReplayRequest.stdout_run {request : ReplayRequest} (json : request.json = true)
    {context : CommandContext} {file : Path} {content : Bytes}
    (readable : context.workspace.read file = .ok content) :
    (request.run context file).stdout =
      Report.printLines (request.replay file content).recordLines := by
  simp only [run, readable, json, if_true]
  cases (request.replay file content).failure? file <;> rfl

/-- A diagnostic is written as one line, which is read back as the diagnostic; any text that is read
as a diagnostic has one canonical form, which is read as the same.  So the records that a replay
prints are read back, line by line, as the diagnostics of the lines that it has answered.  If these
are all, the last line holds the summary by its four fields, which count the records; if a line is
refused, the records are those of the lines before it, without a summary. -/
theorem records_are_read_back :
    (∀ diagnostic : Diagnostic, Diagnostic.read? diagnostic.write = some diagnostic ∧
        '\n' ∉ diagnostic.write ∧ '\r' ∉ diagnostic.write) ∧
      (∀ (text : Text) (diagnostic : Diagnostic), Diagnostic.read? text = some diagnostic →
        ∃ canonical, Diagnostic.canonical? text = some canonical ∧
          Diagnostic.read? canonical = some diagnostic ∧
            ∀ other, Diagnostic.canonical? other = some canonical ↔
              Diagnostic.read? other = some diagnostic) ∧
      ∀ (request : ReplayRequest) (context : CommandContext) (file : Path) (content : Bytes),
        request.json = true → context.workspace.read file = .ok content →
          let report := request.run context file
          let feed := Feed.start (request.feedOptions file)
          let lines := introducedText (Text.lines (Text.decodeLossy content))
          let summary := (feed.after lines).summary
          (report.failure? = none ∨ report.failure? = some (.emptyOutput file) →
            (∀ call ∈ feed.calls lines, ∃ feedback, call.result.2 = .ok feedback) ∧
              ∃ records, report.stdout = Report.printLines (records ++ [summary.write]) ∧
                Text.lines report.stdout = records ++ [summary.write] ∧
                records.length = summary.tally.diagnostics ∧
                records.map Diagnostic.read? =
                  ((feed.calls lines).filterMap Feed.Call.told?).map some ∧
                Json.read? summary.write = some (.record
                  [("lines", .ofNat summary.tally.lines),
                    ("diagnostics", .ofNat summary.tally.diagnostics),
                    ("tracker_faults", .ofNat summary.tally.faults),
                    ("highest", .ofText summary.highest.name)]) ∧
                Diagnostic.read? summary.write = none) ∧
            ∀ (path : Path) (number : Nat) (fault : FeedFault),
              report.failure? = some (.uninterpretable path number fault) →
                ∃ answered refused later, feed.calls lines = answered ++ refused :: later ∧
                  answered.length + 1 = number ∧ path = file ∧
                  (∀ call ∈ answered, ∃ feedback, call.result.2 = .ok feedback) ∧
                  refused.result.2 = .error fault ∧
                  ∃ records, report.stdout = Report.printLines records ∧
                    Text.lines report.stdout = records ∧
                    records.map Diagnostic.read? =
                      (answered.filterMap Feed.Call.told?).map some := by
  refine ⟨fun diagnostic => ⟨diagnostic.read?_write, diagnostic.unbroken_write⟩, ?_, ?_⟩
  · intro text diagnostic read
    exact ⟨diagnostic.write, Diagnostic.canonical?_eq_some_iff.mpr read, diagnostic.read?_write,
      fun other => Diagnostic.canonical?_eq_some_iff⟩
  · intro request context file content json readable report feed lines summary
    have stdout : report.stdout = Report.printLines (request.replay file content).recordLines :=
      ReplayRequest.stdout_run json readable
    have failure : report.failure? = (request.replay file content).failure? file :=
      ReplayRequest.failure?_run readable request
    have cut : Text.lines report.stdout = (request.replay file content).recordLines := by
      rw [stdout, ReplayResult.lines_recordLines]
    rw [cut, stdout, failure]
    refine ⟨fun ended => ?_, fun path number fault fails => ?_⟩
    · have faultless := ReplayResult.faultless_of_failure? ended
      obtain ⟨answers, told, counted⟩ := Replay.run_faultless faultless
      have records : (request.replay file content).recordLines =
          ((feed.calls lines).filterMap Feed.Call.told?).map Diagnostic.write ++
            [summary.write] :=
        (ReplayResult.recordLines_of_faultless faultless).trans
          (congrArg₂ (fun diagnostics summary => diagnostics.map Diagnostic.write ++
            [Summary.write summary]) told counted)
      have number : summary.tally.diagnostics =
          ((feed.calls lines).filterMap Feed.Call.told?).length :=
        (congrArg Tally.diagnostics (Feed.tally_of_calls feed lines)).trans (Nat.zero_add _)
      refine ⟨answers, _, by rw [records], records, ?_, Diagnostic.map_read?_write _,
        summary.read?_write, summary.not_diagnostic⟩
      rw [List.length_map, number]
    · obtain ⟨faulty, rfl, rfl⟩ := ReplayResult.of_failure? fails
      obtain ⟨answered, refused, later, same, answers, error, length, told⟩ :=
        Replay.run_faulty faulty
      have records : (request.replay path content).recordLines =
          (answered.filterMap Feed.Call.told?).map Diagnostic.write :=
        (ReplayResult.recordLines_of_faulty faulty).trans
          (congrArg (List.map Diagnostic.write) told)
      exact ⟨answered, refused, later, same, congrArg (· + 1) length.symm, rfl, answers, error, _,
        by rw [records], records, Diagnostic.map_read?_write _⟩

/-- The warning has quotes and a backslash, and the line after it is refused by a strict replay.  A
lenient one counts it as a fault. -/
theorem quoted_warning_is_read_back :
    let content := Text.encode "This is pdfTeX\nLaTeX Warning: \"a\\b\".\n)\n"
    let context : CommandContext := {
      workspace := { home := [], entries := [(["a.log"], .file content)] }
      environment := []
      programs := fun _ => none }
    let lenient : ReplayRequest := { json := true }
    let strict : ReplayRequest := { json := true, strict := true }
    let warning : Diagnostic :=
      { file? := some "a.tex", line? := none, message := "\"a\\b\".", severity := .warning
        kind := .warning }
    let counts : Text :=
      "\x7b\"lines\":3,\"diagnostics\":1,\"tracker_faults\":1,\"highest\":\"warning\"\x7d"
    (∃ record, (lenient.run context "a.log").stdout = Report.printLines [record, counts] ∧
        Diagnostic.read? record = some warning ∧ Diagnostic.read? counts = none) ∧
      (strict.run context "a.log").failure? =
        some (.uninterpretable "a.log" 3 (.nesting .underflow)) ∧
      ∃ record, (strict.run context "a.log").stdout = Report.printLines [record] ∧
        Diagnostic.read? record = some warning := by
  intro content context lenient strict warning counts
  obtain ⟨-, -, printed⟩ := records_are_read_back
  have readable : context.workspace.read "a.log" = .ok content := rfl
  have refused : (strict.run context "a.log").failure? =
      some (.uninterpretable "a.log" 3 (.nesting .underflow)) := by decide +kernel
  refine ⟨?_, refused, ?_⟩
  · obtain ⟨taken, -⟩ := printed lenient context "a.log" content rfl readable
    obtain ⟨-, records, stdout, -, -, read, -, silent⟩ := taken (.inl (by decide +kernel))
    have told : ((Feed.start (lenient.feedOptions "a.log")).calls
        (introducedText (Text.lines (Text.decodeLossy content)))).filterMap Feed.Call.told? =
          [warning] := by decide +kernel
    have counted : ((Feed.start (lenient.feedOptions "a.log")).after
        (introducedText (Text.lines (Text.decodeLossy content)))).summary.write = counts := by
      decide +kernel
    rw [told] at read
    rw [counted] at stdout silent
    obtain ⟨record, rfl, same⟩ := List.map_eq_singleton_iff.mp read
    exact ⟨record, stdout, same, silent⟩
  · obtain ⟨-, stopped⟩ := printed strict context "a.log" content rfl readable
    obtain ⟨answered, refused, later, same, number, -, -, -, records, stdout, -, read⟩ :=
      stopped _ _ _ refused
    have two : answered.length = 2 := Nat.succ.inj number
    have before := congrArg (List.take 2) same
    rw [List.take_left' two] at before
    have told : answered.filterMap Feed.Call.told? = [warning] := by
      rw [← before]
      decide +kernel
    rw [told] at read
    obtain ⟨record, rfl, same⟩ := List.map_eq_singleton_iff.mp read
    exact ⟨record, stdout, same⟩

end Typeset

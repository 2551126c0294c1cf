import Typeset.Proofs.Message.Severity
import Typeset.Proofs.Text.Ends

/-!
Context lines.  The source that the engine echoes behind the line number is arbitrary, so such a line
may also have the form of a warning or of a message about a place, and it is then taken for that.
Every other context line ends the error block.
-/

namespace Typeset

namespace Message

def IsContextLine (text : Text) : Prop :=
  ∃ digits source : Text, digits ≠ [] ∧ (∀ c ∈ digits, Text.isDecimalDigit c) ∧
    text = ("l." : Text) ++ (digits ++ source)

def IsAboutPlace (text : Text) : Prop :=
  ∃ file digits message : Text, (file ≠ [] ∧ ':' ∉ file) ∧
    (digits ≠ [] ∧ ∀ c ∈ digits, Text.isDecimalDigit c) ∧ '\n' ∉ message ∧
      text = file ++ ':' :: (digits ++ ((": " : Text) ++ message))

variable {text digits rest : Text}

theorem leadingDigits?_append (nonempty : digits ≠ []) (decimal : ∀ c ∈ digits, Text.isDecimalDigit c)
    (stops : Text.Stops Text.isDecimalDigit rest) :
    leadingDigits? (digits ++ rest) = some (digits, rest) := by
  obtain ⟨head, tail, rfl⟩ := List.exists_cons_of_ne_nil nonempty
  simp only [leadingDigits?, Text.takeWhile_append_stop decimal stops,
    Text.dropWhile_append_stop decimal stops]

theorem of_leadingDigits? (read : leadingDigits? text = some (digits, rest)) :
    (digits ≠ [] ∧ ∀ c ∈ digits, Text.isDecimalDigit c) ∧ text = digits ++ rest := by
  have decimal : ∀ c ∈ text.takeWhile Text.isDecimalDigit, Text.isDecimalDigit c :=
    fun c member => List.mem_takeWhile_imp member
  have split := List.takeWhile_append_dropWhile (p := Text.isDecimalDigit) (l := text)
  unfold leadingDigits? at read
  split at read
  · cases read
  · next nonempty =>
      cases read
      exact ⟨⟨nonempty, decimal⟩, split.symm⟩

theorem stops_of_leadingDigits? (read : leadingDigits? text = some (digits, rest)) :
    Text.Stops Text.isDecimalDigit rest := by
  have stop := List.head?_dropWhile_not Text.isDecimalDigit text
  unfold leadingDigits? at read
  split at read
  · cases read
  · cases read
    intro first isFirst
    rw [isFirst] at stop
    simpa using stop

theorem exists_leadingDigits? (nonempty : digits ≠ [])
    (decimal : ∀ c ∈ digits, Text.isDecimalDigit c) (source : Text) :
    ∃ found context, leadingDigits? (digits ++ source) = some (found, context) := by
  obtain ⟨head, tail, rfl⟩ := List.exists_cons_of_ne_nil nonempty
  have first : Text.isDecimalDigit head = true := decimal head List.mem_cons_self
  simp [leadingDigits?, first]

theorem located?_append {file message : Text} (named : file ≠ []) (noColon : ':' ∉ file)
    (nonempty : digits ≠ []) (decimal : ∀ c ∈ digits, Text.isDecimalDigit c)
    (unbroken : '\n' ∉ message) :
    located? (file ++ ':' :: (digits ++ ((": " : Text) ++ message))) =
      some
        { file? := some file, line? := Text.lineNumber? digits, message, severity := .none,
          kind := .located } := by
  obtain ⟨first, others, rfl⟩ := List.exists_cons_of_ne_nil named
  have passes : ∀ c ∈ first :: others, decide (c ≠ ':') = true := by
    intro c member
    exact decide_eq_true fun same => noColon (same ▸ member)
  have stops (rest : Text) : Text.Stops (fun c => decide (c ≠ ':')) (':' :: rest) :=
    .cons (by decide) rest
  have number : leadingDigits? (digits ++ ((": " : Text) ++ message)) =
      some (digits, (": " : Text) ++ message) :=
    leadingDigits?_append nonempty decimal (.cons (by decide) _)
  unfold located?
  rw [Text.takeWhile_append_stop passes (stops _), Text.dropWhile_append_stop passes (stops _)]
  simp only [Option.bind_eq_bind, number, Option.bind_some, Text.after?_append, if_neg unbroken]

theorem of_located? {diagnostic : Diagnostic} (read : located? text = some diagnostic) :
    ∃ file digits : Text, (file ≠ [] ∧ ':' ∉ file) ∧
      (digits ≠ [] ∧ ∀ c ∈ digits, Text.isDecimalDigit c) ∧ '\n' ∉ diagnostic.message ∧
        text = file ++ ':' :: (digits ++ ((": " : Text) ++ diagnostic.message)) ∧
          diagnostic.file? = some file ∧ diagnostic.line? = Text.lineNumber? digits := by
  unfold located? at read
  split at read
  · next first others rest starts ends =>
      simp only [Option.bind_eq_bind, Option.bind_eq_some_iff, Option.ite_none_left_eq_some,
        Prod.exists, Option.some.injEq] at read
      obtain ⟨digits, behind, number, message, said, unbroken, rfl⟩ := read
      obtain ⟨decimal, rfl⟩ := of_leadingDigits? number
      have noColon : ':' ∉ first :: others := by
        rw [← starts]
        intro member
        simpa using List.mem_takeWhile_imp member
      refine ⟨first :: others, digits, ⟨by simp, noColon⟩, decimal, unbroken, ?_, rfl, rfl⟩
      calc
        text = text.takeWhile (· ≠ ':') ++ text.dropWhile (· ≠ ':') :=
          List.takeWhile_append_dropWhile.symm
        _ = (first :: others) ++ ':' :: (digits ++ ((": " : Text) ++ message)) := by
          rw [starts, ends, Text.eq_append_of_after? said]
  · cases read

theorem isSome_located?_iff (text : Text) : (located? text).isSome ↔ IsAboutPlace text := by
  constructor
  · intro found
    obtain ⟨diagnostic, read⟩ := Option.isSome_iff_exists.mp found
    obtain ⟨file, digits, named, decimal, unbroken, same, -, -⟩ := of_located? read
    exact ⟨file, digits, diagnostic.message, named, decimal, unbroken, same⟩
  · rintro ⟨file, digits, message, ⟨named, noColon⟩, ⟨nonempty, decimal⟩, unbroken, rfl⟩
    rw [located?_append named noColon nonempty decimal unbroken, Option.isSome_some]

theorem lineReference?_append (nonempty : digits ≠ [])
    (decimal : ∀ c ∈ digits, Text.isDecimalDigit c)
    (stops : Text.Stops Text.isDecimalDigit rest) (unbroken : '\n' ∉ rest) :
    lineReference? (("l." : Text) ++ (digits ++ rest)) =
      some
        { line? := Text.lineNumber? digits, message := Text.trim rest, severity := .none,
          kind := .lineReference } := by
  unfold lineReference?
  simp only [Option.bind_eq_bind, Text.after?_append, Option.bind_some,
    leadingDigits?_append nonempty decimal stops, if_neg unbroken]

theorem exists_lineReference? (context : IsContextLine text) (unbroken : '\n' ∉ text) :
    ∃ diagnostic, lineReference? text = some diagnostic := by
  obtain ⟨digits, source, nonempty, decimal, rfl⟩ := context
  obtain ⟨found, echoed, read⟩ := exists_leadingDigits? nonempty decimal source
  rw [(of_leadingDigits? read).2] at unbroken
  have noFeed : '\n' ∉ echoed := fun member => unbroken (by simp [member])
  unfold lineReference?
  simp only [Option.bind_eq_bind, Text.after?_append, Option.bind_some, read, if_neg noFeed]
  exact ⟨_, rfl⟩

theorem diagnostic?_of_isContextLine (context : IsContextLine text) :
    diagnostic? text = (warning? text).or ((located? text).or (lineReference? text)) := by
  obtain ⟨digits, source, -, -, rfl⟩ := context
  rfl

theorem kind_of_isContextLine (context : IsContextLine text) (unbroken : '\n' ∉ text) :
    ∃ diagnostic, diagnostic? text = some diagnostic ∧
      (Text.contains "Warning: " text = true → diagnostic.kind = .warning) ∧
      (Text.contains "Warning: " text = false → IsAboutPlace text → diagnostic.kind = .located) ∧
      (Text.contains "Warning: " text = false → ¬ IsAboutPlace text →
        diagnostic.kind = .lineReference) := by
  rw [diagnostic?_of_isContextLine context]
  cases said : Text.contains "Warning: " text with
  | true =>
      obtain ⟨found, warning⟩ :=
        Option.isSome_iff_exists.mp ((isSome_warning?_iff text).mpr ⟨unbroken, said⟩)
      rw [warning, Option.some_or]
      exact ⟨found, rfl, fun _ => kind_of_warning? warning, by simp, by simp⟩
  | false =>
      have silent : warning? text = none := by
        rw [← Option.not_isSome_iff_eq_none, isSome_warning?_iff, said]
        simp
      rw [silent, Option.none_or]
      cases place : located? text with
      | some found =>
          have isAbout : IsAboutPlace text :=
            (isSome_located?_iff text).mp (Option.isSome_iff_exists.mpr ⟨found, place⟩)
          rw [Option.some_or]
          exact ⟨found, rfl, by simp, fun _ _ => kind_of_located? place,
            fun _ nowhere => absurd isAbout nowhere⟩
      | none =>
          have nowhere : ¬ IsAboutPlace text := by
            rw [← isSome_located?_iff, place]
            simp
          obtain ⟨found, read⟩ := exists_lineReference? context unbroken
          rw [Option.none_or, read]
          exact ⟨found, rfl, by simp, fun _ isAbout => absurd isAbout nowhere,
            fun _ _ => kind_of_lineReference? read⟩

end Message

/-- In every state of the listener, a context line is a warning if it announces one, else a message
about a place if it has that form, and otherwise it ends the error block. -/
theorem context_line_ends_block (listener : Listener) {line : Text}
    (context : Message.IsContextLine (Text.trim line)) (unbroken : '\n' ∉ Text.trim line) :
    ∃ diagnostic, (listener.hear line).1 = .message (.diagnostic diagnostic) ∧
      (Text.contains "Warning: " (Text.trim line) = true → diagnostic.kind = .warning) ∧
      (Text.contains "Warning: " (Text.trim line) = false →
        Message.IsAboutPlace (Text.trim line) → diagnostic.kind = .located) ∧
      (Text.contains "Warning: " (Text.trim line) = false →
        ¬ Message.IsAboutPlace (Text.trim line) →
          diagnostic.kind = .lineReference ∧ (listener.hear line).2.mode = .normal) := by
  obtain ⟨diagnostic, read, warns, places, refers⟩ := Message.kind_of_isContextLine context unbroken
  refine ⟨diagnostic, by rw [Listener.hear_of_announced listener read], warns, places, ?_⟩
  intro silent nowhere
  have kind := refers silent nowhere
  refine ⟨kind, ?_⟩
  rw [Listener.hear_of_announced listener read, Listener.note, kind]
  rfl

/-- The context line behind a header is heard as one and ends the block. -/
theorem macro_is_referred_to :
    let inside : Listener := (Listener.start.hear "! Undefined control sequence.").2
    inside.mode = .insideError ∧ (inside.hear "l.12 \\foo").2.mode = .normal := by
  intro inside
  have context : Message.IsContextLine (Text.trim "l.12 \\foo") :=
    ⟨"12", " \\foo", by decide, List.all_eq_true.mp (by decide), by decide⟩
  have nowhere : ¬ Message.IsAboutPlace (Text.trim "l.12 \\foo") := by
    rw [← Message.isSome_located?_iff]
    decide
  obtain ⟨diagnostic, -, -, -, refers⟩ := context_line_ends_block inside context (by decide)
  exact ⟨by decide, (refers (by decide) nowhere).2⟩

/-- A context line is no reference, and the block goes on behind it, where the echoed source announces
a warning, where it names a place, and where a line feed is in it. -/
theorem context_line_is_taken_for_others :
    let inside : Listener := (Listener.start.hear "! Undefined control sequence.").2
    let warning : Text := "l.5 LaTeX Warning: x"
    let place : Text := "l.5 \\input x:3: y"
    let broken : Text := "l.5 x\ny"
    (Message.IsContextLine (Text.trim warning) ∧ Message.isLineReference warning = false ∧
        (inside.hear warning).2.mode = .insideError) ∧
      (Message.IsContextLine (Text.trim place) ∧ Message.isLineReference place = false ∧
        (inside.hear place).2.mode = .insideError) ∧
      (Message.IsContextLine (Text.trim broken) ∧ Message.isLineReference broken = false ∧
        (inside.hear broken).2.mode = .insideError) := by
  have five : ∀ c ∈ ("5" : Text), Text.isDecimalDigit c := List.all_eq_true.mp (by decide)
  exact ⟨⟨⟨"5", " LaTeX Warning: x", by decide, five, by decide⟩, by decide⟩,
    ⟨⟨"5", " \\input x:3: y", by decide, five, by decide⟩, by decide⟩,
    ⟨⟨"5", " x\ny", by decide, five, by decide⟩, by decide⟩⟩

end Typeset

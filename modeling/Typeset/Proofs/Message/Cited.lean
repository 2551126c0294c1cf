import Typeset.Proofs.Message.Located

/-!
Warnings, and the source lines that messages cite.  A line may announce several warnings and cite
several lines: the warning is what follows the last announcement, and the line is the one that is
cited first, if it is one at all.
-/

namespace Typeset

namespace Message

def IsCitingWord (word : Text) : Prop :=
  word = "line" ∨ word = "lines"

def StartsCitation (text : Text) : Prop :=
  ∃ (word : Text) (digit : Char) (rest : Text), IsCitingWord word ∧
    Text.isDecimalDigit digit = true ∧ text = word ++ ' ' :: digit :: rest

/-- The digits behind the first place where a line is cited, as many as stand there. -/
def FirstCited (text digits : Text) : Prop :=
  ∃ before word behind : Text, IsCitingWord word ∧
    (digits ≠ [] ∧ ∀ c ∈ digits, Text.isDecimalDigit c) ∧
    Text.Stops Text.isDecimalDigit behind ∧
    text = before ++ (word ++ ' ' :: (digits ++ behind)) ∧
    ∀ earlier place : Text, text = earlier ++ place → StartsCitation place →
      before.length ≤ earlier.length

variable {text before behind digits : Text} {number : Nat} {diagnostic : Diagnostic}

theorem citation?_eq_some_iff :
    citation? text = some digits ↔
      ∃ word behind : Text, IsCitingWord word ∧
        (digits ≠ [] ∧ ∀ c ∈ digits, Text.isDecimalDigit c) ∧
        Text.Stops Text.isDecimalDigit behind ∧ text = word ++ ' ' :: (digits ++ behind) := by
  have read (opening : Text) :
      ((Text.after? opening text).bind leadingDigits?).map Prod.fst = some digits ↔
        ∃ behind : Text, (digits ≠ [] ∧ ∀ c ∈ digits, Text.isDecimalDigit c) ∧
          Text.Stops Text.isDecimalDigit behind ∧ text = opening ++ (digits ++ behind) := by
    simp only [Option.map_eq_some_iff, Option.bind_eq_some_iff, Prod.exists, exists_and_right,
      exists_eq_right]
    constructor
    · rintro ⟨behind, rest, opens, number⟩
      obtain ⟨decimal, rfl⟩ := of_leadingDigits? number
      exact ⟨behind, decimal, stops_of_leadingDigits? number, Text.eq_append_of_after? opens⟩
    · rintro ⟨behind, ⟨nonempty, decimal⟩, stops, rfl⟩
      exact ⟨behind, digits ++ behind, Text.after?_append _ _,
        leadingDigits?_append nonempty decimal stops⟩
  rw [citation?, Option.map_or, Option.or_eq_some_iff, read, read]
  constructor
  · rintro (⟨behind, decimal, stops, split⟩ | ⟨-, behind, decimal, stops, split⟩)
    · exact ⟨"lines", behind, .inr rfl, decimal, stops, split⟩
    · exact ⟨"line", behind, .inl rfl, decimal, stops, split⟩
  · rintro ⟨word, behind, rfl | rfl, decimal, stops, rfl⟩
    · exact .inr ⟨rfl, behind, decimal, stops, rfl⟩
    · exact .inl ⟨behind, decimal, stops, rfl⟩

theorem isSome_citation?_iff : (citation? text).isSome ↔ StartsCitation text := by
  rw [Option.isSome_iff_exists]
  constructor
  · rintro ⟨digits, read⟩
    obtain ⟨word, behind, cites, ⟨nonempty, decimal⟩, -, split⟩ := citation?_eq_some_iff.mp read
    obtain ⟨digit, others, rfl⟩ := List.exists_cons_of_ne_nil nonempty
    exact ⟨word, digit, others ++ behind, cites, decimal digit List.mem_cons_self, split⟩
  · rintro ⟨word, digit, rest, cites, decimal, rfl⟩
    obtain ⟨digits, behind, read⟩ := exists_leadingDigits? (List.cons_ne_nil digit [])
      (List.forall_mem_singleton.mpr decimal) rest
    obtain ⟨run, split⟩ := of_leadingDigits? read
    refine ⟨digits, citation?_eq_some_iff.mpr
      ⟨word, behind, cites, run, stops_of_leadingDigits? read, ?_⟩⟩
    exact congrArg (word ++ ' ' :: ·) split

theorem firstCited_cons_of_some {c : Char} {found : Text}
    (here : citation? (c :: text) = some found) :
    FirstCited (c :: text) digits ↔ digits = found := by
  constructor
  · rintro ⟨before, word, behind, cites, run, stops, split, first⟩
    have start := isSome_citation?_iff.mp (Option.isSome_of_eq_some here)
    obtain rfl : before = [] :=
      List.length_eq_zero_iff.mp (Nat.le_zero.mp (first [] (c :: text) rfl start))
    have read := citation?_eq_some_iff.mpr ⟨word, behind, cites, run, stops, split⟩
    exact Option.some.inj (read.symm.trans here)
  · rintro rfl
    obtain ⟨word, behind, cites, run, stops, split⟩ := citation?_eq_some_iff.mp here
    exact ⟨[], word, behind, cites, run, stops, split, fun _ _ _ _ => Nat.zero_le _⟩

theorem firstCited_cons_of_none {c : Char} (elsewhere : citation? (c :: text) = none) :
    FirstCited (c :: text) digits ↔ FirstCited text digits := by
  have noStart : ¬StartsCitation (c :: text) := by
    rw [← isSome_citation?_iff, elsewhere]
    simp
  constructor
  · rintro ⟨before, word, behind, cites, run, stops, split, first⟩
    cases before with
    | nil =>
        rw [citation?_eq_some_iff.mpr ⟨word, behind, cites, run, stops, split⟩] at elsewhere
        cases elsewhere
    | cons head before =>
        obtain ⟨rfl, inner⟩ := List.cons.inj split
        refine ⟨before, word, behind, cites, run, stops, inner, fun earlier place found start => ?_⟩
        exact Nat.le_of_succ_le_succ (first (c :: earlier) place (congrArg (c :: ·) found) start)
  · rintro ⟨before, word, behind, cites, run, stops, split, first⟩
    refine ⟨c :: before, word, behind, cites, run, stops, congrArg (c :: ·) split, ?_⟩
    intro earlier place found start
    cases earlier with
    | nil =>
        subst found
        exact absurd start noStart
    | cons head earlier =>
        exact Nat.succ_le_succ (first earlier place (List.cons.inj found).2 start)

theorem FirstCited.nonempty (cited : FirstCited text digits) : digits ≠ [] := by
  obtain ⟨before, word, behind, -, ⟨nonempty, -⟩, -⟩ := cited
  exact nonempty

/-- No later citation is tried if the first one tells no line. -/
theorem citedLine?_eq_some_iff {line : UInt32} :
    citedLine? text = some line ↔
      ∃ digits, FirstCited text digits ∧ Text.lineNumber? digits = some line := by
  induction text with
  | nil =>
      refine iff_of_false (by simp [citedLine?]) ?_
      rintro ⟨digits, ⟨before, word, behind, -, -, -, split, -⟩, -⟩
      simp at split
  | cons c text ih =>
      rw [citedLine?]
      cases here : citation? (c :: text) with
      | some found => simp only [firstCited_cons_of_some here, exists_eq_left]
      | none => simp only [firstCited_cons_of_none here, ih]

theorem toNat_citedLine?_eq_some_iff :
    (citedLine? text).map UInt32.toNat = some number ↔
      ∃ digits, FirstCited text digits ∧ (∀ c ∈ digits, c.isDigit = true) ∧
        Nat.ofDigitChars 10 digits 0 = number ∧ number < 2 ^ 32 := by
  simp only [Option.map_eq_some_iff, citedLine?_eq_some_iff]
  constructor
  · rintro ⟨line, ⟨digits, cited, read⟩, rfl⟩
    refine ⟨digits, cited, (Text.toNat_lineNumber?_eq_some_iff cited.nonempty).mp ?_⟩
    rw [read, Option.map_some]
  · rintro ⟨digits, cited, value⟩
    have read := (Text.toNat_lineNumber?_eq_some_iff cited.nonempty).mpr value
    obtain ⟨line, read, same⟩ := Option.map_eq_some_iff.mp read
    exact ⟨line, ⟨digits, cited, read⟩, same⟩

/-- A citation that starts before a space is complete before it, unless it is the word itself that
stands there and the digits follow. -/
theorem startsCitation_append_space {front : Text}
    (start : StartsCitation (front ++ ' ' :: behind))
    (follows : ∀ digit ∈ behind.head?, Text.isDecimalDigit digit = false) :
    StartsCitation (front ++ [' ']) := by
  obtain ⟨word, digit, rest, cites, decimal, split⟩ := start
  have whole : ' ' ∉ word := by rcases cites with rfl | rfl <;> decide
  have wordOnly {others : Text} (same : others = digit :: rest) (tail : behind = others) : False := by
    have other := follows digit (by rw [tail, same]; rfl)
    rw [decimal] at other
    cases other
  obtain ⟨more, rfl, same⟩ := Text.exists_behind whole split.symm
  cases more with
  | nil => exact (wordOnly rfl (List.cons.inj same).2.symm).elim
  | cons c others =>
      obtain ⟨rfl, inner⟩ := List.cons.inj same
      cases others with
      | nil =>
          obtain ⟨rfl, -⟩ := List.cons.inj inner
          exact absurd decimal (by decide)
      | cons c others =>
          obtain ⟨rfl, -⟩ := List.cons.inj inner
          exact ⟨word, digit, others ++ [' '], cites, decimal, by simp⟩

theorem firstCited_append (ends : before.getLast? = some ' ')
    (uncited : ∀ earlier place : Text, before = earlier ++ place → ¬StartsCitation place)
    (nonempty : digits ≠ []) (decimal : ∀ c ∈ digits, Text.isDecimalDigit c)
    (stops : Text.Stops Text.isDecimalDigit behind) :
    FirstCited (before ++ (("line " : Text) ++ (digits ++ behind))) digits := by
  refine ⟨before, "line", behind, .inl rfl, ⟨nonempty, decimal⟩, stops, rfl, ?_⟩
  intro earlier place split start
  by_contra shorter
  rw [Nat.not_le] at shorter
  obtain ⟨rest, rfl⟩ : earlier <+: before := by
    refine List.prefix_of_prefix_length_le ⟨place, split.symm⟩ (List.prefix_append _ _) ?_
    exact Nat.le_of_lt shorter
  rw [List.append_assoc, List.append_cancel_left_eq] at split
  rcases List.eq_nil_or_concat rest with rfl | ⟨front, last, rfl⟩
  · simp at shorter
  · rw [List.concat_eq_append] at ends split uncited
    rw [← List.append_assoc, List.getLast?_concat, Option.some.injEq] at ends
    subst ends
    rw [← split, List.append_assoc] at start
    refine uncited earlier _ rfl (startsCitation_append_space start ?_)
    rintro digit ⟨⟩
    decide

theorem line?_of_kind (read : diagnostic? text = some diagnostic)
    (cites : diagnostic.kind = .error ∨ diagnostic.kind = .warning ∨ diagnostic.kind = .badBox) :
    diagnostic.line? = citedLine? text := by
  have form := readAs?_kind read
  rcases cites with kind | kind | kind
  · rw [kind, readAs?, error?, Option.ite_none_right_eq_some, Option.some.injEq] at form
    rw [← form.2]
  · rw [kind, readAs?, warning?, Option.ite_none_left_eq_some, Option.map_eq_some_iff] at form
    obtain ⟨-, message, -, rfl⟩ := form
    rfl
  · rw [kind, readAs?, badBox?, Option.ite_none_right_eq_some, Option.some.injEq] at form
    rw [← form.2]

theorem exists_warning_iff (text : Text) :
    (∃ diagnostic, diagnostic? text = some diagnostic ∧ diagnostic.kind = .warning) ↔
      isErrorHeader text = false ∧ '\n' ∉ text ∧ ("Warning: " : Text) <:+: text := by
  rw [← Text.contains_iff, ← isSome_warning?_iff]
  constructor
  · rintro ⟨diagnostic, read, kind⟩
    have form := readAs?_kind read
    rw [kind, readAs?] at form
    refine ⟨?_, Option.isSome_of_eq_some form⟩
    rw [← Bool.not_eq_true, ← kind_eq_error_iff read, kind]
    simp
  · rintro ⟨noHeader, warns⟩
    obtain ⟨found, warning⟩ := Option.isSome_iff_exists.mp warns
    exact ⟨found, by simp [diagnostic?, error?_eq_none noHeader, warning], kind_of_warning? warning⟩

/-- The text of a warning is not empty, since the line does not end with the space behind the colon. -/
theorem message_of_warning (trimmed : Text.trimEnd text = text)
    (warning : warning? text = some diagnostic) :
    (∃ before, text = before ++ (("Warning: " : Text) ++ diagnostic.message)) ∧
      diagnostic.message ≠ [] ∧ ¬("Warning: " : Text) <:+: diagnostic.message := by
  rw [warning?, Option.ite_none_left_eq_some, Option.map_eq_some_iff] at warning
  obtain ⟨-, message, last, rfl⟩ := warning
  obtain ⟨⟨before, split⟩, none⟩ := Text.of_afterLast? (by decide) last
  refine ⟨⟨before, split⟩, ?_, none⟩
  rintro rfl
  have blank : text.getLast? = some ' ' := by
    rw [split, List.append_nil, List.getLast?_append]
    rfl
  exact absurd (Text.isBlank_getLast?_of_trimEnd trimmed blank) (by decide)

end Message

/-- In every state of the listener, a line is heard as a warning exactly if it is no header, is in one
piece and announces a warning, which is then what stands behind the last announcement.  A header, a
warning and a message about a bad box tell the line that is cited first, if ASCII digits give a number
that a line can have, and otherwise none.  So they tell the number behind `on input line` if no line
is cited before that. -/
theorem warnings_and_lines_are_extracted (listener : Listener) (line : Text) :
    let text := Text.trim line
    ((∃ diagnostic, (listener.hear line).1 = .message (.diagnostic diagnostic) ∧
          diagnostic.kind = .warning) ↔
        Message.isErrorHeader text = false ∧ '\n' ∉ text ∧ ("Warning: " : Text) <:+: text) ∧
      ∀ diagnostic, (listener.hear line).1 = .message (.diagnostic diagnostic) →
        (diagnostic.kind = .warning →
          (∃ before, text = before ++ (("Warning: " : Text) ++ diagnostic.message)) ∧
            diagnostic.message ≠ [] ∧ ¬("Warning: " : Text) <:+: diagnostic.message) ∧
        (diagnostic.kind = .error ∨ diagnostic.kind = .warning ∨ diagnostic.kind = .badBox →
          (∀ number : Nat, diagnostic.line?.map UInt32.toNat = some number ↔
            ∃ digits, Message.FirstCited text digits ∧ (∀ c ∈ digits, c.isDigit = true) ∧
              Nat.ofDigitChars 10 digits 0 = number ∧ number < 2 ^ 32) ∧
          ∀ (before behind : Text) (number : Nat), number < 2 ^ 32 →
            (∀ earlier place : Text, before ++ ("on input " : Text) = earlier ++ place →
              ¬Message.StartsCitation place) →
            Text.Stops Text.isDecimalDigit behind →
            text = before ++ (("on input line " : Text) ++ (Text.ofNat number ++ behind)) →
              diagnostic.line? = some (UInt32.ofNat number)) := by
  intro text
  have heard (diagnostic : Diagnostic) :
      (listener.hear line).1 = .message (.diagnostic diagnostic) ↔
        Message.diagnostic? text = some diagnostic := by
    constructor
    · exact Listener.announced?_of_hear
    · intro read
      rw [listener.hear_of_announced read]
  refine ⟨by simp only [heard, Message.exists_warning_iff], fun diagnostic told => ?_⟩
  rw [heard] at told
  refine ⟨fun kind => ?_, fun cites => ?_⟩
  · have warning := Message.readAs?_kind told
    rw [kind] at warning
    exact Message.message_of_warning (Text.trimEnd_trimEnd _) warning
  · rw [Message.line?_of_kind told cites]
    refine ⟨fun number => Message.toNat_citedLine?_eq_some_iff, ?_⟩
    intro before behind number small uncited stops split
    have space : (before ++ ("on input " : Text)).getLast? = some ' ' := by
      rw [List.getLast?_append]
      rfl
    have cited := Message.firstCited_append space uncited (Text.ofNat_ne_nil number)
      (fun _ => Message.isDecimalDigit_of_mem_ofNat) stops
    rw [List.append_assoc] at cited
    rw [split]
    refine Message.citedLine?_eq_some_iff.mpr ⟨_, cited, ?_⟩
    exact (Text.lineNumber?_ofNat number).trans (if_pos small)

/-- The last warning and the first line count.  Zeros before a number are read. -/
theorem last_warning_and_first_line_count :
    let inside : Listener := { mode := .insideError }
    let warning : Text := " X Warning: Label Warning: a on lines 007--9 of line 8\r"
    let header : Text := "! b on input line 4294967295: line 3"
    ((∃ diagnostic, (inside.hear warning).1 = .message (.diagnostic diagnostic) ∧
        diagnostic.kind = .warning) ∧
      (∃ before, Text.trim warning =
        before ++ (("Warning: " : Text) ++ ("a on lines 007--9 of line 8" : Text))) ∧
      ∃ digits, Message.FirstCited (Text.trim warning) digits ∧ Nat.ofDigitChars 10 digits 0 = 7) ∧
      ∀ diagnostic, (inside.hear header).1 = .message (.diagnostic diagnostic) →
        diagnostic.kind = .error → diagnostic.line? = some 4294967295 := by
  intro inside warning header
  obtain ⟨warns, told⟩ := warnings_and_lines_are_extracted inside warning
  have heard : (inside.hear warning).1 = .message (.diagnostic
      { line? := some 7, message := "a on lines 007--9 of line 8", severity := .warning,
        kind := .warning }) := by decide +kernel
  obtain ⟨message, line⟩ := told _ heard
  refine ⟨⟨warns.mpr ⟨by decide, by decide, "X Warning: Label ", "a on lines 007--9 of line 8",
    by decide⟩, (message rfl).1, ?_⟩, ?_⟩
  · obtain ⟨digits, cited, -, value, -⟩ := ((line (.inr (.inl rfl))).1 7).mp rfl
    exact ⟨digits, cited, value⟩
  · intro diagnostic heard kind
    have line := ((warnings_and_lines_are_extracted inside header).2 diagnostic heard).2 (.inl kind)
    refine line.2 "! b " ": line 3" 4294967295 (by decide) ?_ (.cons (by decide) _) (by decide +kernel)
    -- no digit is in front of the number
    rintro earlier place split ⟨word, digit, rest, -, decimal, rfl⟩
    have member : digit ∈ ("! b " : Text) ++ ("on input " : Text) := by
      rw [split]
      simp
    have digitless : (("! b " : Text) ++ ("on input " : Text)).all (!Text.isDecimalDigit ·) = true := by
      decide
    have other := List.all_eq_true.mp digitless digit member
    rw [decimal] at other
    cases other

end Typeset

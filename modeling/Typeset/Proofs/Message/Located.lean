import Typeset.Proofs.Message.ContextLine
import Typeset.Proofs.Message.History
import Typeset.Proofs.Text.Number

/-!
Messages about a place, as the engine prints them.  What was printed is read back, unless an earlier
form takes the line, and what is read as such a message is the line that would print it.
-/

namespace Typeset

namespace Message

def printedAt (file : Text) (number : Nat) (message : Text) : Text :=
  file ++ ':' :: (Text.ofNat number ++ ((": " : Text) ++ message))

def printedSource (number : Nat) (source : Text) : Text :=
  ("l." : Text) ++ (Text.ofNat number ++ source)

def lineAt? (number : Nat) : Option UInt32 :=
  if number < 2 ^ 32 then some (UInt32.ofNat number) else none

variable {file message source line : Text} {number : Nat} {diagnostic : Diagnostic}

theorem isDecimalDigit_of_mem_ofNat {c : Char} (member : c ∈ Text.ofNat number) :
    Text.isDecimalDigit c = true :=
  Text.isDecimalDigit_of_isDigit (Text.isDigit_of_mem_ofNat member)

theorem located?_printedAt (named : file ≠ []) (noColon : ':' ∉ file) (unbroken : '\n' ∉ message) :
    located? (printedAt file number message) =
      some
        { file? := some file, line? := lineAt? number, message, severity := .none,
          kind := .located } := by
  have read := located?_append named noColon (Text.ofNat_ne_nil number)
    (fun _ => isDecimalDigit_of_mem_ofNat) unbroken
  rwa [Text.lineNumber?_ofNat] at read

theorem lineReference?_printedSource (stops : Text.Stops Text.isDecimalDigit source)
    (unbroken : '\n' ∉ source) :
    lineReference? (printedSource number source) =
      some
        { line? := lineAt? number, message := Text.trim source, severity := .none,
          kind := .lineReference } := by
  have read := lineReference?_append (Text.ofNat_ne_nil number)
    (fun _ => isDecimalDigit_of_mem_ofNat) stops unbroken
  rwa [Text.lineNumber?_ofNat] at read

theorem isContextLine_printedSource : IsContextLine (printedSource number source) :=
  ⟨Text.ofNat number, source, Text.ofNat_ne_nil number, fun _ => isDecimalDigit_of_mem_ofNat, rfl⟩

theorem warning?_eq_none (silent : Text.contains "Warning: " line = false) :
    warning? line = none := by
  rw [← Option.not_isSome_iff_eq_none, isSome_warning?_iff, silent]
  simp

theorem badBox?_eq_none (noOverfull : ¬("Overfull" : Text) <+: line)
    (noUnderfull : ¬("Underfull" : Text) <+: line) : badBox? line = none := by
  rw [← Option.not_isSome_iff_eq_none, isSome_badBox?_iff, Bool.or_eq_true,
    List.isPrefixOf_iff_prefix, List.isPrefixOf_iff_prefix]
  exact not_or.mpr ⟨noOverfull, noUnderfull⟩

theorem located?_eq_none (nowhere : ¬IsAboutPlace line) : located? line = none := by
  rw [← Option.not_isSome_iff_eq_none, isSome_located?_iff]
  exact nowhere

theorem located?_of_kind (read : diagnostic? line = some diagnostic)
    (kind : diagnostic.kind = .located) : located? line = some diagnostic := by
  have form := readAs?_kind read
  rwa [kind] at form

end Message

namespace Listener

variable {line : Text} {diagnostic : Diagnostic}

theorem announced?_of_hear {listener : Listener}
    (heard : (listener.hear line).1 = .message (.diagnostic diagnostic)) :
    Message.announced? line = some diagnostic := by
  have told := listener.diagnostic?_hear line
  rw [heard] at told
  exact told.symm

theorem hear_of_trimmed (listener : Listener) (trimmed : Text.trim line = line)
    (read : Message.diagnostic? line = some diagnostic) :
    (listener.hear line).1 = .message (.diagnostic diagnostic) := by
  have announced : Message.announced? line = some diagnostic := by
    rw [Message.announced?, trimmed, read]
  rw [listener.hear_of_announced announced]

end Listener

/-- In every state of the listener: a message that is printed with its file and line is heard as
printed if it is no header, announces no warning and is not about a bad box.  The source that is
printed with its line is heard, without the blanks around it, if the line announces no warning and
has not the form of a message with its file.  A number that no line can have is left out.  And
every message that is heard with its file is the line without the blanks around it. -/
theorem printed_messages_are_read_back (listener : Listener) :
    (∀ (file : Text) (number : Nat) (message : Text),
      let line := Message.printedAt file number message
      file ≠ [] → ':' ∉ file → '\n' ∉ message → Text.trim line = line →
        Message.isErrorHeader line = false → Text.contains "Warning: " line = false →
          ¬("Overfull" : Text) <+: line → ¬("Underfull" : Text) <+: line →
            (listener.hear line).1 =
              .message (.diagnostic
                { file? := some file, line? := Message.lineAt? number, message, severity := .none,
                  kind := .located })) ∧
      (∀ (number : Nat) (source : Text),
        let line := Message.printedSource number source
        '\n' ∉ source → Text.Stops Text.isDecimalDigit source → Text.trim line = line →
          Text.contains "Warning: " line = false → ¬Message.IsAboutPlace line →
            (listener.hear line).1 =
              .message (.diagnostic
                { line? := Message.lineAt? number, message := Text.trim source, severity := .none,
                  kind := .lineReference })) ∧
      ∀ (line : Text) (diagnostic : Diagnostic),
        (listener.hear line).1 = .message (.diagnostic diagnostic) → diagnostic.kind = .located →
          ∃ file digits : Text, diagnostic.file? = some file ∧ file ≠ [] ∧ ':' ∉ file ∧
            (digits ≠ [] ∧ ∀ c ∈ digits, Text.isDecimalDigit c) ∧
              diagnostic.line? = Text.lineNumber? digits ∧
                Text.trim line = file ++ ':' :: (digits ++ ((": " : Text) ++ diagnostic.message)) := by
  refine ⟨?_, ?_, ?_⟩
  · intro file number message line named noColon unbroken trimmed noHeader silent noOverfull
      noUnderfull
    refine listener.hear_of_trimmed trimmed ?_
    rw [Message.diagnostic?, Message.error?_eq_none noHeader, Message.warning?_eq_none silent,
      Message.badBox?_eq_none noOverfull noUnderfull,
      Message.located?_printedAt named noColon unbroken]
    rfl
  · intro number source line unbroken stops trimmed silent nowhere
    refine listener.hear_of_trimmed trimmed ?_
    rw [Message.diagnostic?_of_isContextLine Message.isContextLine_printedSource,
      Message.warning?_eq_none silent, Message.located?_eq_none nowhere,
      Message.lineReference?_printedSource stops unbroken]
    rfl
  · intro line diagnostic heard kind
    have located := Message.located?_of_kind (Listener.announced?_of_hear heard) kind
    obtain ⟨file, digits, ⟨named, noColon⟩, decimal, -, same, isFile, isLine⟩ :=
      Message.of_located? located
    exact ⟨file, digits, isFile, named, noColon, decimal, isLine, same⟩

/-- The greatest line number is read back; the next is that of no line, and so are digits of another
script. -/
theorem line_is_read_back_from_place :
    let inside : Listener := { mode := .insideError }
    (inside.hear "a b.tex:4294967295: l.7: x").1 =
        .message (.diagnostic
          { file? := some "a b.tex", line? := some 4294967295, message := "l.7: x",
            severity := .none, kind := .located }) ∧
      (inside.hear "l.4294967296\u00a0: \\foo").1 =
        .message (.diagnostic
          { message := ": \\foo", severity := .none, kind := .lineReference }) ∧
      ∃ digits : Text, Text.trim " c.tex:٤: y\r" =
        ("c.tex" : Text) ++ ':' :: (digits ++ ((": " : Text) ++ ("y" : Text))) := by
  intro inside
  obtain ⟨places, sources, told⟩ := printed_messages_are_read_back inside
  have nowhere : ¬Message.IsAboutPlace (Message.printedSource 4294967296 "\u00a0: \\foo") := by
    rw [← Message.isSome_located?_iff]
    decide
  refine ⟨?_, ?_, ?_⟩
  · exact places "a b.tex" 4294967295 "l.7: x" (by decide) (by decide) (by decide) (by decide)
      (by decide) (by decide) (by decide) (by decide)
  · exact sources 4294967296 "\u00a0: \\foo" (by decide) (.cons (by decide) _) (by decide)
      (by decide) nowhere
  · obtain ⟨file, digits, isFile, -, -, -, -, same⟩ := told " c.tex:٤: y\r"
      { file? := some "c.tex", message := "y", severity := .none, kind := .located } (by decide) rfl
    cases isFile
    exact ⟨digits, same⟩

end Typeset

import Typeset.Proofs.Nesting.SpacedReading

/-!
Where the two readers agree.  On a well-nested log the strict reader always knows the innermost open
file.  The joining reader knows it on logs whose lines it takes whole.
-/

namespace Typeset

namespace FileEvent

def WellNested (events : List FileEvent) : Prop :=
  FileMark.run? [] (events.map mark) = some []

/-- Lines from which the joining reader takes all that they do to the open files.  Behind the
closing parentheses at the start at most one file is opened, pairs and nested groups apart, and only
behind the last pair it is closed again, or files that were open before the line are. -/
inductive TakenWhole : List FileEvent → Prop
  | empty : TakenWhole []
  | closing (events : List FileEvent) : TakenWhole events → TakenWhole (closes :: events)
  | pairs (front : List AbsolutePath) (last : AbsolutePath) (count : Nat) :
      TakenWhole (front.flatMap pair ++ opens last :: List.replicate (count + 1) closes)
  | opensLast (group : List FileEvent) (path : AbsolutePath) :
      WellNested group → TakenWhole (group ++ [opens path])
  | opensBefore (front : List AbsolutePath) (path : AbsolutePath) (group : List FileEvent)
      (last : AbsolutePath) (count : Nat) : WellNested group →
      TakenWhole (front.flatMap pair ++ opens path ::
        (group ++ opens last :: List.replicate (count + 1) closes))

variable {events group : List FileEvent}

theorem WellNested.run? (nested : WellNested group) (stack : List Path) :
    FileMark.run? stack (group.map mark) = some stack := by
  simpa using FileMark.run?_base nested stack

theorem WellNested.eq_nil_or_opens (nested : WellNested group) :
    group = [] ∨ ∃ path others, group = opens path :: others := by
  rcases group with _ | ⟨event, others⟩
  · exact .inl rfl
  · cases event with
    | opens path => exact .inr ⟨path, others, rfl⟩
    | closes => simp [WellNested, mark] at nested

theorem run?_pairs (front : List AbsolutePath) (stack : List Path) :
    FileMark.run? stack ((front.flatMap pair).map mark) = some stack := by
  induction front with
  | nil => rfl
  | cons path front ih => simpa [pair, mark] using ih

theorem nesting?_pairs (front : List AbsolutePath) (events : List FileEvent) :
    nesting? (front.flatMap pair ++ events) = nesting? events := by
  induction front with
  | nil => rfl
  | cons path front ih => simpa [pair, nesting?] using ih

theorem nesting?_replicate_closes (count : Nat) :
    nesting? (List.replicate count closes) = none := by
  induction count with
  | zero => rfl
  | succ count ih => simpa [List.replicate_succ, nesting?] using ih

theorem closingRun_append_opens (events : List FileEvent) (path : AbsolutePath) (count : Nat) :
    closingRun (events ++ opens path :: List.replicate count closes) = count := by
  induction count with
  | zero => exact closingRun_concat_opens events path
  | succ count ih =>
      rw [List.replicate_succ', ← List.cons_append, ← List.append_assoc,
        closingRun_concat_closes, ih]

theorem lastOpened?_append_closes (events : List FileEvent) (path : AbsolutePath) (count : Nat) :
    lastOpened? (events ++ opens path :: List.replicate (count + 1) closes) = none := by
  rw [List.replicate_succ', ← List.cons_append, ← List.append_assoc, lastOpened?,
    List.getLast?_concat]
  rfl

theorem run?_skim_opens {path : AbsolutePath} (starts : events.head? = some (opens path))
    (stack : List Path) :
    FileMark.run? stack (skim events) =
      FileMark.run? (((takenPath? events).map fun path => path.text).toList ++ stack)
        (List.replicate (closingRun events - 1) .leave) := by
  obtain ⟨others, rfl⟩ := List.head?_eq_some_iff.mp starts
  rw [skim]
  · cases takenPath? (opens path :: others) <;> rfl
  · simp

theorem exists_head?_pairs (front : List AbsolutePath) (path : AbsolutePath)
    (events : List FileEvent) :
    ∃ first, (front.flatMap pair ++ opens path :: events).head? = some (opens first) := by
  cases front with
  | nil => exact ⟨path, rfl⟩
  | cons first front => exact ⟨first, rfl⟩

theorem map_mark_replicate_closes (count : Nat) :
    (List.replicate count closes).map mark = List.replicate count .leave := by
  rw [List.map_replicate]
  rfl

theorem run?_closed_at_once (path : AbsolutePath) (count : Nat) (stack : List Path) :
    FileMark.run? stack ((opens path :: List.replicate (count + 1) closes).map mark) =
      FileMark.run? stack (List.replicate count .leave) := by
  rw [List.map_cons, map_mark_replicate_closes]
  rfl

theorem TakenWhole.run?_skim (taken : TakenWhole events) (stack : List Path) :
    FileMark.run? stack (skim events) = FileMark.run? stack (events.map mark) := by
  induction taken generalizing stack with
  | empty => rfl
  | closing events _ ih =>
      cases stack with
      | nil => rfl
      | cons path outer => exact ih outer
  | pairs front last count =>
      obtain ⟨first, starts⟩ :=
        exists_head?_pairs front last (List.replicate (count + 1) closes)
      have noNesting : nesting? (opens last :: List.replicate (count + 1) closes) = none :=
        nesting?_replicate_closes (count + 1)
      rw [run?_skim_opens starts, takenPath?, lastOpened?_append_closes, nesting?_pairs, noNesting,
        closingRun_append_opens, List.map_append, FileMark.run?_append, run?_pairs,
        Option.bind_some, run?_closed_at_once]
      rfl
  | opensLast group path nested =>
      have starts : ∃ first, (group ++ [opens path]).head? = some (opens first) := by
        rcases nested.eq_nil_or_opens with rfl | ⟨first, others, rfl⟩
        · exact ⟨path, rfl⟩
        · exact ⟨first, rfl⟩
      obtain ⟨first, starts⟩ := starts
      have last : lastOpened? (group ++ [opens path]) = some path := by
        rw [lastOpened?, List.getLast?_concat]
        rfl
      rw [run?_skim_opens starts, takenPath?, last, closingRun_concat_opens, List.map_append,
        FileMark.run?_append, nested.run?]
      rfl
  | opensBefore front path group last count nested =>
      obtain ⟨first, starts⟩ := exists_head?_pairs front path
        (group ++ opens last :: List.replicate (count + 1) closes)
      have outer : nesting? (opens path :: (group ++ opens last ::
          List.replicate (count + 1) closes)) = some path := by
        rcases nested.eq_nil_or_opens with rfl | ⟨inner, others, rfl⟩ <;> rfl
      have closed (events : List FileEvent) := lastOpened?_append_closes events last count
      have counted (events : List FileEvent) := closingRun_append_opens events last (count + 1)
      have split : front.flatMap pair ++ opens path ::
          (group ++ opens last :: List.replicate (count + 1) closes) =
            (front.flatMap pair ++ opens path :: group) ++
              opens last :: List.replicate (count + 1) closes := by simp
      rw [run?_skim_opens starts, takenPath?, nesting?_pairs, outer, split, closed, counted,
        ← split, List.map_append, FileMark.run?_append, run?_pairs, Option.bind_some,
        List.map_cons, List.map_append, mark, FileMark.run?_enter, FileMark.run?_append,
        nested.run?, Option.bind_some, run?_closed_at_once]
      rfl

end FileEvent

def isNameChar (c : Char) : Bool :=
  FileToken.isPathChar c && !Text.isBlank c && c ≠ ']'

def AbsolutePath.ofName (name : Text) (solid : ('/' :: name).all isNameChar = true) :
    AbsolutePath where
  text := '/' :: name
  chars := fun c member => by
    have isName := List.all_eq_true.mp solid c member
    simp only [isNameChar, Bool.and_eq_true] at isName
    exact isName.1.1
  trimmed := Text.dropEndWhile_eq_self fun last isLast => by
    have isName := List.all_eq_true.mp solid last (List.mem_of_getLast? isLast)
    simp only [isNameChar, Bool.and_eq_true, Bool.not_eq_true'] at isName
    exact isName.1.2
  unmarked := fun ends => by
    have isName := List.all_eq_true.mp solid ']' (List.mem_of_getLast? ends.getLast?)
    exact absurd isName (by decide)
  rooted := rfl

/-- A line under the width at which the engine breaks its lines. -/
structure SpacedLine where
  events : List FileEvent
  narrow : Text.byteLength (FileEvent.spaced events) < FileToken.Joined.wrapWidth

namespace SpacedLine

def text (line : SpacedLine) : Text :=
  FileEvent.spaced line.events

def marks (line : SpacedLine) : List FileMark :=
  line.events.map FileEvent.mark

theorem entered (line : SpacedLine) (path : Path) (member : .enter path ∈ line.marks) :
    path ≠ [] := by
  obtain ⟨event, -, same⟩ := List.mem_map.mp member
  cases event with
  | opens absolute =>
      obtain rfl : absolute.text = path := FileMark.enter.inj same
      rintro empty
      simpa [empty] using absolute.rooted
  | closes => cases same

theorem run?_flatMap_marks {log : List SpacedLine}
    (nested : FileEvent.WellNested (log.flatMap events)) :
    FileMark.run? [] (log.flatMap marks) = some [] := by
  have same : (log.flatMap events).map FileEvent.mark = log.flatMap marks := List.map_flatMap
  rwa [FileEvent.WellNested, same] at nested

theorem advanceAll_strict (log : List SpacedLine)
    (nested : FileEvent.WellNested (log.flatMap events)) :
    (Nesting.start .strict).advanceAll (log.map text) =
      (Nesting.start .strict, (FileMark.runEach? [] (log.map marks)).map fun files? =>
        .ok (files?.bind List.head?)) :=
  Nesting.advanceAll_within
    (fun line _ stack => FileEvent.consume_spaced_strict line.events stack)
    (fun line _ => line.entered) (by simp) (run?_flatMap_marks nested)

end SpacedLine

/-- The open files on a well-nested log of absolute paths in the common layout.  The strict reader
reports the innermost one behind every line.  The joining reader, which takes one path from a line,
agrees with it where this is all that the line does to the open files. -/
theorem readers_agree_on_spaced_lines (log : List SpacedLine)
    (nested : FileEvent.WellNested (log.flatMap SpacedLine.events)) :
    let innermost := (FileMark.runEach? [] (log.map SpacedLine.marks)).map fun files? =>
      Except.ok (files?.bind List.head?)
    (Nesting.start .strict).advanceAll (log.map SpacedLine.text) =
        (Nesting.start .strict, innermost) ∧
      ((∀ line ∈ log, FileEvent.TakenWhole line.events) →
        (Nesting.start .fragment).advanceAll (log.map SpacedLine.text) =
          (Nesting.start .fragment, innermost)) ∧
      ∀ (line : SpacedLine) (stack : List Path),
        (Nesting.within .fragment stack).consume line.text =
          Nesting.outcome .fragment (FileMark.run? stack (FileEvent.skim line.events)) := by
  refine ⟨SpacedLine.advanceAll_strict log nested, ?_, ?_⟩
  · intro whole
    refine Nesting.advanceAll_within (fun line member stack => ?_) (fun line _ => line.entered)
      (by simp) (SpacedLine.run?_flatMap_marks nested)
    have taken := (whole line member).run?_skim stack
    exact (FileEvent.consume_spaced_fragment line.events stack line.narrow).trans
      (congrArg (Nesting.outcome .fragment) taken)
  · exact fun line stack => FileEvent.consume_spaced_fragment line.events stack line.narrow

/-- A group between the path and the last pair is no obstacle: `/b` and `/c` are closed in it. -/
theorem grouped_line_is_taken_whole :
    let path (name : Text) (solid : ('/' :: name).all isNameChar = true) : AbsolutePath :=
      .ofName name solid
    let log : List SpacedLine :=
      [⟨[.opens (path "a" (by decide)), .opens (path "b" (by decide)),
          .opens (path "c" (by decide)), .closes, .closes, .opens (path "d" (by decide)),
          .closes], by decide⟩, ⟨[.closes], by decide⟩]
    log.map SpacedLine.text = (["(/a (/b (/c)) (/d)", ")"] : List Text) ∧
      (Nesting.start .fragment).advanceAll (log.map SpacedLine.text) =
        (Nesting.start .fragment, [.ok (some "/a"), .ok none]) := by
  intro path log
  obtain ⟨-, joined, -⟩ := readers_agree_on_spaced_lines log rfl
  refine ⟨rfl, joined (List.forall_mem_cons.mpr ⟨?_, List.forall_mem_singleton.mpr ?_⟩)⟩
  · let group : List FileEvent :=
      [.opens (path "b" (by decide)), .opens (path "c" (by decide)), .closes, .closes]
    exact .opensBefore [] (path "a" (by decide)) group (path "d" (by decide)) 0 rfl
  · exact .closing [] .empty

/-- Where two files are left open, or one is closed in front of a pair, the joining reader overlooks
the first one.  The strict reader does not. -/
theorem second_token_is_overlooked :
    let path (name : Text) (solid : ('/' :: name).all isNameChar = true) : FileEvent :=
      .opens (.ofName name solid)
    let opening : List SpacedLine :=
      [⟨[path "a" (by decide), path "b" (by decide)], by decide⟩, ⟨[.closes], by decide⟩,
        ⟨[.closes], by decide⟩]
    let closing : List SpacedLine :=
      [⟨[path "a" (by decide)], by decide⟩,
        ⟨[path "b" (by decide), .closes, .closes, path "c" (by decide), .closes], by decide⟩]
    (FileEvent.WellNested (opening.flatMap SpacedLine.events) ∧
      opening.map SpacedLine.text = (["(/a (/b", ")", ")"] : List Text) ∧
      (Nesting.start .strict).advanceAll (opening.map SpacedLine.text) =
        (Nesting.start .strict, [.ok (some "/b"), .ok (some "/a"), .ok none]) ∧
      (Nesting.start .fragment).advanceAll (opening.map SpacedLine.text) =
        (Nesting.start .fragment, [.ok (some "/b"), .ok none, .error .underflow])) ∧
    (FileEvent.WellNested (closing.flatMap SpacedLine.events) ∧
      closing.map SpacedLine.text = (["(/a", "(/b)) (/c)"] : List Text) ∧
      (Nesting.start .strict).advanceAll (closing.map SpacedLine.text) =
        (Nesting.start .strict, [.ok (some "/a"), .ok none]) ∧
      (Nesting.start .fragment).advanceAll (closing.map SpacedLine.text) =
        (Nesting.within .fragment ["/a"], [.ok (some "/a"), .ok (some "/a")])) := by
  intro path opening closing
  refine ⟨⟨rfl, rfl, ?_, ?_⟩, rfl, rfl, ?_, ?_⟩
  · exact SpacedLine.advanceAll_strict opening rfl
  · decide
  · exact SpacedLine.advanceAll_strict closing rfl
  · decide

end Typeset

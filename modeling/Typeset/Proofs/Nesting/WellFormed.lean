import Typeset.Proofs.Nesting.Calls
import Typeset.Proofs.Nesting.Fault
import Typeset.Proofs.Nesting.JoinedReading
import Typeset.Proofs.Nesting.StrictLayout

/-!
What the open files look like after any calls, whatever the lines hold.  Each recogniser takes a
path for one only if it is written like a path, and a path that is left pending is the last token of
its line, so a line that fails leaves none.
-/

namespace Typeset

namespace FileToken

variable {α : Type} {text path : Text}

theorem of_shortestPath? {stop? : Text → Option α} {found : α}
    (read : shortestPath? stop? text = some (path, found)) :
    (∀ c ∈ path, isPathChar c) ∧ ∃ rest, text = path ++ rest ∧ stop? rest = some found := by
  induction text generalizing path with
  | nil =>
      simp only [shortestPath?, Option.map_eq_some_iff, Prod.mk.injEq] at read
      obtain ⟨_, stopped, rfl, rfl⟩ := read
      exact ⟨by simp, [], rfl, stopped⟩
  | cons head tail ih =>
      simp only [shortestPath?] at read
      split at read
      · next stopped =>
          cases read
          exact ⟨by simp, head :: tail, rfl, stopped⟩
      · split at read
        · next isChar =>
            simp only [Option.map_eq_some_iff, Prod.mk.injEq, Prod.exists] at read
            obtain ⟨inner, _, within, rfl, rfl⟩ := read
            obtain ⟨chars, rest, rfl, stopped⟩ := ih within
            exact ⟨List.forall_mem_cons.mpr ⟨isChar, chars⟩, rest, rfl, stopped⟩
        · cases read

theorem of_firstOpening? {path? : Text → Option α} {found : α}
    (read : firstOpening? path? text = some found) :
    ∃ before rest, text = before ++ '(' :: rest ∧ path? rest = some found := by
  induction text with
  | nil => cases read
  | cons head tail ih =>
      simp only [firstOpening?, Option.or_eq_some_iff, Option.ite_none_right_eq_some] at read
      rcases read with ⟨rfl, here⟩ | ⟨-, later⟩
      · exact ⟨[], tail, rfl, here⟩
      · obtain ⟨before, rest, rfl, there⟩ := ih later
        exact ⟨head :: before, rest, rfl, there⟩

theorem isPlain_of_atEnd? {rest found : Text} (stopped : afterMarker? atEnd? rest = some found) :
    ∀ c ∈ rest, isPlain c := by
  have ended {text found : Text} (stopped : atEnd? text = some found) : text = [] :=
    stopsAt_atEnd? stopped
  simp only [afterMarker?, Option.or_eq_some_iff, Option.bind_eq_some_iff] at stopped
  rcases stopped with ⟨afterwards, marked, stopped⟩ | ⟨-, stopped⟩
  · obtain ⟨marker, isMarker, rfl⟩ := exists_of_pageMarker? marked
    rw [ended stopped, List.append_nil]
    exact isPlain_of_isMarker isMarker
  · simp [ended stopped]

end FileToken

def FileToken.WellFormed (rule : NestingRule) : FileToken → Prop
  | opened path => (∀ c ∈ path, isPathChar c) ∧ (rule = .strict → path.head? = some '/')
  | closed => True
  | pair => True
  | passed _ => True
  | wrapped head => ∀ c ∈ head, isPathChar c

namespace FileToken

namespace Strict

theorem of_absolutePath? {text path rest : Text} (read : absolutePath? text = some (path, rest)) :
    (∀ c ∈ path, isPathChar c) ∧ path.head? = some '/' := by
  unfold absolutePath? at read
  split at read
  · simp only [Option.map_eq_some_iff, Prod.mk.injEq, Prod.exists] at read
    obtain ⟨inner, _, within, rfl, -⟩ := read
    exact ⟨List.forall_mem_cons.mpr ⟨by decide, (of_shortestPath? within).1⟩, rfl⟩
  · cases read

theorem wellFormed_next? {text rest : Text} {token : FileToken}
    (read : next? text = some (token, rest)) : token.WellFormed .strict := by
  simp only [next?] at read
  split at read
  · cases read
    trivial
  · split at read
    · cases read
      trivial
    · simp only [Option.map_eq_some_iff, Prod.mk.injEq, Prod.exists] at read
      obtain ⟨path, _, opening, rfl, -⟩ := read
      obtain ⟨_, _, -, found⟩ := of_firstOpening? opening
      obtain ⟨chars, rooted⟩ := of_absolutePath? found
      exact ⟨chars, fun _ => rooted⟩

theorem wellFormed_tokens (text : Text) : ∀ token ∈ tokens text, token.WellFormed .strict := by
  induction text using tokens.induct with
  | case1 text silent => simp [tokens_of_next?_none silent]
  | case2 text token rest read ih =>
      rw [tokens_of_next? read]
      exact List.forall_mem_cons.mpr ⟨wellFormed_next? read, ih⟩

end Strict

namespace Joined

theorem of_openAtEnd? {body path : Text} (read : openAtEnd? body = some path) :
    (∀ c ∈ path, isPathChar c) ∧ ∀ last ∈ body.getLast?, last ≠ ')' := by
  simp only [openAtEnd?, Option.map_eq_some_iff, Prod.exists] at read
  obtain ⟨path, _, opening, rfl⟩ := read
  obtain ⟨before, behind, rfl, found⟩ := of_firstOpening? opening
  obtain ⟨chars, rest, rfl, stopped⟩ := of_shortestPath? found
  refine ⟨chars, ?_⟩
  -- all that stands behind the parenthesis is the path and a page marker
  have plain : ∀ c ∈ path ++ rest, isPlain c :=
    List.forall_mem_append.mpr ⟨forall_isPlain chars, isPlain_of_atEnd? stopped⟩
  intro last isLast
  rw [List.getLast?_append, List.getLast?_cons, Option.some_or, Option.mem_some_iff] at isLast
  subst last
  cases ends : (path ++ rest).getLast? with
  | none => decide
  | some last =>
      have isPlain := plain last (List.mem_of_getLast? ends)
      rintro rfl
      exact absurd isPlain (by decide)

theorem of_openBefore? {body path : Text} (read : openBefore? body = some path) :
    ∀ c ∈ path, isPathChar c := by
  simp only [openBefore?, Option.map_eq_some_iff, Prod.exists] at read
  obtain ⟨_, _, opening, rfl⟩ := read
  obtain ⟨_, _, -, found⟩ := of_firstOpening? opening
  exact (of_shortestPath? found).1

theorem lineTokens_cases (full : Bool) (text : Text) :
    (∀ head, .wrapped head ∉ lineTokens full text) ∨
      ∃ count head, lineTokens full text = List.replicate count .closed ++ [.wrapped head] := by
  simp only [lineTokens]
  generalize leadingCloses [] text = closes
  obtain ⟨count, body⟩ := closes
  cases read : openAtEnd? body with
  | none =>
      refine .inl fun head => ?_
      simp only [opening, read]
      cases openBefore? body <;> simp
  | some path =>
      have shut : trailingCloses body = 0 := trailingCloses_eq_zero (of_openAtEnd? read).2
      simp only [opening, read, shut, List.replicate_zero, List.append_nil]
      cases full with
      | false => exact .inl fun head => by simp
      | true => exact .inr ⟨count, path, rfl⟩

theorem wellFormed_lineTokens (full : Bool) (text : Text) :
    ∀ token ∈ lineTokens full text, token.WellFormed .fragment := by
  have closes (count : Nat) : ∀ token ∈ List.replicate count closed,
      token.WellFormed .fragment := by
    intro token member
    rw [List.eq_of_mem_replicate member]
    trivial
  simp only [lineTokens]
  generalize leadingCloses [] text = start
  obtain ⟨count, body⟩ := start
  refine List.forall_mem_append.mpr ⟨List.forall_mem_append.mpr ⟨closes count, ?_⟩, closes _⟩
  simp only [opening]
  split
  · next path read =>
      have chars := (of_openAtEnd? read).1
      cases full with
      | false => exact List.forall_mem_singleton.mpr ⟨chars, by simp⟩
      | true => exact List.forall_mem_singleton.mpr chars
  · split
    · next path read => exact List.forall_mem_singleton.mpr ⟨of_openBefore? read, by simp⟩
    · simp

theorem isPathChar_continued {head line : Text} (chars : ∀ c ∈ head, isPathChar c)
    (unbroken : '\n' ∉ line) :
    ∀ c ∈ head ++ line.takeWhile (fun c => c ≠ '(' && c ≠ ')'), isPathChar c := by
  refine List.forall_mem_append.mpr ⟨chars, ?_⟩
  intro c member
  have plain := List.mem_takeWhile_imp member
  have noFeed : c ≠ '\n' := by
    rintro rfl
    exact unbroken ((List.takeWhile_sublist _).subset member)
  simp only [Bool.and_eq_true, decide_eq_true_eq] at plain
  exact (isPathChar_iff c).mpr ⟨plain.1, plain.2, noFeed⟩

theorem continuation_cases (full : Bool) (head line : Text) :
    let path := head ++ line.takeWhile fun c => c ≠ '(' && c ≠ ')'
    continuation full head line = [.opened path] ∨
      ∃ token rest, continuation full head line = token :: lineTokens full rest ∧
        (token = .opened path ∨ token = .passed path) := by
  intro path
  unfold continuation
  split
  · exact .inl rfl
  · exact .inr ⟨_, _, rfl, .inr rfl⟩
  · exact .inr ⟨_, _, rfl, .inl rfl⟩

theorem wellFormed_continuation (full : Bool) {head line : Text} (chars : ∀ c ∈ head, isPathChar c)
    (unbroken : '\n' ∉ line) :
    ∀ token ∈ continuation full head line, token.WellFormed .fragment := by
  have joined := isPathChar_continued chars unbroken
  rcases continuation_cases full head line with same | ⟨token, rest, same, rfl | rfl⟩
  · rw [same]
    exact List.forall_mem_singleton.mpr ⟨joined, by simp⟩
  · rw [same]
    exact List.forall_mem_cons.mpr ⟨⟨joined, by simp⟩, wellFormed_lineTokens full rest⟩
  · rw [same]
    exact List.forall_mem_cons.mpr ⟨trivial, wellFormed_lineTokens full rest⟩

end Joined

def PendsLast (tokens : List FileToken) : Prop :=
  (∀ head, .wrapped head ∉ tokens) ∨
    ∃ before head, tokens = before ++ [.wrapped head] ∧ ∀ other, .wrapped other ∉ before

theorem PendsLast.cons {token : FileToken} {tokens : List FileToken}
    (whole : ∀ head, token ≠ .wrapped head) (last : PendsLast tokens) :
    PendsLast (token :: tokens) := by
  rcases last with none | ⟨before, head, rfl, none⟩
  · exact .inl fun head => by simp [none head, Ne.symm (whole head)]
  · exact .inr ⟨token :: before, head, rfl, fun other => by simp [none other, Ne.symm (whole other)]⟩

namespace Joined

theorem pendsLast_lineTokens (full : Bool) (text : Text) : PendsLast (lineTokens full text) := by
  rcases lineTokens_cases full text with none | ⟨count, head, same⟩
  · exact .inl none
  · exact .inr ⟨_, head, same, by simp⟩

theorem pendsLast_continuation (full : Bool) (head line : Text) :
    PendsLast (continuation full head line) := by
  rcases continuation_cases full head line with same | ⟨token, rest, same, rfl | rfl⟩
  · rw [same]
    exact .inl (by simp)
  · rw [same]
    exact (pendsLast_lineTokens full rest).cons (by simp)
  · rw [same]
    exact (pendsLast_lineTokens full rest).cons (by simp)

end Joined

end FileToken

namespace Nesting

variable {nesting next : Nesting} {line : Text} {tokens : List FileToken} {fault : NestingFault}

structure WellFormed (nesting : Nesting) : Prop where
  chars : ∀ path ∈ nesting.files.innermostFirst, ∀ c ∈ path, FileToken.isPathChar c
  trimmed : ∀ path ∈ nesting.files.innermostFirst, Text.trimEnd path = path
  pending : ∀ head ∈ nesting.pending?, ∀ c ∈ head, FileToken.isPathChar c
  rooted : nesting.rule = .strict → ∀ path ∈ nesting.files.innermostFirst, path.head? = some '/'

theorem wellFormed_start (rule : NestingRule) : (start rule).WellFormed :=
  ⟨by simp [start], by simp [start], by simp [start], by simp [start]⟩

theorem read_cases (readable : nesting.read line = .ok tokens) :
    let shown := Text.dropLineEnds line
    (nesting.rule = .strict ∧ tokens = FileToken.Strict.tokens shown) ∨
      (nesting.rule = .fragment ∧
        tokens = FileToken.Joined.lineTokens (FileToken.Joined.isFullWidth shown) shown) ∨
      ∃ head, nesting.rule = .fragment ∧ nesting.pending? = some head ∧ '\n' ∉ shown ∧
        tokens = FileToken.Joined.continuation (FileToken.Joined.isFullWidth shown) head shown := by
  intro shown
  cases rule : nesting.rule with
  | strict =>
      simp only [read, rule] at readable
      cases readable
      exact .inl ⟨rfl, rfl⟩
  | fragment =>
      simp only [read, rule] at readable
      cases pending : nesting.pending? with
      | none =>
          rw [pending] at readable
          cases readable
          exact .inr (.inl ⟨rfl, rfl⟩)
      | some head =>
          by_cases broken : '\n' ∈ shown
          · simp only [pending, FileToken.Joined.tokens?, shown, if_pos broken] at readable
            cases readable
          · simp only [pending, FileToken.Joined.tokens?, shown, if_neg broken] at readable
            cases readable
            exact .inr (.inr ⟨head, rfl, rfl, broken, rfl⟩)

theorem wellFormed_read (wellFormed : nesting.WellFormed)
    (readable : nesting.read line = .ok tokens) :
    ∀ token ∈ tokens, token.WellFormed nesting.rule := by
  rcases read_cases readable with ⟨rule, rfl⟩ | ⟨rule, rfl⟩ | ⟨head, rule, pending, unbroken, rfl⟩
  · rw [rule]
    exact FileToken.Strict.wellFormed_tokens _
  · rw [rule]
    exact FileToken.Joined.wellFormed_lineTokens _ _
  · rw [rule]
    exact FileToken.Joined.wellFormed_continuation _ (wellFormed.pending head pending) unbroken

theorem pendsLast_read (readable : nesting.read line = .ok tokens) :
    FileToken.PendsLast tokens := by
  rcases read_cases readable with ⟨-, rfl⟩ | ⟨-, rfl⟩ | ⟨head, -, -, -, rfl⟩
  · exact .inl fun head => FileToken.Strict.wrapped_not_mem_tokens head _
  · exact FileToken.Joined.pendsLast_lineTokens _ _
  · exact FileToken.Joined.pendsLast_continuation _ _ _

theorem WellFormed.push (wellFormed : nesting.WellFormed) {path : Path}
    (chars : ∀ c ∈ path, FileToken.isPathChar c)
    (rooted : nesting.rule = .strict → path.head? = some '/') :
    { nesting with files := nesting.files.push path }.WellFormed where
  chars := List.forall_mem_cons.mpr
    ⟨fun c member => chars c (Text.mem_of_mem_dropEndWhile member), wellFormed.chars⟩
  trimmed := List.forall_mem_cons.mpr ⟨Text.trimEnd_trimEnd path, wellFormed.trimmed⟩
  pending := wellFormed.pending
  rooted := fun strict => List.forall_mem_cons.mpr
    ⟨Text.head?_trimEnd (rooted strict) (by decide), wellFormed.rooted strict⟩

theorem WellFormed.of_subset (wellFormed : nesting.WellFormed) {files : OpenFiles}
    (subset : files.innermostFirst ⊆ nesting.files.innermostFirst) :
    { nesting with files }.WellFormed where
  chars := fun path member => wellFormed.chars path (subset member)
  trimmed := fun path member => wellFormed.trimmed path (subset member)
  pending := wellFormed.pending
  rooted := fun strict path member => wellFormed.rooted strict path (subset member)

theorem WellFormed.apply (wellFormed : nesting.WellFormed) {token : FileToken}
    (tokenWellFormed : token.WellFormed nesting.rule) (applied : nesting.apply token = .ok next) :
    next.WellFormed := by
  rcases apply_cases applied with
    ⟨path, rfl, rfl⟩ | ⟨path, outer, -, files, rfl⟩ | ⟨head, rfl, rfl⟩ | ⟨-, rfl⟩
  · exact wellFormed.push tokenWellFormed.1 tokenWellFormed.2
  · apply wellFormed.of_subset
    rw [files]
    exact List.subset_cons_self path outer
  · exact { wellFormed with pending := by rintro _ ⟨⟩; exact tokenWellFormed }
  · exact wellFormed

theorem WellFormed.run (wellFormed : nesting.WellFormed)
    (tokensWellFormed : ∀ token ∈ tokens, token.WellFormed nesting.rule) :
    (nesting.run tokens).1.WellFormed := by
  induction tokens generalizing nesting with
  | nil => exact wellFormed
  | cons token tokens ih =>
      obtain ⟨first, others⟩ := List.forall_mem_cons.mp tokensWellFormed
      rw [Nesting.run]
      cases applied : nesting.apply token with
      | error fault => exact wellFormed
      | ok next =>
          refine ih (wellFormed.apply first applied) ?_
          rwa [rule_apply applied]

theorem pending?_run (whole : ∀ head, .wrapped head ∉ tokens) :
    (nesting.run tokens).1.pending? = nesting.pending? := by
  induction tokens generalizing nesting with
  | nil => rfl
  | cons token tokens ih =>
      have others : ∀ head, .wrapped head ∉ tokens := fun head member =>
        whole head (List.mem_cons_of_mem token member)
      rw [run]
      cases applied : nesting.apply token with
      | error fault => rfl
      | ok next =>
          rw [ih others]
          rcases apply_cases applied with
            ⟨path, -, rfl⟩ | ⟨path, outer, -, -, rfl⟩ | ⟨head, rfl, -⟩ | ⟨-, rfl⟩
          · rfl
          · rfl
          · exact absurd List.mem_cons_self (whole head)
          · rfl

theorem pending?_of_run_faulty (last : FileToken.PendsLast tokens) (none : nesting.pending? = none)
    (faulty : (nesting.run tokens).2 = some fault) :
    (nesting.run tokens).1.pending? = .none := by
  rcases last with whole | ⟨before, head, rfl, whole⟩
  · exact (pending?_run whole).trans none
  · have keeps : (nesting.run before).1.pending? = nesting.pending? := pending?_run whole
    rw [run_append] at faulty ⊢
    cases same : nesting.run before with
    | mk next fault? =>
        rw [same] at faulty keeps
        cases fault? with
        | none => cases faulty
        | some found => exact keeps.trans none

theorem WellFormed.consume (wellFormed : nesting.WellFormed) (line : Text) :
    (nesting.consume line).1.WellFormed := by
  have taken : { nesting with pending? := none }.WellFormed :=
    { wellFormed with pending := by simp }
  rcases nesting.consume_cases line with ⟨tokens, readable, consumed⟩ | ⟨_, _, -, consumed⟩
  · have tokensWellFormed := wellFormed_read wellFormed readable
    rw [consumed]
    exact taken.run tokensWellFormed
  · rw [consumed]
    exact taken

theorem WellFormed.current (wellFormed : nesting.WellFormed) : nesting.current.2.WellFormed :=
  wellFormed.of_subset (List.dropWhile_subset _)

theorem consume_fails (faulty : nesting.consume line = (next, some fault)) :
    next.pending? = none ∧ (fault = .underflow → next.files = .empty) := by
  rcases nesting.consume_cases line with ⟨tokens, readable, consumed⟩ | ⟨_, _, -, consumed⟩
  · rw [consumed] at faulty
    have pending := pending?_of_run_faulty (pendsLast_read readable) rfl (congrArg Prod.snd faulty)
    rw [faulty] at pending
    exact ⟨pending, fun _ => (run_faulty faulty).2⟩
  · rw [consumed] at faulty
    cases faulty
    exact ⟨rfl, by simp⟩

theorem current_ne_nil (nesting : Nesting) : nesting.current.1 ≠ some [] := by
  intro named
  have solid := List.head?_dropWhile_not List.isEmpty nesting.files.innermostFirst
  simp only [Nesting.current, OpenFiles.current?, OpenFiles.settle] at named
  rw [named] at solid
  simp at solid

theorem WellFormed.current_of_strict (wellFormed : nesting.WellFormed)
    (strict : nesting.rule = .strict) : nesting.current.2 = nesting := by
  have named : ∀ path ∈ nesting.files.innermostFirst, path ≠ [] := by
    rintro path member rfl
    have rooted := wellFormed.rooted strict [] member
    cases rooted
  rw [current_of_named named]

end Nesting

/-- Whatever lines are given, and whatever calls fail on the way, an entry is written like a path and
has no blank at its end, a pending path is written like one, and the strict rule has absolute paths
only, of which none is ever forgotten.  The current file has a name.  After a call that fails no path
is pending, and after a stray closing parenthesis no file is open. -/
theorem calls_keep_wellFormed (rule : NestingRule) (calls : List Nesting.Call) :
    let nesting := (Nesting.start rule).afterCalls calls
    nesting.WellFormed ∧ (rule = .strict → nesting.current.2 = nesting) ∧
      nesting.current.1 ≠ some [] ∧
      ∀ call fault, (nesting.call call).2 = .error fault →
        (nesting.call call).1.pending? = none ∧
          (fault = .underflow → (nesting.call call).1.files = .empty) := by
  intro nesting
  have kept : nesting.WellFormed ∧ nesting.rule = rule := by
    refine Nesting.afterCalls_keeps (fun nesting => nesting.WellFormed ∧ nesting.rule = rule)
      ?consume ?current ?start calls
    case consume =>
      rintro nesting line ⟨wellFormed, same⟩
      exact ⟨wellFormed.consume line, (Nesting.rule_consume nesting line).trans same⟩
    case current =>
      rintro nesting ⟨wellFormed, same⟩
      exact ⟨wellFormed.current, same⟩
    case start => exact ⟨Nesting.wellFormed_start rule, rfl⟩
  obtain ⟨wellFormed, sameRule⟩ := kept
  refine ⟨wellFormed, ?_, nesting.current_ne_nil, ?_⟩
  · intro strict
    exact wellFormed.current_of_strict (sameRule.trans strict)
  · intro call fault refused
    obtain ⟨line, faulty⟩ := Nesting.exists_consume_of_error refused
    exact Nesting.consume_fails faulty

end Typeset

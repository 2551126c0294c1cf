import Typeset.Proofs.Nesting.WellFormed

/-!
What a line pays for.  Each token is read from parentheses of its own, and they stand in the line in
the order of the tokens; the parenthesis of a pending path stands before the line.  So a line closes
and opens no more files than it has parentheses for.
-/

namespace Typeset

def Text.Reads (sought text rest : Text) : Prop :=
  ∃ front, text = front ++ rest ∧ sought.Sublist front

namespace Text.Reads

variable {sought others text middle rest : Text}

theorem of_suffix (suffix : rest <:+ text) : Reads [] text rest := by
  obtain ⟨front, rfl⟩ := suffix
  exact ⟨front, rfl, List.nil_sublist front⟩

theorem head (c : Char) (rest : Text) : Reads [c] (c :: rest) rest :=
  ⟨[c], rfl, List.Sublist.refl [c]⟩

theorem skip (test : Char → Bool) (text : Text) : Reads [] text (text.dropWhile test) :=
  of_suffix (List.dropWhile_suffix test)

theorem trans (first : Reads sought text middle) (second : Reads others middle rest) :
    Reads (sought ++ others) text rest := by
  obtain ⟨front, rfl, inFront⟩ := first
  obtain ⟨behind, rfl, inBehind⟩ := second
  exact ⟨front ++ behind, (List.append_assoc ..).symm, inFront.append inBehind⟩

theorem sublist (reads : Reads sought text rest) (inRest : others.Sublist rest) :
    (sought ++ others).Sublist text := by
  obtain ⟨front, rfl, inFront⟩ := reads
  exact inFront.append inRest

end Text.Reads

namespace FileToken

open Text (Reads)

/-- The parentheses that a token is read from; a path that was pending has its first one in an
earlier line. -/
def parens : FileToken → Text
  | opened _ => ['(']
  | closed => [')']
  | pair => ['(', ')']
  | passed _ => ['(', ')']
  | wrapped _ => ['(']

variable {text rest : Text}

theorem flatMap_parens_closed (count : Nat) :
    (List.replicate count closed).flatMap parens = List.replicate count ')' := by
  rw [List.flatMap_replicate]
  exact List.flatten_replicate_singleton

theorem length_le_count_parens (tokens : List FileToken) :
    tokens.length ≤ (tokens.flatMap parens).count ')' + (tokens.flatMap parens).count '(' := by
  induction tokens with
  | nil => simp
  | cons token tokens ih =>
      rw [List.length_cons, List.flatMap_cons, List.count_append, List.count_append]
      cases token <;> simp [parens] <;> omega

namespace Strict

theorem reads_leadingPair? (read : leadingPair? text = some rest) :
    Reads ['(', ')'] text rest := by
  simp only [leadingPair?] at read
  split at read
  · next inner opened =>
      split at read
      · next closed =>
          cases read
          have outer : Reads ['('] text inner :=
            (opened ▸ Reads.skip Text.isBlank text).trans (.head '(' inner)
          have within : Reads [')'] inner rest :=
            (closed ▸ Reads.skip isPathChar inner).trans (.head ')' rest)
          exact outer.trans within
      · cases read
  · cases read

theorem reads_leadingClose? (read : leadingClose? text = some rest) : Reads [')'] text rest := by
  simp only [leadingClose?] at read
  split at read
  · next closed =>
      cases read
      exact (closed ▸ Reads.skip Text.isBlank text).trans (.head ')' rest)
  · cases read

theorem suffix_of_absolutePath? {path : Text} (read : absolutePath? text = some (path, rest)) :
    rest <:+ text := by
  have here {text rest : Text} (stopped : atOpening? text = some rest) : rest <:+ text := by
    unfold atOpening? at stopped
    split at stopped
    · cases stopped
      exact List.suffix_rfl
    · cases stopped
      exact List.suffix_rfl
    · cases stopped
  unfold absolutePath? at read
  split at read
  · simp only [Option.map_eq_some_iff, Prod.mk.injEq, Prod.exists] at read
    obtain ⟨inner, _, within, -, rfl⟩ := read
    obtain ⟨-, behind, rfl, stopped⟩ := of_shortestPath? within
    refine List.IsSuffix.trans ?_ ((List.suffix_append inner behind).trans (List.suffix_cons '/' _))
    simp only [afterMarker?, Option.or_eq_some_iff, Option.bind_eq_some_iff] at stopped
    rcases stopped with ⟨afterwards, marked, stopped⟩ | ⟨-, stopped⟩
    · obtain ⟨marker, -, rfl⟩ := exists_of_pageMarker? marked
      exact (here stopped).trans (List.suffix_append marker afterwards)
    · exact here stopped
  · cases read

theorem reads_next? {token : FileToken} (read : next? text = some (token, rest)) :
    Reads token.parens text rest := by
  simp only [next?] at read
  split at read
  · next pair =>
      cases read
      exact reads_leadingPair? pair
  · split at read
    · next close =>
        cases read
        exact reads_leadingClose? close
    · simp only [Option.map_eq_some_iff, Prod.mk.injEq, Prod.exists] at read
      obtain ⟨path, _, opening, rfl, rfl⟩ := read
      obtain ⟨before, behind, rfl, found⟩ := of_firstOpening? opening
      have skipped : Reads [] (before ++ '(' :: behind) ('(' :: behind) :=
        .of_suffix (List.suffix_append before _)
      have after := Reads.of_suffix (suffix_of_absolutePath? found)
      exact (skipped.trans (.head '(' behind)).trans after

theorem parens_tokens (text : Text) : ((tokens text).flatMap parens).Sublist text := by
  induction text using tokens.induct with
  | case1 text silent => simp [tokens_of_next?_none silent]
  | case2 text token rest read ih =>
      rw [tokens_of_next? read, List.flatMap_cons]
      exact (reads_next? read).sublist ih

end Strict

namespace Joined

theorem reads_leadingCloses (spaces : Nat) (text : Text) :
    Reads (List.replicate (leadingCloses (List.replicate spaces ' ') text).1 ')')
      (List.replicate spaces ' ' ++ text) (leadingCloses (List.replicate spaces ' ') text).2 := by
  induction text generalizing spaces with
  | nil => exact .of_suffix List.suffix_rfl
  | cons first others ih =>
      unfold leadingCloses
      split
      · next same =>
          -- the space joins those that are held
          obtain ⟨rfl, rfl⟩ := List.cons.inj same
          rw [← List.replicate_succ, List.append_cons, ← List.replicate_succ']
          exact ih (spaces + 1)
      · next same =>
          obtain ⟨rfl, rfl⟩ := List.cons.inj same
          have skipped : Reads [] (List.replicate spaces ' ' ++ ')' :: others) (')' :: others) :=
            .of_suffix (List.suffix_append _ _)
          exact (skipped.trans (.head ')' others)).trans (ih 0)
      · exact .of_suffix List.suffix_rfl

theorem mem_of_opening_ne_nil (full : Bool) {body : Text} (opens : opening full body ≠ []) :
    '(' ∈ body := by
  by_contra plain
  exact opens (by rw [opening, openAtEnd?_eq_none plain, openBefore?_eq_none plain])

theorem parens_opening (full : Bool) (body : Text) :
    opening full body = [] ∨ (opening full body).flatMap parens = ['('] := by
  simp only [opening]
  split
  · cases full <;> exact .inr rfl
  · split
    · exact .inr rfl
    · exact .inl rfl

theorem parens_body (full : Bool) (body : Text) :
    ((opening full body ++ List.replicate (trailingCloses body) closed).flatMap parens).Sublist
      body := by
  obtain ⟨ended, split, closes, opens⟩ := Text.exists_dropEndWhile (fun c => c = ')') body
  have run : ended = List.replicate ended.length ')' :=
    List.eq_replicate_of_mem fun c member => of_decide_eq_true (closes c member)
  generalize Text.dropEndWhile (fun c => decide (c = ')')) body = front at split opens
  rw [run] at split
  have counted : trailingCloses body = ended.length - 1 := by
    rw [split, trailingCloses_replicate]
    exact fun last isLast => of_decide_eq_false (opens last isLast)
  have behind : (List.replicate (trailingCloses body) ')').Sublist
      (List.replicate ended.length ')') := by
    rw [counted, List.replicate_sublist_replicate]
    exact Nat.sub_le _ _
  have within : ((opening full body).flatMap parens).Sublist front := by
    rcases parens_opening full body with none | opened
    · rw [none]
      exact List.nil_sublist front
    · have member : '(' ∈ body := mem_of_opening_ne_nil full fun none => by
        simp [none] at opened
      rw [opened, List.singleton_sublist]
      rw [split] at member
      simpa using member
  rw [List.flatMap_append, flatMap_parens_closed]
  conv => rhs; rw [split]
  exact within.append behind

theorem parens_lineTokens (full : Bool) (text : Text) :
    ((lineTokens full text).flatMap parens).Sublist text := by
  have start : Reads (List.replicate (leadingCloses [] text).1 ')') text
      (leadingCloses [] text).2 := reads_leadingCloses 0 text
  simp only [lineTokens]
  rw [List.append_assoc, List.flatMap_append, flatMap_parens_closed]
  exact start.sublist (parens_body full _)

theorem parens_continuation (full : Bool) (head line : Text) :
    ((continuation full head line).flatMap parens).Sublist ('(' :: line) := by
  have skipped : Reads [] line (line.dropWhile fun c => c ≠ '(' && c ≠ ')') := .skip _ line
  unfold continuation
  split
  · exact List.Sublist.cons_cons '(' (List.nil_sublist line)
  · next rest shown =>
      rw [shown] at skipped
      have closing : Reads [')'] line rest := skipped.trans (.head ')' rest)
      exact (closing.sublist (parens_lineTokens full rest)).cons_cons '('
  · exact (skipped.sublist (parens_lineTokens full _)).cons_cons '('

end Joined

end FileToken

def OpenFiles.Shifts (closings openings : Nat) (before after : List Path) : Prop :=
  ∃ entered left, after = entered ++ before.drop left ∧ left ≤ closings ∧ entered.length ≤ openings

namespace OpenFiles.Shifts

variable {closings openings moreClosings moreOpenings : Nat} {before middle after : List Path}

theorem refl (entries : List Path) : Shifts 0 0 entries entries :=
  ⟨[], 0, rfl, Nat.le_refl 0, Nat.le_refl 0⟩

theorem trans (first : Shifts closings openings before middle)
    (second : Shifts moreClosings moreOpenings middle after) :
    Shifts (closings + moreClosings) (openings + moreOpenings) before after := by
  obtain ⟨entered, left, rfl, fewClosed, fewOpened⟩ := first
  obtain ⟨later, laterLeft, rfl, fewLaterClosed, fewLaterOpened⟩ := second
  refine ⟨later ++ entered.drop laterLeft, left + (laterLeft - entered.length), ?_, ?_, ?_⟩
  · rw [List.drop_append, List.drop_drop, List.append_assoc]
  · omega
  · rw [List.length_append, List.length_drop]
    omega

theorem paths {files shifted : OpenFiles}
    (shifts : Shifts closings openings files.innermostFirst shifted.innermostFirst) :
    ∃ kept entered, shifted.paths = kept ++ entered ∧ kept <+: files.paths ∧
      files.depth - closings ≤ kept.length ∧ entered.length ≤ openings := by
  obtain ⟨entered, left, same, fewClosed, fewOpened⟩ := shifts
  refine ⟨(files.innermostFirst.drop left).reverse, entered.reverse, ?_, ?_, ?_, ?_⟩
  · rw [OpenFiles.paths, same, List.reverse_append]
  · exact List.reverse_prefix.mpr (List.drop_suffix left _)
  · rw [List.length_reverse, List.length_drop, OpenFiles.depth]
    omega
  · rwa [List.length_reverse]

theorem mono (shifts : Shifts closings openings before after) (fewer : closings ≤ moreClosings)
    (fewerOpened : openings ≤ moreOpenings) : Shifts moreClosings moreOpenings before after := by
  obtain ⟨entered, left, same, fewClosed, fewOpened⟩ := shifts
  exact ⟨entered, left, same, fewClosed.trans fewer, fewOpened.trans fewerOpened⟩

end OpenFiles.Shifts

namespace Nesting

open FileToken (parens)

variable {nesting next : Nesting} {line : Text} {tokens : List FileToken}

theorem shifts_apply {token : FileToken} (applied : nesting.apply token = .ok next) :
    OpenFiles.Shifts (token.parens.count ')') (token.parens.count '(')
      nesting.files.innermostFirst next.files.innermostFirst := by
  rcases apply_cases applied with
    ⟨path, rfl, rfl⟩ | ⟨path, outer, rfl, files, rfl⟩ | ⟨head, rfl, rfl⟩ | ⟨rfl | ⟨path, rfl⟩, rfl⟩
  · exact ⟨[Text.trimEnd path], 0, rfl, Nat.zero_le _, by simp [parens]⟩
  · exact ⟨[], 1, by rw [files]; rfl, by simp [parens], Nat.zero_le _⟩
  · exact (OpenFiles.Shifts.refl _).mono (Nat.zero_le _) (Nat.zero_le _)
  · exact (OpenFiles.Shifts.refl _).mono (Nat.zero_le _) (Nat.zero_le _)
  · exact (OpenFiles.Shifts.refl _).mono (Nat.zero_le _) (Nat.zero_le _)

theorem shifts_run (nesting : Nesting) (tokens : List FileToken) :
    OpenFiles.Shifts ((tokens.flatMap parens).count ')') ((tokens.flatMap parens).count '(')
      nesting.files.innermostFirst (nesting.run tokens).1.files.innermostFirst := by
  induction tokens generalizing nesting with
  | nil => exact .refl _
  | cons token tokens ih =>
      rw [run, List.flatMap_cons, List.count_append, List.count_append]
      cases applied : nesting.apply token with
      | ok next => exact (shifts_apply applied).trans (ih next)
      | error fault => exact (OpenFiles.Shifts.refl _).mono (Nat.zero_le _) (Nat.zero_le _)

/-- How many tokens a run tries.  The last of them may be one that fails. -/
def attempts (nesting : Nesting) : List FileToken → Nat
  | [] => 0
  | token :: tokens =>
      match nesting.apply token with
      | .ok next => next.attempts tokens + 1
      | .error _ => 1

def attemptsOn (nesting : Nesting) (line : Text) : Nat :=
  match nesting.read line with
  | .ok tokens => { nesting with pending? := none }.attempts tokens
  | .error _ => 1

theorem attempts_le_length (nesting : Nesting) (tokens : List FileToken) :
    nesting.attempts tokens ≤ tokens.length := by
  induction tokens generalizing nesting with
  | nil => exact Nat.le_refl 0
  | cons token tokens ih =>
      rw [attempts]
      cases nesting.apply token with
      | ok next => exact Nat.succ_le_succ (ih next)
      | error fault => exact Nat.succ_le_succ (Nat.zero_le _)

/-- The parenthesis of the path that is pending, as if it stood before the next line. -/
def pendingParen (nesting : Nesting) : Text :=
  if nesting.pending?.isSome then ['('] else []

theorem parens_read (readable : nesting.read line = .ok tokens) :
    (tokens.flatMap parens).Sublist (nesting.pendingParen ++ line) := by
  have shown : (Text.dropLineEnds line).Sublist line := by
    obtain ⟨ended, split, -, -⟩ := Text.exists_dropEndWhile Text.isLineEnd line
    conv => rhs; rw [split]
    exact List.sublist_append_left _ ended
  have behind : line.Sublist (nesting.pendingParen ++ line) := List.sublist_append_right _ line
  rcases read_cases readable with ⟨-, rfl⟩ | ⟨-, rfl⟩ | ⟨head, -, pending, -, rfl⟩
  · exact (FileToken.Strict.parens_tokens _).trans (shown.trans behind)
  · exact (FileToken.Joined.parens_lineTokens _ _).trans (shown.trans behind)
  · rw [pendingParen, pending]
    exact (FileToken.Joined.parens_continuation _ head _).trans (shown.cons_cons '(')

theorem isSome_pending?_of_read {fault : NestingFault} (refused : nesting.read line = .error fault) :
    nesting.pending?.isSome := by
  by_contra nothing
  rw [Option.not_isSome_iff_eq_none] at nothing
  cases rule : nesting.rule <;>
    simp [read, rule, nothing, FileToken.Joined.tokens?] at refused

theorem count_parens_read (readable : nesting.read line = .ok tokens) :
    (tokens.flatMap parens).count ')' ≤ line.count ')' ∧
      (tokens.flatMap parens).count '(' ≤
        line.count '(' + if nesting.pending?.isSome then 1 else 0 := by
  have within := parens_read readable
  have closings := within.count_le ')'
  have openings := within.count_le '('
  rw [List.count_append] at closings openings
  cases pending : nesting.pending? <;>
    simp [pendingParen, pending] at closings openings ⊢ <;> omega

/-- Whatever a line holds, and whether or not it fails, the files that were open stay open but for as
many as it has closing parentheses, and as many are opened as it has opening ones, that of a pending
path among them.  The scanner tries no more tokens than these are together. -/
theorem changes_are_paid_for (nesting : Nesting) (line : Text) :
    let closings := line.count ')'
    let openings := line.count '(' + if nesting.pending?.isSome then 1 else 0
    (∃ kept entered : List Path, (nesting.consume line).1.files.paths = kept ++ entered ∧
        kept <+: nesting.files.paths ∧ nesting.files.depth - closings ≤ kept.length ∧
        entered.length ≤ openings) ∧
      nesting.attemptsOn line ≤ closings + openings := by
  intro closings openings
  rcases nesting.consume_cases line with ⟨tokens, readable, consumed⟩ | ⟨_, _, refused, consumed⟩
  · obtain ⟨fewClosed, fewOpened⟩ := count_parens_read readable
    have shifts := (shifts_run { nesting with pending? := none } tokens).mono fewClosed fewOpened
    rw [consumed]
    refine ⟨shifts.paths, ?_⟩
    calc
      nesting.attemptsOn line = { nesting with pending? := none }.attempts tokens := by
        simp only [attemptsOn, readable]
      _ ≤ tokens.length := attempts_le_length _ tokens
      _ ≤ (tokens.flatMap parens).count ')' + (tokens.flatMap parens).count '(' :=
        FileToken.length_le_count_parens tokens
      _ ≤ closings + openings := Nat.add_le_add fewClosed fewOpened
  · have unchanged := OpenFiles.Shifts.refl nesting.files.innermostFirst
    have pending : nesting.pending?.isSome := isSome_pending?_of_read refused
    rw [consumed]
    refine ⟨(unchanged.mono (Nat.zero_le _) (Nat.zero_le _)).paths, ?_⟩
    calc
      nesting.attemptsOn line = 1 := by simp only [attemptsOn, refused]
      _ ≤ openings := by simp [openings, pending]
      _ ≤ closings + openings := Nat.le_add_left _ _

end Nesting

end Typeset

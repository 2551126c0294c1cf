import Typeset.Text.Basic

/-!
Words as a shell reads them: quotes and backslashes keep blanks inside a word, and a hash at the
start of a word begins a comment.
-/

namespace Typeset.ShellWords

/-- Where the reading stands.  What was read of a word stands last first. -/
inductive State where
  | between
  | comment
  | word (read : Text)
  | escaped (read : Text)
  | singleQuoted (read : Text)
  | doubleQuoted (read : Text)
  | doubleEscaped (read : Text)
deriving DecidableEq, Repr

def isBlank (c : Char) : Bool :=
  c = ' ' || c = '\t' || c = '\n'

def inWord (read : Text) (c : Char) : Option Text × State :=
  if isBlank c then (some read.reverse, .between)
  else if c = '"' then (none, .doubleQuoted read)
  else if c = '\'' then (none, .singleQuoted read)
  else if c = '\\' then (none, .escaped read)
  else (none, .word (c :: read))

/-- What a character behind a backslash adds to a word in double quotes.  Only the characters that
mean something there lose the backslash. -/
def doubleEscape (c : Char) : Text :=
  if c = '\n' then []
  else if c = '$' || c = '`' || c = '"' || c = '\\' then [c]
  else [c, '\\']

def step : State → Char → Option Text × State
  | .between, c =>
      if isBlank c then (none, .between)
      else if c = '#' then (none, .comment)
      else inWord [] c
  | .comment, c => (none, if c = '\n' then .between else .comment)
  | .word read, c => inWord read c
  | .escaped read, c => (none, .word (if c = '\n' then read else c :: read))
  | .singleQuoted read, c => (none, if c = '\'' then .word read else .singleQuoted (c :: read))
  | .doubleQuoted read, c =>
      (none,
        if c = '"' then .word read
        else if c = '\\' then .doubleEscaped read
        else .doubleQuoted (c :: read))
  | .doubleEscaped read, c => (none, .doubleQuoted (doubleEscape c ++ read))

/-- The words that the end of the text ends.  A quote or a backslash may not stand open. -/
def finish? : State → Option (List Text)
  | .between => some []
  | .comment => some []
  | .word read => some [read.reverse]
  | _ => none

def wordsFrom? : State → Text → Option (List Text)
  | state, [] => finish? state
  | state, c :: rest =>
      let (ended?, next) := step state c
      (wordsFrom? next rest).map (ended?.toList ++ ·)

def words? (text : Text) : Option (List Text) :=
  wordsFrom? .between text

end Typeset.ShellWords

import Typeset.Text.Basic

namespace Typeset

inductive Level where
  | error
  | warn
  | info
  | debug
deriving DecidableEq, Repr

structure Note where
  level : Level
  text : Text
deriving DecidableEq, Repr

abbrev Journal := List Note

end Typeset

import Typeset.Feedback.Feed

namespace Typeset

structure Settings where
  /-- The engine; told from the document when there is none. -/
  engine? : Option Text := none
  flags : List Text := ["-interaction=nonstopmode"]
  /-- The highest severity at which a successful run needs no attention. -/
  warnLevel : UInt8 := 0
  /-- The document that is set in place of the file being edited. -/
  master? : Option Path := none
  debug : Bool := false
  rule : NestingRule := .fragment
  policy : FaultPolicy := .lenient
  linkTemplate? : Option Text := none
deriving DecidableEq, Repr

end Typeset

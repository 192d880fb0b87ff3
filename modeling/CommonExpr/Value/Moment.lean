import CommonExpr.Document.Timestamp

/-! What dates are compared by. Clocks of two zones show one moment in two ways, and these are
one date. A date without a zone names no moment, and is only what is written. -/

namespace CommonExpr

inductive Moment where
  | instant (microseconds : Int)
  | written (content : String)
deriving DecidableEq, Repr

open Document in
def Moment.ofText (content : String) : Moment :=
  match (Timestamp.ofText? content.toList).bind Timestamp.instant? with
  | some microseconds => .instant microseconds
  | none => .written content

end CommonExpr

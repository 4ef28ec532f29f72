import IssuePlanner.Clock.Timestamp
import IssuePlanner.Data.Basic

/-! Work that goes on after a tool has answered. -/

namespace IssuePlanner

/-- How issue commands are sent: through the command line program, or through a function that stands in
for it. -/
inductive Channel where
  | program
  | function
  deriving DecidableEq, Repr

structure Origin where
  searchGrounding : Option Bool := none
  startTime : Option Timestamp := none
  urls : Option (List String) := none

structure DraftOrder where
  model : String
  title : String
  issue : String
  reasoning : String
  description : String
  debug : Bool := false
  disableSearch : Bool := false
  origin : Option Origin := none

structure RevisionOrder where
  model : String
  issue : String
  workplan : Datum
  instructions : String
  reasoning : String
  debug : Bool := false
  disableSearch : Bool := false
  origin : Option Origin := none

structure JudgementOrder where
  model : String
  workplan : String
  diff : String
  baseRef : String
  headRef : String
  baseCommit : String
  headCommit : String
  parent : String
  subissue : Option String := none
  debug : Bool := false
  reasoning : String := "full"
  disableSearch : Bool := false
  origin : Option Origin := none

inductive Job where
  | draft (order : DraftOrder) (channel : Channel)
  | revise (order : RevisionOrder) (channel : Channel)
  | judge (order : JudgementOrder) (channel : Channel)

end IssuePlanner

import IssuePlanner.Judgement.Basic
import IssuePlanner.Workplan.Draft

/-! Jobs that a tool leaves behind are done when the tool has answered, in the order in which they were
started. That one fails is recorded and stops nothing. -/

namespace IssuePlanner

open IssuePlanner.Action Generation

def Job.run : Job → Action Unit
  | .draft o channel => Workplan.draft channel o
  | .revise o channel => Workplan.revise channel o
  | .judge o channel => Judgement.judge channel o

namespace Server

def start (job : Job) : Action Unit := modify fun s => { s with jobs := s.jobs ++ [job] }

def runJob (job : Job) : Action Unit := tryCatch job.run fun e => record (.jobFailed e)

def workOff : Action Unit := do
  let jobs := (← get).jobs
  modify fun s => { s with jobs := [] }
  jobs.forM runJob
  flush

def settled {α : Type} (act : Action α) : Action α := do
  let result ← outcome act
  workOff
  ofExcept result

end Server

end IssuePlanner

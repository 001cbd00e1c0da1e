/-!
This file lists the resources of the service and the methods that each of them allows.
-/

namespace StepRunner.Service

/-- A resource of the service, with the text of the variable segment of its path. -/
inductive Route where
  | health
  | parse
  | parseScript
  | projects
  | project (id : String)
  | projectTestCases (id : String)
  | testCase (id : String)
  | testCaseRuns (id : String)
  | runs
  | activeRun
  | run (id : String)
  | runCancel (id : String)
  | runSteps (id : String)
  | runReport (id : String)
  | browsers
  | browserInstall (word : String)
  | artifacts
  | events
  deriving DecidableEq, Repr

namespace Route

/-- The resource at a path; a variable segment is not empty, and fixed segments come first. -/
def ofSegments? : List String → Option Route
  | ["health"] => some health
  | "api" :: segments =>
    if segments.contains "" then none
    else
      match segments with
      | ["parse"] => some parse
      | ["parse", "script"] => some parseScript
      | ["projects"] => some projects
      | ["projects", id] => some (project id)
      | ["projects", id, "test-cases"] => some (projectTestCases id)
      | ["test-cases", id] => some (testCase id)
      | ["test-cases", id, "runs"] => some (testCaseRuns id)
      | ["runs"] => some runs
      | ["runs", "active"] => some activeRun
      | ["runs", id] => some (run id)
      | ["runs", id, "cancel"] => some (runCancel id)
      | ["runs", id, "steps"] => some (runSteps id)
      | ["runs", id, "report"] => some (runReport id)
      | ["browsers"] => some browsers
      | ["browsers", word, "install"] => some (browserInstall word)
      | ["artifacts"] => some artifacts
      | ["events"] => some events
      | _ => none
  | _ => none

/-- The methods of a resource; whatever can be got can also be asked for its head. -/
def methods : Route → List String
  | health | testCaseRuns _ | activeRun | run _ | runSteps _ | runReport _ | browsers | artifacts
  | events => ["GET"]
  | parse | parseScript | runs | runCancel _ | browserInstall _ => ["POST"]
  | projects | projectTestCases _ => ["GET", "POST"]
  | project _ => ["DELETE"]
  | testCase _ => ["GET", "PUT", "DELETE"]

end Route

end StepRunner.Service

import Recipe.Json.Record

/-!
# Execution reports

What an engine reports about a run: for each task whether it succeeded.
-/

set_option autoImplicit false

namespace Recipe

/-! ## Outcomes -/

/-- How a task went. -/
structure TaskOutcome where
  task : String
  success : Bool
  message : Option String := none
deriving DecidableEq

namespace TaskOutcome

def toJson (outcome : TaskOutcome) : Json :=
  .object <|
    [("task", .string outcome.task), ("success", .bool outcome.success)] ++
      Json.optional "message" (outcome.message.map .string)

def ofJson? (value : Json) : Option TaskOutcome := do
  let record ← value.record? 3
  let task ← record.required 0 "task" Json.asString?
  let success ← record.required 1 "success" Json.asBool?
  let message ← record.withDefault 2 "message" Json.optionalString? none
  return { task, success, message }

end TaskOutcome

/-! ## Reports -/

/-- How the tasks of a run went. -/
structure ExecutionReport where
  outcomes : List TaskOutcome := []
deriving DecidableEq

namespace ExecutionReport

def succeeded (report : ExecutionReport) : Bool := report.outcomes.all (·.success)

def failedTasks (report : ExecutionReport) : List String :=
  (report.outcomes.filter (!·.success)).map (·.task)

def toJson (report : ExecutionReport) : Json :=
  .object [("outcomes", .list (report.outcomes.map TaskOutcome.toJson))]

def outcomes? (value : Json) : Option (List TaskOutcome) := do
  (← value.asList?).mapM TaskOutcome.ofJson?

def ofJson? (value : Json) : Option ExecutionReport := do
  let record ← value.record? 1
  let outcomes ← record.required 0 "outcomes" outcomes?
  return { outcomes }

end ExecutionReport

end Recipe

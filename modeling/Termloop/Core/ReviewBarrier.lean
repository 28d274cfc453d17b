import Termloop.Core.WorkflowOutcome

/-!
The barrier in front of a review report. The reviews of a group are asked for one by one;
a logbook notes every transition with the cycle it was made in, so it can be said which
delivery let a report through.
-/
namespace TermloopBarrier
open TermloopRecordLists TermloopRuns TermloopAskTo TermloopWorkflow TermloopValidity List
open TermloopProgress TermloopVerdict TermloopText
open TermloopWaits (designIds)
open TermloopRouting (readyHost reviewIds)

structure Logbook where
  execution : WorkflowExecution
  entries : List (Nat × Transition)

def Notes (before : Logbook) (transition : Transition) (after : Logbook) : Prop :=
  Accepts before.execution transition after.execution ∧
    after.entries = before.entries ++ [(before.execution.reviewCycle, transition)]

/-- The request was delegated in the cycle, and its own delivery, if any, came later. -/
def Asked (entries : List (Nat × Transition)) (cycle : Nat) (request : WorkflowReviewRequest) :
    Prop :=
  ∃ earlier helperSessionId later,
    entries = earlier
      ++ (cycle, .delegate request.stepId request.requestId helperSessionId) :: later ∧
    (request.replyDelivered = true → (cycle, .reply request.requestId) ∈ later)

section Steps
variable {exec after : WorkflowExecution} {transition : Transition}
  {entries : List (Nat × Transition)} {req : WorkflowReviewRequest} {step : WorkflowStep}
  {cycle now : Nat}

end Steps

def Kept (book : Logbook) : Prop :=
  Valid book.execution ∧ ∀ request ∈ book.execution.reviewRequests,
    Asked book.entries book.execution.reviewCycle request

theorem noted {exec after : WorkflowExecution}
    (entries : List (Nat × Transition)) (accepts : Accepts exec transition after) :
    Notes ⟨exec, entries⟩ transition ⟨after, entries ++ [(exec.reviewCycle, transition)]⟩ :=
  ⟨accepts,rfl⟩

end TermloopBarrier

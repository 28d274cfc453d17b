import Mathlib.Data.List.Perm.Subperm
import Termloop.Core.WorkflowSteps

/-!
What the store asks of a workflow execution, taken apart, and kept by every transition.
The store refuses an execution that is not valid, so a transition that left the valid
ones would end its workflow in an error. Discussions and the implementation are only
reported in the first cycle, which is the one thing that validity does not say.
-/
namespace TermloopValidity
open TermloopRecordLists TermloopOutcome TermloopStore TermloopAskTo TermloopWorkflow TermloopText
  List

section Parts
variable {exec : WorkflowExecution}

def Named (execution : WorkflowExecution) : Prop :=
  boundedSlug execution.id 64 = true ∧ isBlank execution.projectId = false ∧
    execution.taskId.all (fun id => !isBlank id) = true ∧
    execution.configuration.isValid = true ∧
    execution.configuration.projectId = execution.projectId ∧
    boundedText execution.goal (32 * 1024) = true ∧
    isBlank execution.coordinatorSessionId = false ∧ 0 < execution.startedAt

def Requested (execution : WorkflowExecution) : Prop :=
  execution.reviewRequests.length ≤ execution.reviewGroup.length ∧
    (∀ request ∈ execution.reviewRequests,
      (∃ step ∈ execution.reviewGroup, step.id = request.stepId) ∧
        WorkflowExecution.validRequestId request.requestId = true) ∧
    execution.reviewRequests.Pairwise fun a b =>
      b.stepId ≠ a.stepId ∧ b.requestId ≠ a.requestId

def Placed (execution : WorkflowExecution) : Prop :=
  (execution.coordinatorPromptPending = true → execution.phase = .awaitingCoordinator) ∧
    execution.phaseIsValid = true ∧ Requested execution ∧
    execution.activeReviewRequestStateIsValid = true

def Helped (execution : WorkflowExecution) : Prop :=
  (∀ participant ∈ execution.participants,
    (boundedSlug participant.stepId 64 = true ∧ isBlank participant.helperSessionId = false) ∧
      ∃ step ∈ execution.configuration.steps, step.id = participant.stepId ∧
        (step.kind = .discuss ∨ step.kind = .review)) ∧
    execution.participants.Pairwise fun a b => b.stepId ≠ a.stepId

def Fits (execution : WorkflowExecution) (result : WorkflowStepResult) : Prop :=
  ∃ step, (execution.configuration.steps.find? (·.id == result.stepId)) = some step ∧
    result.isValidFor step execution = true

def Reported (execution : WorkflowExecution) : Prop :=
  (∀ result ∈ execution.stepResults, Fits execution result) ∧
    execution.stepResults.Pairwise fun a b => b.stepId ≠ a.stepId

@[mk_iff]
structure Valid (execution : WorkflowExecution) : Prop where
  named : Named execution
  cycle : 1 ≤ execution.reviewCycle ∧
    execution.reviewCycle ≤ execution.configuration.maxReviewCycles
  placed : Placed execution
  helped : Helped execution
  results : Reported execution
  reuse : execution.reuseIsValid = true
  clock : execution.startedAt ≤ execution.updatedAt

theorem requested_iff : exec.reviewRequestsAreValid ↔ Requested exec := by
  rw [WorkflowExecution.reviewRequestsAreValid, Bool.and_eq_true, decide_eq_true_eq,
    Bool.not_eq_true', anyWithLater_eq_false]
  · rfl
  · intro req later
    simp

theorem length_le_of_keys {α β γ : Type} {key : α → γ} {name : β → γ} {l : List α}
    {steps : List β} (distinct : l.Pairwise fun a b => key b ≠ key a)
    (named : ∀ x ∈ l, ∃ step ∈ steps, name step = key x) : l.length ≤ steps.length := by
  have nodup : (l.map key).Nodup :=
    pairwise_map.mpr (distinct.imp fun apart same => apart same.symm)
  have within : l.map key ⊆ steps.map name := by
    intro value here
    obtain ⟨x,mem,rfl⟩ := mem_map.mp here
    obtain ⟨step,present,same⟩ := named x mem
    exact mem_map.mpr ⟨step,present,same⟩
  have count := (nodup.subperm within).length_le
  simpa using count

theorem helped_iff : exec.participantsAreValid ↔ Helped exec := by
  rw [WorkflowExecution.participantsAreValid, Bool.and_eq_true, decide_eq_true_eq,
    Bool.not_eq_true', anyWithLater_eq_false]
  · refine ⟨And.right,fun helped => ⟨?_,helped⟩⟩
    have named : ∀ participant ∈ exec.participants,
        ∃ step ∈ exec.steps, step.id = participant.stepId := by
      intro participant mem
      obtain ⟨-,step,here,same,-⟩ := helped.1 participant mem
      exact ⟨step,here,same⟩
    exact length_le_of_keys helped.2 named
  · intro participant later
    simp [and_assoc]

theorem reported_iff : exec.stepResultsAreValid ↔ Reported exec := by
  rw [WorkflowExecution.stepResultsAreValid, Bool.and_eq_true, decide_eq_true_eq,
    Bool.not_eq_true', anyWithLater_eq_false]
  · refine ⟨And.right,fun results => ⟨?_,results⟩⟩
    have named : ∀ result ∈ exec.stepResults, ∃ step ∈ exec.steps, step.id = result.stepId := by
      intro result mem
      obtain ⟨step,found,-⟩ := results.1 result mem
      have hit := find?_some found
      exact ⟨step,mem_of_find?_eq_some found,beq_iff_eq.mp hit⟩
    exact length_le_of_keys results.2 named
  · intro result later
    simp only [Bool.or_eq_false_iff, Bool.not_eq_false', Option.any_eq_true, any_eq_false,
      beq_iff_eq, Fits]

theorem isValid_iff : exec.isValid ↔ Valid exec := by
  simp only [WorkflowExecution.isValid, Bool.and_eq_true, Bool.not_eq_true', decide_eq_true_eq,
    beq_iff_eq, Bool.or_eq_true, requested_iff, helped_iff, reported_iff, and_assoc]
  -- the same conjuncts in another order: the start belongs to the name
  rw [valid_iff, Named, Placed, imp_iff_not_or, Bool.not_eq_true]
  simp only [and_assoc, and_comm, and_left_comm]

end Parts

section Steps
variable {exec : WorkflowExecution} {step : WorkflowStep}

theorem steps_distinct {config : WorkflowConfiguration} (valid : config.isValid) :
    config.steps.Pairwise fun a b => b.id ≠ a.id := by
  simp only [WorkflowConfiguration.isValid, Bool.and_eq_true, and_assoc] at valid
  obtain ⟨-,-,-,-,-,-,-,-,-,-,apart,-⟩ := valid
  rw [Bool.not_eq_true'] at apart
  refine ((@anyWithLater_eq_false _ _ (fun _ => True) _ (fun step later => ?_) _).mp apart).2
  simp

theorem steps_valid {config : WorkflowConfiguration} (valid : config.isValid)
    (mem : step ∈ config.steps) : step.isValid := by
  simp only [WorkflowConfiguration.isValid, Bool.and_eq_true, and_assoc] at valid
  obtain ⟨-,-,-,-,-,-,-,-,-,all,-⟩ := valid
  exact all_eq_true.mp all step mem

theorem find_step {steps : List WorkflowStep} (nodup : steps.Pairwise fun a b => b.id ≠ a.id)
    (mem : step ∈ steps) : (steps.find? (·.id == step.id)) = some step :=
  find?_eq_some_of_only mem (beq_self_eq_true _) fun _ here same =>
    eq_of_key nodup here mem (beq_iff_eq.mp same)

theorem currentStep_listed (cur : exec.currentStep = some step) : step ∈ exec.steps :=
  mem_of_getElem? cur

theorem mem_reviewGroup (mem : step ∈ exec.reviewGroup) :
    step ∈ exec.steps ∧ step.kind = .review := by
  have review := mem_takeWhile_imp mem
  have behind := (takeWhile_sublist _).subset mem
  exact ⟨mem_of_mem_drop behind,beq_iff_eq.mp review⟩

theorem currentStepIs_iff :
    exec.currentStepIs kind ↔ ∃ step, exec.currentStep = some step ∧ step.kind = kind := by
  simp [WorkflowExecution.currentStepIs, Option.any_eq_true]

theorem reviewGroup_of_current (cur : exec.currentStep = some step)
    (review : step.kind = .review) : ∃ rest, exec.reviewGroup = step :: rest := by
  obtain ⟨inside,here⟩ := List.getElem?_eq_some_iff.mp cur
  have behind : exec.steps.drop exec.currentStepIndex =
      step :: exec.steps.drop (exec.currentStepIndex + 1) := by
    rw [drop_eq_getElem_cons inside, here]
  have first : (step.kind == WorkflowStepKind.review) := beq_iff_eq.mpr review
  rw [WorkflowExecution.reviewGroup, behind, takeWhile_cons, if_pos first]
  exact ⟨_,rfl⟩

theorem currentStepIs_unique (apart : kind ≠ other)
    (is : exec.currentStepIs kind) : exec.currentStepIs other = false := by
  obtain ⟨step,cur,mine⟩ := currentStepIs_iff.mp is
  by_contra also
  rw [Bool.not_eq_false, currentStepIs_iff] at also
  obtain ⟨same,again,theirs⟩ := also
  rw [cur] at again
  cases again
  exact apart (mine.symm.trans theirs)

end Steps

section Placing
variable {exec : WorkflowExecution} {step : WorkflowStep}

theorem placed_at_step (cur : exec.currentStep = some step)
    (phase : exec.phase = .awaitingCoordinator)
    (req : exec.currentRequestId = none) (requests : exec.reviewRequests = []) :
    Placed exec := by
  refine ⟨fun _ => phase,?_,⟨?_,?_,?_⟩,?_⟩
  · simp [WorkflowExecution.phaseIsValid, phase, cur, req]
  · simp [requests]
  · simp [requests]
  · simp [requests]
  · unfold WorkflowExecution.activeReviewRequestStateIsValid
    split
    · next review =>
      obtain ⟨same,again,kind⟩ := currentStepIs_iff.mp review
      obtain ⟨rest,group⟩ := reviewGroup_of_current again kind
      simp [req, phase, requests, group]
    · simp [requests]

theorem currentStep_complete : (exec.complete exec.steps.length).currentStep = none :=
  List.getElem?_eq_none le_rfl

theorem placed_complete : Placed (exec.complete exec.steps.length) := by
  refine ⟨nofun,?_,⟨Nat.zero_le _,nofun,.nil⟩,?_⟩
  · simp [WorkflowExecution.phaseIsValid, WorkflowExecution.complete]
  · have none_left : (exec.complete exec.steps.length).currentStepIs .review = false := by
      rw [WorkflowExecution.currentStepIs, currentStep_complete]
      rfl
    unfold WorkflowExecution.activeReviewRequestStateIsValid
    rw [none_left]
    rfl

theorem placed_elsewhere (other : exec.currentStepIs .review = false)
    (requests : exec.reviewRequests = []) :
    exec.activeReviewRequestStateIsValid := by
  rw [WorkflowExecution.activeReviewRequestStateIsValid, other, requests]
  rfl

def GroupState (execution : WorkflowExecution) : Prop :=
  match execution.phase with
  | .awaitingCoordinator => execution.reviewRequests.length < execution.reviewGroup.length
  | .awaitingHelper => execution.reviewRequests.length = execution.reviewGroup.length ∧
      ∃ request ∈ execution.reviewRequests, request.replyDelivered = false
  | .awaitingStepCompletion => execution.reviewRequests.length = execution.reviewGroup.length ∧
      ∀ request ∈ execution.reviewRequests, request.replyDelivered = true
  | .completed => False

theorem groupState_iff (review : exec.currentStepIs .review) :
    exec.activeReviewRequestStateIsValid ↔
      exec.currentRequestId = none ∧ GroupState exec := by
  rw [WorkflowExecution.activeReviewRequestStateIsValid, if_pos review, Bool.and_eq_true,
    Option.isNone_iff_eq_none, GroupState]
  cases exec.phase <;> simp

theorem placed_in_group (review : exec.currentStepIs .review) (req : exec.currentRequestId = none)
    (prompt : exec.coordinatorPromptPending →
      exec.phase = .awaitingCoordinator)
    (requested : Requested exec) (st : GroupState exec) : Placed exec := by
  refine ⟨prompt,?_,requested,(groupState_iff review).mpr ⟨req,st⟩⟩
  obtain ⟨step,cur,-⟩ := currentStepIs_iff.mp review
  unfold WorkflowExecution.phaseIsValid
  cases phase : exec.phase with
  | completed =>
    rw [GroupState, phase] at st
    exact st.elim
  | awaitingCoordinator => simp [cur, req]
  | awaitingHelper => simp [review]
  | awaitingStepCompletion => simp [review, req]

theorem requests_nil (placed : Placed exec)
    (other : exec.currentStepIs .review = false) : exec.reviewRequests = [] := by
  have reviews := placed.2.2.2
  rw [WorkflowExecution.activeReviewRequestStateIsValid, other] at reviews
  simpa using reviews

theorem review_of_request (placed : Placed exec)
    (mem : req ∈ exec.reviewRequests) : exec.currentStepIs .review := by
  cases review : exec.currentStepIs .review with
  | true => rfl
  | false =>
    rw [requests_nil placed review] at mem
    cases mem

theorem request_none (placed : Placed exec) (phase : exec.phase ≠ .awaitingHelper) :
    exec.currentRequestId = none := by
  have holds := placed.2.1
  unfold WorkflowExecution.phaseIsValid at holds
  split at holds
  · exact Option.isNone_iff_eq_none.mp (Bool.and_eq_true_iff.mp holds).2
  · exact Option.isNone_iff_eq_none.mp (Bool.and_eq_true_iff.mp holds).2
  · exact Option.isNone_iff_eq_none.mp (Bool.and_eq_true_iff.mp holds).1
  · next helper => exact absurd helper phase

theorem review_request_none (placed : Placed exec)
    (review : exec.currentStepIs .review) : exec.currentRequestId = none := by
  have reviews := placed.2.2.2
  rw [WorkflowExecution.activeReviewRequestStateIsValid, if_pos review, Bool.and_eq_true] at reviews
  exact Option.isNone_iff_eq_none.mp reviews.1

end Placing

section Results
variable {exec after : WorkflowExecution} {step : WorkflowStep} {result : WorkflowStepResult}

theorem isValidFor_later (valid : result.isValidFor step exec)
    (cycle : exec.reviewCycle ≤ after.reviewCycle) (started : after.startedAt = exec.startedAt)
    (later : exec.updatedAt ≤ after.updatedAt) : result.isValidFor step after := by
  simp only [WorkflowStepResult.isValidFor, Bool.and_eq_true, decide_eq_true_eq] at valid ⊢
  obtain ⟨⟨⟨⟨⟨⟨⟨same,text⟩,low⟩,high⟩,first⟩,outcome⟩,begun⟩,ended⟩ := valid
  exact ⟨⟨⟨⟨⟨⟨⟨same,text⟩,low⟩,by omega⟩,first⟩,outcome⟩,by omega⟩,by omega⟩

theorem fits_later (fits : Fits exec result) (config : after.configuration = exec.configuration)
    (cycle : exec.reviewCycle ≤ after.reviewCycle) (started : after.startedAt = exec.startedAt)
    (later : exec.updatedAt ≤ after.updatedAt) : Fits after result := by
  obtain ⟨step,hit,valid⟩ := fits
  exact ⟨step,config ▸ hit,isValidFor_later valid cycle started later⟩

theorem reported_later (results : Reported exec) (config : after.configuration = exec.configuration)
    (same : after.stepResults = exec.stepResults) (cycle : exec.reviewCycle ≤ after.reviewCycle)
    (started : after.startedAt = exec.startedAt)
    (later : exec.updatedAt ≤ after.updatedAt) : Reported after := by
  refine ⟨fun result mem => ?_,same ▸ results.2⟩
  rw [same] at mem
  exact fits_later (results.1 result mem) config cycle started later

theorem reported_upsert (results : Reported exec) (fits : Fits exec result) :
    Reported (exec.upsertStepResult result) := by
  have kept : ∀ other, Fits exec other → Fits (exec.upsertStepResult result) other :=
    fun other fine => fits_later fine rfl le_rfl rfl le_rfl
  unfold Reported
  dsimp only [WorkflowExecution.upsertStepResult]
  split
  · constructor
    · intro other mem
      rcases mem_updateFirst mem with old | ⟨_,-,rfl⟩
      · exact kept other (results.1 other old)
      · exact kept other fits
    · apply pairwise_updateFirst results.2
      all_goals
        intro cur other found _ apart
        have hit := find?_some found
        simpa [beq_iff_eq.mp hit] using apart
  · next absent =>
    constructor
    · intro other mem
      rcases mem_append.mp mem with old | new
      · exact kept other (results.1 other old)
      · exact kept other (mem_singleton.mp new ▸ fits)
    · refine pairwise_append.mpr ⟨results.2,pairwise_singleton _ _,?_⟩
      intro old mem new here same
      rw [mem_singleton.mp here] at same
      exact absent (any_eq_true.mpr ⟨old,mem,beq_iff_eq.mpr same.symm⟩)

end Results

section Reports
variable {exec saved after : WorkflowExecution} {step : WorkflowStep}
  {outcome : WorkflowStepResultOutcome} {summary : String} {now : Nat}

/-- The steps before the reviews belong to the first cycle. -/
def Paced (execution : WorkflowExecution) : Prop :=
  execution.currentStepIs .discuss = true ∨ execution.currentStepIs .implement = true →
    execution.reviewCycle = 1

/-- What `complete_workflow_step` checks before it writes a report down. -/
structure ReportAllowed (execution : WorkflowExecution) (step : WorkflowStep)
    (outcome : WorkflowStepResultOutcome) (summary : String) : Prop where
  reports : execution.reportedStep = some step
  prompted : execution.coordinatorPromptPending = false
  takes : execution.takesReport step.kind = true
  parsed : ∃ text, reportOutcome step.kind text = some outcome
  bounded : boundedText summary (2 * 1024) = true

section
variable (reports : exec.reportedStep = some step)
include reports

theorem reportedStep_cases : (exec.currentStepIs .review ∧ step ∈ exec.reviewGroup ∧
      step.kind = .review ∧ exec.hasResult step.id = false) ∨
    (exec.currentStep = some step ∧ step.kind ≠ .review) := by
  unfold WorkflowExecution.reportedStep at reports
  split at reports
  · cases reports
  next cur here =>
  split at reports
  · next review =>
    have mem := mem_of_find?_eq_some reports
    have missing := find?_some reports
    refine .inl ⟨?_,mem,(mem_reviewGroup mem).2,by simpa using missing⟩
    exact currentStepIs_iff.mpr ⟨cur,here,beq_iff_eq.mp review⟩
  · next other =>
    cases reports
    exact .inr ⟨here,by simpa using other⟩

theorem reportedStep_listed : step ∈ exec.steps := by
  rcases reportedStep_cases reports with ⟨-,mem,-⟩ | ⟨cur,-⟩
  · exact (mem_reviewGroup mem).1
  · exact currentStep_listed cur

theorem reportedStep_current (mine : step.kind = kind) : exec.currentStepIs kind := by
  rcases reportedStep_cases reports with ⟨review,-,same,-⟩ | ⟨cur,-⟩
  · rw [mine] at same
    rw [same]
    exact review
  · exact currentStepIs_iff.mpr ⟨step,cur,mine⟩

end

theorem reportOutcome_cases (parsed : reportOutcome kind text = some outcome) :
    (kind = .review ∧ (outcome = .approved ∨ outcome = .changesRequested)) ∨
      (kind ≠ .review ∧ outcome = .completed) := by
  have plain : ∀ {done : Option WorkflowStepResultOutcome},
      (if (text == "completed") then some WorkflowStepResultOutcome.completed else none) =
        done → done = some outcome → outcome = .completed := by
    rintro done rfl some_outcome
    split at some_outcome
    · cases some_outcome
      rfl
    · cases some_outcome
  cases kind with
  | review =>
    refine .inl ⟨rfl,?_⟩
    simp only [reportOutcome] at parsed
    split at parsed
    · cases parsed
      exact .inl rfl
    · split at parsed
      · cases parsed
        exact .inr rfl
      · cases parsed
  | discuss => exact .inr ⟨nofun,plain rfl parsed⟩
  | implement => exact .inr ⟨nofun,plain rfl parsed⟩
  | fix => exact .inr ⟨nofun,plain rfl parsed⟩

theorem withReport_valid (valid : Valid exec) (paced : Paced exec)
    (allowed : ReportAllowed exec step outcome summary) (later : exec.updatedAt ≤ now) :
    Valid (exec.withReport step outcome summary now) := by
  have mem := reportedStep_listed allowed.reports
  have hit := find_step (steps_distinct valid.named.2.2.2.1) mem
  obtain ⟨text,parsed⟩ := allowed.parsed
  have edited : Reported { exec with
      reviewChangesRequested := exec.reviewChangesRequested
        || (step.kind == .review && outcome == .changesRequested)
      updatedAt := now } :=
    reported_later valid.results rfl rfl le_rfl rfl later
  have first : step.kind = .review ∨ step.kind = .fix ∨ exec.reviewCycle = 1 := by
    cases kind : step.kind with
    | review => exact .inl rfl
    | fix => exact .inr (.inl rfl)
    | discuss => exact .inr (.inr (paced (.inl (reportedStep_current allowed.reports kind))))
    | implement => exact .inr (.inr (paced (.inr (reportedStep_current allowed.reports kind))))
  have clock := valid.clock
  refine ⟨valid.named,valid.cycle,valid.placed,valid.helped,?_,valid.reuse,?_⟩
  · apply reported_upsert edited
    refine ⟨step,hit,?_⟩
    simp only [WorkflowStepResult.isValidFor, Bool.and_eq_true, Bool.or_eq_true, beq_iff_eq,
      decide_eq_true_eq]
    refine ⟨⟨⟨⟨⟨⟨⟨trivial,allowed.bounded⟩,valid.cycle.1⟩,le_rfl⟩,?_⟩,?_⟩,?_⟩,le_rfl⟩
    · tauto
    · rcases reportOutcome_cases parsed with ⟨review,approved | changes⟩ | ⟨other,completed⟩
      · simp [review, approved]
      · simp [review, changes]
      · cases kind : step.kind with
        | review => exact absurd kind other
        | discuss | implement | fix => simp [completed]
    · omega
  · exact clock.trans later

theorem not_current_complete : (exec.complete exec.steps.length).currentStepIs kind = false := by
  rw [WorkflowExecution.currentStepIs, currentStep_complete]
  rfl

theorem complete_valid (valid : Valid saved) : Valid (saved.complete saved.steps.length) :=
  ⟨valid.named,valid.cycle,placed_complete,valid.helped,
    reported_later valid.results rfl rfl le_rfl rfl le_rfl,valid.reuse,valid.clock⟩

theorem complete_paced : Paced (saved.complete saved.steps.length) := by
  rintro (discuss | implement)
  · rw [not_current_complete] at discuss
    cases discuss
  · rw [not_current_complete] at implement
    cases implement

theorem paced_of_current (cur : after.currentStep = some step)
    (other : step.kind = .review ∨ step.kind = .fix) : Paced after := by
  rintro (early | early)
  all_goals
    obtain ⟨same,again,kind⟩ := currentStepIs_iff.mp early
    rw [cur] at again
    cases again
    rcases other with mine | mine
    all_goals
      rw [kind] at mine
      cases mine

theorem moves_paced (paced : Paced saved) (cur : saved.currentStepIs step.kind)
    (moves : ReportMoves exec step now saved after) : Paced after := by
  cases moves with
  | waits => exact paced
  | toFix review joined next kind => exact paced_of_current next (.inr kind)
  | skips => exact complete_paced
  | joins => exact complete_paced
  | repeats fix hit =>
    obtain ⟨inside,review,-⟩ := findIdx?_eq_some_iff_getElem.mp hit
    exact paced_of_current (getElem?_eq_getElem inside) (.inl (beq_iff_eq.mp review))
  | ends => exact complete_paced
  | advances own =>
    have early : saved.reviewCycle = 1 := by
      apply paced
      rcases own with mine | mine
      · exact .inl (mine ▸ cur)
      · exact .inr (mine ▸ cur)
    exact fun _ => early
  | finishes => exact complete_paced

theorem moves_valid (valid : Valid saved) (cur : saved.currentStepIs step.kind)
    (phase : saved.takesReport step.kind)
    (skipped : exec.reviewCycle = saved.reviewCycle ∧ now = saved.updatedAt)
    (moves : ReportMoves exec step now saved after) : Valid after := by
  cases moves with
  | waits review missing =>
    have same : { saved with phase := .awaitingStepCompletion } = saved := by
      rw [review] at phase
      have same : saved.phase = .awaitingStepCompletion := beq_iff_eq.mp phase
      rw [← same]
    rw [same]
    exact valid
  | @toFix fix review joined next kind asked =>
    have req := review_request_none valid.placed (review ▸ cur)
    refine ⟨valid.named,valid.cycle,?_,valid.helped,?_,valid.reuse,valid.clock⟩
    · exact placed_at_step next rfl req rfl
    · exact reported_later valid.results rfl rfl le_rfl rfl le_rfl
  | @skips fix review joined next kind content =>
    have done := complete_valid valid
    refine ⟨done.named,done.cycle,done.placed,done.helped,?_,done.reuse,done.clock⟩
    apply reported_upsert done.results
    refine ⟨fix,find_step (steps_distinct valid.named.2.2.2.1) (mem_of_getElem? next),?_⟩
    have low := valid.cycle.1
    have clock := valid.clock
    have text : boundedText "No review changes were requested." (2 * 1024) := by decide
    simp only [WorkflowStepResult.isValidFor, WorkflowExecution.skippedResult,
      WorkflowExecution.complete, kind, skipped.1, skipped.2, text, Bool.and_eq_true,
      decide_eq_true_eq]
    exact ⟨⟨⟨⟨⟨⟨⟨beq_self_eq_true _,trivial⟩,low⟩,le_rfl⟩,rfl⟩,rfl⟩,clock⟩,le_rfl⟩
  | joins => exact complete_valid valid
  | @repeats index fix hit asked left =>
    obtain ⟨inside,-,-⟩ := findIdx?_eq_some_iff_getElem.mp hit
    have here : saved.steps[index]? = some saved.steps[index] :=
      getElem?_eq_getElem inside
    have req : saved.currentRequestId = none := by
      apply request_none valid.placed
      rw [fix] at phase
      have same : saved.phase = .awaitingCoordinator := beq_iff_eq.mp phase
      rw [same]
      exact nofun
    refine ⟨valid.named,⟨Nat.le_succ_of_le valid.cycle.1,left⟩,?_,valid.helped,?_,
      valid.reuse,valid.clock⟩
    · exact placed_at_step here rfl req rfl
    · exact reported_later valid.results rfl rfl (Nat.le_succ _) rfl le_rfl
  | ends => exact complete_valid valid
  | advances own next =>
    have requests : saved.reviewRequests = [] := by
      apply requests_nil valid.placed
      refine currentStepIs_unique ?_ cur
      rcases own with mine | mine
      all_goals
        rw [mine]
        exact nofun
    refine ⟨valid.named,valid.cycle,?_,valid.helped,?_,valid.reuse,valid.clock⟩
    · exact placed_at_step (getElem?_eq_getElem next) rfl rfl requests
    · exact reported_later valid.results rfl rfl le_rfl rfl le_rfl
  | finishes => exact complete_valid valid

theorem report_valid (valid : Valid exec) (paced : Paced exec)
    (allowed : ReportAllowed exec step outcome summary) (later : exec.updatedAt ≤ now) :
    Valid (exec.reported step outcome summary now) := by
  have saved := withReport_valid valid paced allowed later
  have cur := reportedStep_current allowed.reports rfl
  refine moves_valid saved cur allowed.takes ?_ (reported_moves allowed.prompted)
  exact ⟨rfl,rfl⟩

theorem report_paced (paced : Paced exec) (allowed : ReportAllowed exec step outcome summary) :
    Paced (exec.reported step outcome summary now) := by
  have cur := reportedStep_current allowed.reports rfl
  have slow : Paced (exec.withReport step outcome summary now) := paced
  exact moves_paced slow cur (reported_moves allowed.prompted)

end Reports

section Delegates
variable {exec : WorkflowExecution} {step : WorkflowStep} {stepId reqId : String}
  {helperId : String} {now : Nat}

/-- What `complete_workflow_delegate` checks, and what the ids of its request are. -/
structure DelegateAllowed (execution : WorkflowExecution) (step : WorkflowStep)
    (stepId requestId helperSessionId : String) : Prop where
  commits : execution.committedStep stepId = some step
  phase : execution.phase = .awaitingCoordinator
  prompted : execution.coordinatorPromptPending = false
  helper : execution.helperRefusal step helperSessionId = none
  named : WorkflowExecution.validRequestId requestId = true
  nonblank : isBlank helperSessionId = false
  fresh : ∀ request ∈ execution.reviewRequests, request.requestId ≠ requestId

theorem committedStep_cases (commits : exec.committedStep stepId = some step) :
    step.id = stepId ∧ ((exec.currentStepIs .review ∧ step ∈ exec.reviewGroup ∧
      step.kind = .review ∧ exec.hasReviewFor step.id = false) ∨
    (exec.currentStep = some step ∧ step.kind = .discuss)) := by
  unfold WorkflowExecution.committedStep at commits
  split at commits
  · cases commits
  next cur here =>
  split at commits
  · next review =>
    obtain ⟨found,missing⟩ := Option.filter_eq_some_iff.mp commits
    have mem := mem_of_find?_eq_some found
    have hit := find?_some found
    refine ⟨beq_iff_eq.mp hit,.inl ⟨?_,mem,(mem_reviewGroup mem).2,by simpa using missing⟩⟩
    exact currentStepIs_iff.mpr ⟨cur,here,beq_iff_eq.mp review⟩
  · split at commits
    · next mine =>
      cases commits
      simp only [Bool.and_eq_true, beq_iff_eq] at mine
      exact ⟨mine.1,.inr ⟨here,mine.2⟩⟩
    · cases commits

theorem committedStep_listed (commits : exec.committedStep stepId = some step) :
    step ∈ exec.steps ∧ (step.kind = .discuss ∨ step.kind = .review) := by
  rcases (committedStep_cases commits).2 with ⟨-,mem,kind,-⟩ | ⟨cur,kind⟩
  · exact ⟨(mem_reviewGroup mem).1,.inr kind⟩
  · exact ⟨currentStep_listed cur,.inl kind⟩

theorem delegated_shape : ∃ phase req participants requests,
    exec.delegated step reqId helperId now =
      { exec with
        phase := phase, currentRequestId := req, participants := participants
        reviewRequests := requests, updatedAt := now } := by
  unfold WorkflowExecution.delegated
  dsimp only
  split <;> exact ⟨_,_,_,_,rfl⟩

theorem delegated_configuration :
    (exec.delegated step reqId helperId now).configuration = exec.configuration := by
  obtain ⟨_,_,_,_,shape⟩ := @delegated_shape exec step reqId helperId now
  rw [shape]

theorem delegated_participants : (exec.delegated step reqId helperId now).participants =
      if (exec.participant? step.id).isSome then exec.participants
      else exec.participants ++ [⟨step.id, helperId⟩] := by
  unfold WorkflowExecution.delegated
  dsimp only
  split <;> rfl

theorem participant_none (absent : exec.participant? step.id = none) :
    ∀ participant ∈ exec.participants, participant.stepId ≠ step.id := by
  intro participant mem same
  exact find?_eq_none.mp absent participant mem (beq_iff_eq.mpr same)

theorem delegated_helped (valid : Valid exec)
    (allowed : DelegateAllowed exec step stepId reqId helperId) :
    Helped (exec.delegated step reqId helperId now) := by
  obtain ⟨mem,kind⟩ := committedStep_listed allowed.commits
  unfold Helped
  rw [delegated_participants, delegated_configuration]
  split
  · exact valid.helped
  next absent =>
  have apart := participant_none (Option.not_isSome_iff_eq_none.mp absent)
  have slug : boundedSlug step.id 64 := by
    have checked := steps_valid valid.named.2.2.2.1 mem
    simp only [WorkflowStep.isValid, Bool.and_eq_true, and_assoc] at checked
    exact checked.1
  constructor
  · intro participant here
    rcases mem_append.mp here with old | new
    · exact valid.helped.1 participant old
    · cases mem_singleton.mp new
      exact ⟨⟨slug,allowed.nonblank⟩,step,mem,rfl,kind⟩
  · refine pairwise_append.mpr ⟨valid.helped.2,pairwise_singleton _ _,?_⟩
    intro old here new last
    cases mem_singleton.mp last
    exact fun same => apart old here same.symm

theorem delegated_participant? (other : String) :
    (exec.delegated step reqId helperId now).participant? other =
      if other = step.id then (exec.participant? other).or (some ⟨step.id, helperId⟩)
      else exec.participant? other := by
  unfold WorkflowExecution.participant?
  rw [delegated_participants]
  by_cases mine : other = step.id
  · subst mine
    rw [if_pos rfl]
    split
    · next present =>
      obtain ⟨participant,hit⟩ := Option.isSome_iff_exists.mp present
      have here : exec.participants.find? (·.stepId == step.id) = some participant := hit
      rw [here]
      rfl
    · rw [find?_append]
      simp
  · rw [if_neg mine]
    split
    · rfl
    have apart : ¬ step.id = other := fun same => mine same.symm
    simp [find?_append, apart]

theorem delegated_reuse (valid : Valid exec)
    (allowed : DelegateAllowed exec step stepId reqId helperId) :
    (exec.delegated step reqId helperId now).reuseIsValid := by
  have pre := valid.reuse
  have refusal := allowed.helper
  unfold WorkflowExecution.helperRefusal at refusal
  dsimp only at refusal
  obtain ⟨reuses,-⟩ := Option.or_eq_none_iff.mp refusal
  unfold WorkflowExecution.reuseIsValid at pre ⊢
  rw [delegated_configuration]
  apply all_eq_true.mpr
  intro other mem
  have old := all_eq_true.mp pre other mem
  cases reused : other.reuseStepId with
  | none => rfl
  | some source =>
    rw [reused] at old
    simp only [Option.all_some] at old ⊢
    -- a helper that was found stays found, under its own step
    have kept : ∀ {name participant}, exec.participant? name = some participant →
        (exec.delegated step reqId helperId now).participant? name = some participant := by
      intro name participant hit
      rw [delegated_participant?, hit]
      split <;> rfl
    cases had : exec.participant? other.id with
    | some participant =>
      rw [kept had]
      rw [had] at old
      simp only [Option.all_some, Option.any_eq_true] at old ⊢
      obtain ⟨helper,hit,same⟩ := old
      exact ⟨helper,kept hit,same⟩
    | none =>
      rw [delegated_participant? other.id, had]
      split
      · next mine =>
        have same : other = step :=
          eq_of_key (steps_distinct valid.named.2.2.2.1) mem
            (committedStep_listed allowed.commits).1 mine
        subst same
        rw [reused] at reuses
        cases hit : exec.participant? source with
        | none =>
          rw [Option.map_some, hit] at reuses
          cases reuses
        | some helper =>
          rw [kept hit]
          simp only [Option.map_some, hit] at reuses
          split at reuses
          · cases reuses
          next equal =>
          simp only [Option.none_or, Option.all_some, Option.any_some, beq_iff_eq]
          simp only [bne_iff_ne, ne_eq, not_not] at equal
          exact equal.symm
      · rfl

theorem delegated_placed (valid : Valid exec)
    (allowed : DelegateAllowed exec step stepId reqId helperId) :
    Placed (exec.delegated step reqId helperId now) := by
  unfold WorkflowExecution.delegated
  dsimp only
  rcases (committedStep_cases allowed.commits).2 with
    ⟨review,mem,kind,missing⟩ | ⟨cur,kind⟩
  · have req := review_request_none valid.placed review
    have counted : exec.reviewRequests.length < exec.reviewGroup.length := by
      have reviews := valid.placed.2.2.2
      rw [WorkflowExecution.activeReviewRequestStateIsValid, if_pos review, allowed.phase] at reviews
      simpa [req] using reviews
    obtain ⟨-,requests,pairs⟩ := valid.placed.2.2.1
    rw [if_pos (beq_iff_eq.mpr kind)]
    have asked : Requested { exec with
        reviewRequests := exec.reviewRequests ++ [⟨step.id,reqId,false⟩] } := by
      refine ⟨?_,?_,?_⟩
      · simp only [length_append, length_singleton]
        exact counted
      · intro other here
        rcases mem_append.mp here with old | new
        · exact requests other old
        · cases mem_singleton.mp new
          exact ⟨⟨step,mem,rfl⟩,allowed.named⟩
      · refine pairwise_append.mpr ⟨pairs,pairwise_singleton _ _,?_⟩
        intro old here new last
        cases mem_singleton.mp last
        refine ⟨fun same => ?_,fun same => allowed.fresh old here same.symm⟩
        have present : exec.hasReviewFor step.id :=
          any_eq_true.mpr ⟨old,here,beq_iff_eq.mpr same.symm⟩
        rw [missing] at present
        cases present
    refine placed_in_group review rfl (fun pending => ?_) asked ?_
    · have quiet : exec.coordinatorPromptPending := pending
      rw [allowed.prompted] at quiet
      cases quiet
    · unfold GroupState
      dsimp only
      split
      · next open_ =>
        split at open_
        · cases open_
        next fewer =>
        simp only [beq_iff_eq] at fewer
        exact lt_of_le_of_ne asked.1 fewer
      · next full =>
        split at full
        · next same => exact ⟨beq_iff_eq.mp same,_,mem_append_right _ mem_cons_self,rfl⟩
        · cases full
      · next done => split at done <;> cases done
      · next done => split at done <;> cases done
  · have other : ¬ (step.kind == .review) := by simp [kind]
    have discuss : exec.currentStepIs .discuss :=
      currentStepIs_iff.mpr ⟨step,cur,kind⟩
    have apart : exec.currentStepIs .review = false :=
      currentStepIs_unique (by decide) discuss
    rw [if_neg other]
    refine ⟨fun pending => ?_,?_,valid.placed.2.2.1,?_⟩
    · have quiet : exec.coordinatorPromptPending := pending
      rw [allowed.prompted] at quiet
      cases quiet
    · have here : (exec.currentStepIs .discuss || exec.currentStepIs .review) := by
        rw [discuss, Bool.true_or]
      unfold WorkflowExecution.phaseIsValid
      simp only [Option.any_some, allowed.named, Bool.or_true, Bool.and_true]
      exact here
    · have empty := requests_nil valid.placed apart
      exact placed_elsewhere apart empty

theorem delegate_valid (valid : Valid exec)
    (allowed : DelegateAllowed exec step stepId reqId helperId) (later : exec.updatedAt ≤ now) :
    Valid (exec.delegated step reqId helperId now) := by
  have placed := @delegated_placed _ _ _ _ _ now valid allowed
  have helped := @delegated_helped _ _ _ _ _ now valid allowed
  have reuse := @delegated_reuse _ _ _ _ _ now valid allowed
  obtain ⟨_,_,_,_,shape⟩ := @delegated_shape exec step reqId helperId now
  rw [shape] at placed helped reuse ⊢
  exact ⟨valid.named,valid.cycle,placed,helped,
    reported_later valid.results rfl rfl le_rfl rfl later,reuse,valid.clock.trans later⟩

end Delegates

section Waits
variable {exec : WorkflowExecution} {reqId : String} {now : Nat}

theorem requested_ticked (requested : Requested exec) : Requested { exec with
      reviewRequests := updateFirst (·.requestId == reqId)
        (fun req => { req with replyDelivered := true }) exec.reviewRequests } := by
  obtain ⟨count,each,pairs⟩ := requested
  refine ⟨?_,?_,?_⟩
  · rwa [length_updateFirst]
  · intro req mem
    rcases mem_updateFirst mem with old | ⟨pre,hit,rfl⟩
    · exact each req old
    · exact each pre (mem_of_find?_eq_some hit)
  · apply pairwise_updateFirst pairs
    · exact fun _ _ _ _ apart => apart
    · exact fun _ _ _ _ apart => apart

theorem active_of_awaitsReply (waits : awaitsReply reqId exec) :
    exec.phase = .awaitingCoordinator ∨ exec.phase = .awaitingHelper := by
  simp only [awaitsReply, Bool.or_eq_true, Bool.and_eq_true, beq_iff_eq] at waits
  rcases waits with ⟨phase,-⟩ | ⟨phase,-⟩
  · exact .inr phase
  · exact phase

theorem reply_valid (valid : Valid exec) (waits : awaitsReply reqId exec)
    (later : exec.updatedAt ≤ now) : Valid (afterReply reqId now exec) := by
  have clock := valid.clock.trans later
  unfold afterReply
  split
  · next review =>
    obtain ⟨req,mem,-⟩ := any_eq_true.mp review
    have cur := review_of_request valid.placed mem
    obtain ⟨none_open,st⟩ := (groupState_iff cur).mp valid.placed.2.2.2
    have requested := @requested_ticked exec reqId valid.placed.2.2.1
    have active := active_of_awaitsReply waits
    have length := length_updateFirst (fun req : WorkflowReviewRequest => req.requestId == reqId)
      (fun req => { req with replyDelivered := true }) exec.reviewRequests
    refine ⟨valid.named,valid.cycle,?_,valid.helped,
      reported_later valid.results rfl rfl le_rfl rfl later,valid.reuse,clock⟩
    refine placed_in_group cur none_open ?_ requested ?_
    · intro pending
      have waiting := valid.placed.1 pending
      rw [GroupState, waiting] at st
      have short : ¬ (updateFirst (·.requestId == reqId)
          (fun req => { req with replyDelivered := true })
          exec.reviewRequests).length = exec.reviewGroup.length := by
        rw [length]
        exact Nat.ne_of_lt st
      simp [short, waiting]
    · unfold GroupState
      dsimp only
      split
      · next open_ =>
        split at open_
        · cases open_
        rw [GroupState, open_] at st
        exact length ▸ st
      · next helper =>
        split at helper
        · cases helper
        next missing =>
        rw [GroupState, helper] at st
        have full := length.trans st.1
        simp only [full, beq_self_eq_true, Bool.true_and, all_eq_true, not_forall,
          Bool.not_eq_true] at missing
        obtain ⟨req,here,late⟩ := missing
        exact ⟨full,req,here,late⟩
      · next done =>
        split at done
        · next full =>
          simp only [Bool.and_eq_true, beq_iff_eq, all_eq_true] at full
          exact full
        · rw [done] at active
          rcases active with wrong | wrong <;> cases wrong
      · next done =>
        split at done
        · cases done
        rw [done] at active
        rcases active with wrong | wrong <;> cases wrong
  · next unlisted =>
    have asked : exec.phase = .awaitingHelper ∧ exec.currentRequestId = some reqId := by
      simp only [awaitsReply, Bool.or_eq_true, Bool.and_eq_true, beq_iff_eq] at waits
      rcases waits with here | ⟨-,mem⟩
      · exact here
      · exact absurd mem unlisted
    have apart : exec.currentStepIs .review = false := by
      by_contra review
      rw [review_request_none valid.placed (by simpa using review)] at asked
      cases asked.2
    have discuss : exec.currentStepIs .discuss := by
      have phase := valid.placed.2.1
      rw [WorkflowExecution.phaseIsValid, asked.1, apart] at phase
      simp only [Bool.or_false, Bool.and_eq_true] at phase
      exact phase.1
    refine ⟨valid.named,valid.cycle,⟨fun pending => ?_,?_,valid.placed.2.2.1,?_⟩,
      valid.helped,reported_later valid.results rfl rfl le_rfl rfl later,valid.reuse,clock⟩
    · have waiting := valid.placed.1 pending
      rw [asked.1] at waiting
      cases waiting
    · have here : (exec.currentStepIs .discuss || exec.currentStepIs .review) := by
        rw [discuss, Bool.true_or]
      exact here
    · have empty := requests_nil valid.placed apart
      exact placed_elsewhere apart empty

theorem retry_valid (valid : Valid exec) (discuss : exec.currentStepIs .discuss)
    (later : exec.updatedAt ≤ now) : Valid (exec.retried now) := by
  obtain ⟨step,cur,-⟩ := currentStepIs_iff.mp discuss
  have apart : exec.currentStepIs .review = false :=
    currentStepIs_unique (by decide) discuss
  refine ⟨valid.named,valid.cycle,?_,valid.helped,?_,valid.reuse,valid.clock.trans later⟩
  · have empty := requests_nil valid.placed apart
    exact placed_at_step cur rfl rfl empty
  · exact reported_later valid.results rfl rfl le_rfl rfl later

theorem prompt_valid (valid : Valid exec) (later : exec.updatedAt ≤ now) :
    Valid (exec.prompted now) := by
  refine ⟨valid.named,valid.cycle,?_,valid.helped,?_,valid.reuse,valid.clock.trans later⟩
  · exact ⟨nofun,valid.placed.2⟩
  · exact reported_later valid.results rfl rfl le_rfl rfl later

end Waits

end TermloopValidity

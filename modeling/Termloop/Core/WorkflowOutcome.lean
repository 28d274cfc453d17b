import Mathlib.Data.List.ProdSigma
import Termloop.Core.WorkflowProgress

/-!
What a completed workflow says about its reports. A configuration puts its discussions
before the one implementation and the reviews and the fix behind it. Every step is
reported at most once in a review cycle, so the reports are bounded, and the outcome of a
completed execution can be read off the reports of its last cycle.
-/
namespace TermloopVerdict
open TermloopRecordLists TermloopRuns TermloopStore TermloopAskTo TermloopWorkflow List
open TermloopValidity TermloopProgress
open TermloopWaits (designFirst)

variable {index now : Nat} {step : WorkflowStep} {exec saved after : WorkflowExecution}

section Layouts
variable {steps talks checks mends : List WorkflowStep} {build : WorkflowStep}

structure Layout (steps talks checks mends : List WorkflowStep) (build : WorkflowStep) :
    Prop where
  parts : steps = talks ++ build :: (checks ++ mends)
  discuss : ∀ step ∈ talks, step.kind = .discuss
  implement : build.kind = .implement
  review : ∀ step ∈ checks, step.kind = .review
  fix : ∀ step ∈ mends, step.kind = .fix
  single : mends.length ≤ 1

theorem behind_layout {behind : List WorkflowStep}
    (late : ∀ step ∈ behind, step.kind = .review ∨ step.kind = .fix)
    (last : (match behind.filter (·.kind == .fix) with
      | [] => true
      | [fix] => behind.getLast? == some fix && behind.any (·.kind == .review)
      | _ => false) = true) :
    ∃ checks mends, behind = checks ++ mends ∧ (∀ step ∈ checks, step.kind = .review) ∧
      (∀ step ∈ mends, step.kind = .fix) ∧ mends.length ≤ 1 := by
  have reviews : ∀ checks : List WorkflowStep, (∀ step ∈ checks, step ∈ behind) →
      checks.filter (·.kind == .fix) = [] →
        ∀ step ∈ checks, step.kind = .review := by
    intro checks within none_fix step mem
    have other := filter_eq_nil_iff.mp none_fix step mem
    rcases late step (within step mem) with review | fix
    · exact review
    · exact absurd (beq_iff_eq.mpr fix) other
  split at last
  · next none_fix =>
    exact ⟨behind,[],(append_nil _).symm,reviews behind (fun _ here => here) none_fix,
      nofun,Nat.zero_le 1⟩
  · next fix only =>
    simp only [Bool.and_eq_true, beq_iff_eq] at last
    obtain ⟨checks,rfl⟩ := getLast?_eq_some_iff.mp last.1
    have kind : fix.kind = .fix := by
      have here : fix ∈ (checks ++ [fix]).filter (·.kind == .fix) := by
        rw [only]
        exact mem_cons_self
      exact beq_iff_eq.mp (mem_filter.mp here).2
    have none_before : checks.filter (·.kind == .fix) = [] := by
      have count := congrArg List.length only
      simp only [filter_append, length_append, filter_cons, kind, beq_self_eq_true,
        if_true, filter_nil, length_cons, length_nil] at count
      exact length_eq_zero_iff.mp (by omega)
    refine ⟨checks,[fix],rfl,reviews checks ?_ none_before,?_,le_rfl⟩
    · exact fun step here => mem_append_left _ here
    · intro step here
      rw [mem_singleton.mp here, kind]
  · cases last

theorem ordered_layout (ordered : stepsAreOrdered steps) :
    ∃ talks build checks mends, Layout steps talks checks mends build := by
  unfold stepsAreOrdered at ordered
  dsimp only at ordered
  split at ordered
  · cases ordered
  next build behind rest =>
  simp only [Bool.and_eq_true, all_eq_true, beq_iff_eq, Bool.or_eq_true] at ordered
  obtain ⟨⟨early,late⟩,last⟩ := ordered
  have whole := @takeWhile_append_dropWhile _ (·.kind != .implement) steps
  have dropped : steps.dropWhile (·.kind != .implement) = build :: behind := by
    have cut := @List.drop_left _ (steps.takeWhile (·.kind != .implement))
      (steps.dropWhile (·.kind != .implement))
    rw [whole, rest] at cut
    exact cut.symm
  have first : build.kind = .implement := by
    have some_left : steps.dropWhile (·.kind != .implement) ≠ [] := by
      rw [dropped]
      exact nofun
    have stops := head_dropWhile_not _ some_left
    simp only [dropped, head_cons, bne_eq_false_iff_eq] at stops
    exact stops
  obtain ⟨checks,mends,parts,review,fix,single⟩ := behind_layout late last
  refine ⟨_,build,checks,mends,?_,early,first,review,fix,single⟩
  rw [← parts, ← dropped, whole]

theorem configuration_layout {config : WorkflowConfiguration} (valid : config.isValid) :
    ∃ talks build checks mends, Layout config.steps talks checks mends build := by
  simp only [WorkflowConfiguration.isValid, Bool.and_eq_true, and_assoc] at valid
  obtain ⟨-,-,-,-,-,-,-,-,-,-,-,ordered,-⟩ := valid
  exact ordered_layout ordered

def Before (a b : WorkflowStep) : Prop :=
  match a.kind with
  | .discuss => True
  | .implement => b.kind = .review ∨ b.kind = .fix
  | .review => b.kind = .review ∨ b.kind = .fix
  | .fix => False

theorem layout_before (layout : Layout steps talks checks mends build) : steps.Pairwise Before := by
  have discuss : ∀ a ∈ talks, ∀ b, Before a b := by
    intro a here b
    rw [Before, layout.discuss a here]
    trivial
  have behind : ∀ b ∈ checks ++ mends, b.kind = .review ∨ b.kind = .fix := by
    intro b here
    rcases mem_append.mp here with check | mend
    · exact .inl (layout.review b check)
    · exact .inr (layout.fix b mend)
  rw [layout.parts]
  refine pairwise_append.mpr ⟨?_,pairwise_cons.mpr ⟨?_,?_⟩,?_⟩
  · exact List.Pairwise.imp_of_mem (fun here _ _ => discuss _ here _)
      (pairwise_of_forall fun _ _ => trivial : talks.Pairwise fun _ _ => True)
  · intro b here
    rw [Before, layout.implement]
    exact behind b here
  · refine pairwise_append.mpr ⟨?_,?_,?_⟩
    · apply pairwise_of_forall_mem_list
      intro a first b second
      rw [Before, layout.review a first]
      exact .inl (layout.review b second)
    · have single := layout.single
      match mends, single with
      | [], _ => exact .nil
      | [fix], _ => exact pairwise_singleton _ _
    · intro a first b second
      rw [Before, layout.review a first]
      exact .inr (layout.fix b second)
  · exact fun a here b _ => discuss a here b

theorem fix_last (pre : steps.Pairwise Before)
    (here : steps[index]? = some fix) (kind : fix.kind = .fix) : index + 1 = steps.length := by
  obtain ⟨inside,same⟩ := List.getElem?_eq_some_iff.mp here
  by_contra more
  have next : index + 1 < steps.length := by omega
  have order := pairwise_iff_getElem.mp pre index (index + 1) inside next (by omega)
  rw [same, Before, kind] at order
  exact order

theorem behind_review (pre : steps.Pairwise Before)
    (here : steps[index]? = some review) (kind : review.kind = .review)
    (there : steps[later]? = some step) (less : index < later) :
    step.kind = .review ∨ step.kind = .fix := by
  obtain ⟨inside,same⟩ := List.getElem?_eq_some_iff.mp here
  obtain ⟨within,again⟩ := List.getElem?_eq_some_iff.mp there
  have order := pairwise_iff_getElem.mp pre index later inside within less
  rw [same, again, Before, kind] at order
  exact order

end Layouts

structure Report where
  stepId : String
  cycle : Nat
  outcome : WorkflowStepResultOutcome
  deriving DecidableEq

def reportOf : Transition → Option Report
  | .report stepId cycle outcome => some ⟨stepId,cycle,outcome⟩
  | .delegate _ _ _ | .reply _ | .retry | .prompt => none

def reports (transitions : List Transition) : List Report := transitions.filterMap reportOf

section Results
variable {result new : WorkflowStepResult} {stepId : String}

theorem mem_upsert (mem : result ∈ (exec.upsertStepResult new).stepResults) :
    result = new ∨ result ∈ exec.stepResults := by
  unfold WorkflowExecution.upsertStepResult at mem
  dsimp only at mem
  split at mem
  · rcases mem_updateFirst mem with old | ⟨_,-,same⟩
    · exact .inr old
    · exact .inl same
  · rcases mem_append.mp mem with old | last
    · exact .inr old
    · exact .inl (mem_singleton.mp last)

theorem new_mem_upsert : new ∈ (exec.upsertStepResult new).stepResults := by
  unfold WorkflowExecution.upsertStepResult
  dsimp only
  split
  · next here =>
    obtain ⟨old,mem,same⟩ := any_eq_true.mp here
    have some_one : (exec.stepResults.find?
        (·.stepId == new.stepId)).isSome := find?_isSome.mpr ⟨old,mem,same⟩
    obtain ⟨first,hit⟩ := Option.isSome_iff_exists.mp some_one
    exact changed_mem_updateFirst hit
  · exact mem_append_right _ mem_cons_self

theorem kept_mem_upsert (mem : result ∈ exec.stepResults) (other : result.stepId ≠ new.stepId) :
    result ∈ (exec.upsertStepResult new).stepResults := by
  unfold WorkflowExecution.upsertStepResult
  dsimp only
  split
  · rcases mem_updateFirst_of_mem mem with here | found
    · exact here
    · have hit := find?_some found
      exact absurd (beq_iff_eq.mp hit) other
  · exact mem_append_left _ mem

theorem hasResult_iff : exec.hasResult stepId ↔
    ∃ result ∈ exec.stepResults, result.stepId = stepId ∧
      result.reviewCycle = exec.reviewCycle := by
  simp only [WorkflowExecution.hasResult, any_eq_true, Bool.and_eq_true, beq_iff_eq]

theorem hasResult_upsert (cycle : new.reviewCycle = exec.reviewCycle)
    (has : exec.hasResult stepId) :
    (exec.upsertStepResult new).hasResult stepId := by
  obtain ⟨result,mem,same,cur⟩ := hasResult_iff.mp has
  by_cases mine : result.stepId = new.stepId
  · exact hasResult_iff.mpr ⟨new,new_mem_upsert,mine.symm.trans same,cycle⟩
  · exact hasResult_iff.mpr ⟨result,kept_mem_upsert mem mine,same,cur⟩

end Results

/-- The report says what its step may say; steps before the reviews belong to the first
    cycle. -/
def Suits (steps : List WorkflowStep) (report : Report) : Prop :=
  ∃ step ∈ steps, step.id = report.stepId ∧
    (step.kind = .discuss ∨ step.kind = .implement → report.cycle = 1) ∧
    (step.kind = .review ∧ (report.outcome = .approved ∨ report.outcome = .changesRequested) ∨
      step.kind ≠ .review ∧ report.outcome = .completed)

def ChangesAsked (execution : WorkflowExecution) (past : List Report) (cycle : Nat) : Prop :=
  ∃ step ∈ execution.reviewSteps,
    ⟨step.id,cycle,.changesRequested⟩ ∈ past

structure Logged (past : List Report) (execution : WorkflowExecution) : Prop where
  within : ∀ report ∈ past, 1 ≤ report.cycle ∧ report.cycle ≤ execution.reviewCycle ∧
    Suits execution.configuration.steps report
  order : past.Pairwise fun a b => a.cycle ≤ b.cycle ∧ (a.stepId = b.stepId → a.cycle < b.cycle)
  results : ∀ report ∈ past, report.cycle = execution.reviewCycle →
    execution.hasResult report.stepId = true
  reported : ∀ result ∈ execution.stepResults, result.outcome ≠ .skipped →
    ⟨result.stepId,result.reviewCycle,result.outcome⟩ ∈ past
  asked : execution.reviewChangesRequested = true ↔
    ChangesAsked execution past execution.reviewCycle
  first : execution.hasFix = false → execution.reviewCycle = 1

/-- No step ahead but a review was reported in this cycle, every review behind was, and an
    unchecked fix was in the last cycle. -/
structure Positioned (past : List Report) (execution : WorkflowExecution) : Prop where
  ahead : ∀ step ∈ execution.configuration.steps.drop execution.currentStepIndex,
    step.kind ≠ .review → ∀ report ∈ past, report.stepId = step.id →
      report.cycle ≠ execution.reviewCycle
  behind : ∀ step ∈ execution.configuration.steps.take execution.currentStepIndex,
    step.kind = .review → execution.hasResult step.id = true
  limit : execution.phase = .completed → execution.reviewChangesRequested = true →
    execution.hasFix = true → execution.reviewCycle = execution.configuration.maxReviewCycles

section Telling
variable {past : List Report} {outcome : WorkflowStepResultOutcome} {summary : String}

theorem unreported (logged : Logged past exec) (positioned : Positioned past exec)
    (reports : exec.reportedStep = some step) :
    ∀ report ∈ past, report.stepId = step.id → report.cycle ≠ exec.reviewCycle := by
  intro report here same
  rcases reportedStep_cases reports with ⟨-,-,-,missing⟩ | ⟨cur,other⟩
  · intro cycle
    have has := logged.results report here cycle
    rw [same, missing] at has
    cases has
  · refine positioned.ahead step ?_ other report here same
    exact mem_of_getElem? (i := 0) (by simpa [WorkflowExecution.currentStep] using cur)

theorem logged_report (logged : Logged past exec) (valid : Valid exec)
    (paced : Paced exec) (allowed : ReportAllowed exec step outcome summary)
    (new : ∀ report ∈ past, report.stepId = step.id → report.cycle ≠ exec.reviewCycle) :
    Logged (past ++ [⟨step.id,exec.reviewCycle,outcome⟩])
      (exec.withReport step outcome summary now) := by
  have mem := reportedStep_listed allowed.reports
  obtain ⟨text,parsed⟩ := allowed.parsed
  constructor
  · intro report here
    rcases mem_append.mp here with old | last
    · exact logged.within report old
    cases mem_singleton.mp last
    refine ⟨valid.cycle.1,le_rfl,step,mem,rfl,fun early => ?_,reportOutcome_cases parsed⟩
    apply paced
    rcases early with discuss | implement
    · exact .inl (reportedStep_current allowed.reports discuss)
    · exact .inr (reportedStep_current allowed.reports implement)
  · refine pairwise_append.mpr ⟨logged.order,pairwise_singleton _ _,?_⟩
    intro old here last mine
    cases mem_singleton.mp mine
    have bound := (logged.within old here).2.1
    refine ⟨bound,fun same => ?_⟩
    have apart := new old here same
    exact Nat.lt_of_le_of_ne bound apart
  · intro report here cycle
    rcases mem_append.mp here with old | last
    · exact hasResult_upsert rfl (logged.results report old cycle)
    · cases mem_singleton.mp last
      exact hasResult_iff.mpr ⟨_,new_mem_upsert,rfl,rfl⟩
  · intro result here real
    rcases mem_upsert here with rfl | old
    · exact mem_append_right _ mem_cons_self
    · exact mem_append_left _ (logged.reported result old real)
  · have kept := logged.asked
    have shape : (exec.withReport step outcome summary now).reviewChangesRequested =
        (exec.reviewChangesRequested ||
          (step.kind == .review && outcome == .changesRequested)) := rfl
    rw [shape, Bool.or_eq_true, Bool.and_eq_true, beq_iff_eq, beq_iff_eq, kept]
    constructor
    · rintro (⟨reviewer,review,old⟩ | ⟨kind,rfl⟩)
      · exact ⟨reviewer,review,mem_append_left _ old⟩
      · refine ⟨step,mem_filter.mpr ⟨mem,beq_iff_eq.mpr kind⟩,?_⟩
        exact mem_append_right _ mem_cons_self
    · rintro ⟨reviewer,review,here⟩
      rcases mem_append.mp here with old | last
      · exact .inl ⟨reviewer,review,old⟩
      have same := mem_singleton.mp last
      simp only [Report.mk.injEq] at same
      obtain ⟨sameId,-,rfl⟩ := same
      have kind : step.kind = .review := by
        rcases reportOutcome_cases parsed with ⟨kind,-⟩ | ⟨-,wrong⟩
        · exact kind
        · cases wrong
      exact .inr ⟨kind,rfl⟩
  · exact logged.first

theorem logged_moves (logged : Logged past saved) (mem : step ∈ saved.steps)
    (cycle : exec.reviewCycle = saved.reviewCycle)
    (moves : ReportMoves exec step now saved after) : Logged past after := by
  obtain ⟨within,order,results,reported,asked,first⟩ := logged
  cases moves with
  | skips =>
    refine ⟨within,order,?_,?_,asked,first⟩
    · exact fun report here cur => hasResult_upsert cycle (results report here cur)
    · intro result here real
      rcases mem_upsert here with rfl | old
      · exact absurd rfl real
      · exact reported result old real
  | repeats fix =>
    refine ⟨?_,order,?_,reported,?_,?_⟩
    · intro report here
      obtain ⟨low,high,suits⟩ := within report here
      exact ⟨low,Nat.le_succ_of_le high,suits⟩
    · intro report here next
      have high := (within report here).2.1
      exact absurd next (Nat.ne_of_lt (Nat.lt_succ_of_le high))
    · constructor
      · intro wrong
        cases wrong
      · rintro ⟨reviewer,review,here⟩
        have high := (within _ here).2.1
        exact absurd high (Nat.not_succ_le_self _)
    · intro none_fix
      have some_fix : saved.hasFix :=
        any_eq_true.mpr ⟨step,mem,beq_iff_eq.mpr fix⟩
      have same : saved.hasFix = false := none_fix
      rw [some_fix] at same
      cases same
  | waits | toFix | joins | ends | advances | finishes =>
    exact ⟨within,order,results,reported,asked,first⟩

theorem reviewGroup_splits :
    ∃ rest, saved.steps.drop saved.currentStepIndex = saved.reviewGroup ++ rest ∧
      ∀ next, rest[0]? = some next → next.kind ≠ .review := by
  refine ⟨_,takeWhile_append_dropWhile.symm,fun next here review => ?_⟩
  have stops := head?_dropWhile_not (fun step : WorkflowStep => step.kind == .review)
    (saved.steps.drop saved.currentStepIndex)
  rw [head?_eq_getElem?, here] at stops
  simp [review] at stops

theorem group_reviewed (joined : saved.groupIsReported)
    (behind : ∀ step ∈ saved.steps.take saved.currentStepIndex,
      step.kind = .review → saved.hasResult step.id) :
    ∀ step ∈ saved.steps.take (saved.currentStepIndex + saved.reviewGroup.length),
      step.kind = .review → saved.hasResult step.id := by
  intro step here review
  rw [take_add] at here
  rcases mem_append.mp here with early | grouped
  · exact behind step early review
  obtain ⟨rest,split,-⟩ := reviewGroup_splits
  rw [split, take_left] at grouped
  exact all_eq_true.mp joined step grouped

theorem reviewed_all (rest : saved.steps.length ≤ index + 1)
    (last : ∀ step, saved.steps[index]? = some step → step.kind ≠ .review)
    (behind : ∀ step ∈ saved.steps.take index, step.kind = .review →
      saved.hasResult step.id) :
    ∀ step ∈ saved.steps, step.kind = .review → saved.hasResult step.id := by
  intro step mem review
  obtain ⟨position,here⟩ := mem_iff_getElem?.mp mem
  have inside := (List.getElem?_eq_some_iff.mp here).1
  by_cases early : position < index
  · apply behind step _ review
    exact mem_of_getElem? ((getElem?_take_of_lt early).trans here)
  · have same : position = index := by omega
    subst same
    exact absurd review (last step here)

theorem group_ends (here : saved.steps[saved.currentStepIndex + saved.reviewGroup.length]? =
      some new) : new.kind ≠ .review := by
  obtain ⟨rest,split,stops⟩ := reviewGroup_splits
  rw [← getElem?_drop, split, getElem?_append_right le_rfl, Nat.sub_self] at here
  exact stops new here

theorem group_last (pre : saved.steps.Pairwise Before)
    (cur : saved.currentStep = some step) (review : step.kind = .review)
    (last : ∀ next, saved.steps[saved.currentStepIndex +
      saved.reviewGroup.length]? = some next → next.kind ≠ .fix) :
    saved.steps.length ≤ saved.currentStepIndex + saved.reviewGroup.length := by
  by_contra more
  have inside := Nat.lt_of_not_le more
  have there := getElem?_eq_getElem inside
  obtain ⟨rest,group⟩ := reviewGroup_of_current cur review
  have longer : 0 < saved.reviewGroup.length := by
    rw [group]
    exact Nat.succ_pos _
  rcases behind_review pre cur review there (by omega) with another | fix
  · exact group_ends there another
  · exact last _ there fix

theorem positioned_complete (all : ∀ step ∈ saved.steps, step.kind = .review →
      saved.hasResult step.id) (limit : saved.reviewChangesRequested → saved.hasFix →
      saved.reviewCycle = saved.configuration.maxReviewCycles) :
    Positioned past (saved.complete saved.steps.length) := by
  refine ⟨?_,fun step here => ?_,fun _ => limit⟩
  · intro step here
    rw [WorkflowExecution.complete, drop_length] at here
    cases here
  · exact all step (mem_of_mem_take here)

theorem no_fix (pre : saved.steps.Pairwise Before) (rest : saved.steps.length ≤ index + 1)
    (last : ∀ step, saved.steps[index]? = some step → step.kind ≠ .fix)
    (inside : index < saved.steps.length) : saved.hasFix = false := by
  by_contra some_fix
  rw [Bool.not_eq_false] at some_fix
  obtain ⟨fix,mem,kind⟩ := any_eq_true.mp some_fix
  have kind : fix.kind = .fix := beq_iff_eq.mp kind
  obtain ⟨position,here⟩ := mem_iff_getElem?.mp mem
  have end_eq := fix_last pre here kind
  have same : position = index := by omega
  subst same
  exact last fix here kind

theorem no_fix_in_group (pre : saved.steps.Pairwise Before)
    (cur : saved.currentStep = some step) (rest : saved.steps.length ≤
      saved.currentStepIndex + saved.reviewGroup.length) : saved.hasFix = false := by
  have inside : saved.currentStepIndex < saved.steps.length :=
    (List.getElem?_eq_some_iff.mp cur).1
  refine @no_fix (saved.steps.length - 1) _ pre (by omega) ?_ (by omega)
  intro last here fix
  have grouped : last ∈ saved.reviewGroup := by
    obtain ⟨_,split,-⟩ := reviewGroup_splits
    have place : (saved.steps.drop saved.currentStepIndex)[
        saved.steps.length - 1 - saved.currentStepIndex]? = some last := by
      rw [getElem?_drop, ← here]
      congr 1
      omega
    rw [split, getElem?_append_left (by omega)] at place
    exact mem_of_getElem? place
  have review := (mem_reviewGroup grouped).2
  rw [fix] at review
  cases review

theorem positioned_upsert (positioned : Positioned past saved)
    (cycle : new.reviewCycle = saved.reviewCycle) :
    Positioned past (saved.upsertStepResult new) :=
  ⟨positioned.ahead,fun step here review => hasResult_upsert cycle
    (positioned.behind step here review),positioned.limit⟩

theorem later_id (nodup : saved.steps.Pairwise fun a b => b.id ≠ a.id)
    (here : saved.steps[index]? = some step)
    (later : other ∈ saved.steps.drop (index + 1)) : other.id ≠ step.id := by
  obtain ⟨offset,there⟩ := mem_iff_getElem?.mp later
  rw [getElem?_drop] at there
  obtain ⟨inside,same⟩ := List.getElem?_eq_some_iff.mp here
  obtain ⟨within,again⟩ := List.getElem?_eq_some_iff.mp there
  have apart := pairwise_iff_getElem.mp nodup index (index + 1 + offset) inside within (by omega)
  rwa [same, again] at apart

theorem own_kind {kind : WorkflowStepKind} (own : kind = .discuss ∨ kind = .implement) :
    kind ≠ .review ∧ kind ≠ .fix := by
  rcases own with rfl | rfl
  · exact ⟨nofun,nofun⟩
  · exact ⟨nofun,nofun⟩

theorem positioned_moves (configured : saved.configuration.isValid)
    (bound : saved.reviewCycle ≤ saved.configuration.maxReviewCycles) (logged : Logged past saved)
    (reports : saved.currentStepIs .review ∧ step ∈ saved.reviewGroup ∧
        step.kind = .review ∨ saved.currentStep = some step ∧ step.kind ≠ .review)
    (ahead : ∀ other ∈ saved.steps.drop saved.currentStepIndex,
      other.kind ≠ .review → other.id ≠ step.id → ∀ report ∈ past, report.stepId = other.id →
        report.cycle ≠ saved.reviewCycle)
    (behind : ∀ other ∈ saved.steps.take saved.currentStepIndex,
      other.kind = .review → saved.hasResult other.id)
    (cycle : exec.reviewCycle = saved.reviewCycle)
    (moves : ReportMoves exec step now saved after) : Positioned past after := by
  obtain ⟨_,_,_,_,layout⟩ := configuration_layout configured
  have pre := layout_before layout
  have nodup := steps_distinct configured
  have grouped : step.kind = .review → ∀ other ∈ saved.steps,
      other.kind ≠ .review → other.id ≠ step.id := by
    intro review other mem kind same
    have mine : step ∈ saved.steps := by
      rcases reports with ⟨-,here,-⟩ | ⟨cur,-⟩
      · exact (mem_reviewGroup here).1
      · exact currentStep_listed cur
    rw [eq_of_key nodup mem mine same] at kind
    exact kind review
  have alone : step.kind ≠ .review → saved.currentStep = some step := by
    intro other
    rcases reports with ⟨-,-,review⟩ | ⟨cur,-⟩
    · exact absurd review other
    · exact cur
  have first : step.kind = .review → ∃ cur, saved.currentStep = some cur ∧ cur.kind = .review := by
    intro review
    rcases reports with ⟨cur,-⟩ | ⟨-,other⟩
    · exact currentStepIs_iff.mp cur
    · exact absurd review other
  cases moves with
  | waits review missing =>
    refine ⟨fun other here kind => ahead other here kind ?_,behind,nofun⟩
    exact grouped review other (mem_of_mem_drop here) kind
  | toFix review joined next kind asked =>
    refine ⟨fun other here kind => ?_,group_reviewed joined behind,nofun⟩
    have later : other ∈ saved.steps.drop saved.currentStepIndex := by
      rw [← drop_drop] at here
      exact mem_of_mem_drop here
    exact ahead other later kind (grouped review other (mem_of_mem_drop here) kind)
  | skips review joined next kind content =>
    have rest := fix_last pre next kind
    refine positioned_upsert (positioned_complete ?_ ?_) cycle
    · refine reviewed_all rest.ge (fun other here => ?_) (group_reviewed joined behind)
      exact group_ends here
    · intro asked
      rw [content] at asked
      cases asked
  | joins review joined last =>
    obtain ⟨cur,here,kind⟩ := first review
    have rest := group_last pre here kind last
    refine positioned_complete ?_ ?_
    · refine reviewed_all (Nat.le_succ_of_le rest) (fun other there => ?_)
        (group_reviewed joined behind)
      exact group_ends there
    · intro _ some_fix
      rw [no_fix_in_group pre here rest] at some_fix
      cases some_fix
  | @repeats index fix hit asked left =>
    obtain ⟨inside,-,none_before⟩ := findIdx?_eq_some_iff_getElem.mp hit
    refine ⟨fun other here kind report mine _ => ?_,fun other here review => ?_,nofun⟩
    · have high := (logged.within report mine).2.1
      exact Nat.ne_of_lt (Nat.lt_succ_of_le high)
    · obtain ⟨position,there⟩ := mem_iff_getElem?.mp here
      obtain ⟨within,same⟩ := List.getElem?_eq_some_iff.mp there
      have early : position < index := by
        simp only [length_take] at within
        omega
      have other_kind := none_before position early
      rw [getElem_take] at same
      rw [same] at other_kind
      exact absurd (beq_iff_eq.mpr review) other_kind
  | ends fix closed =>
    have other : step.kind ≠ .review := by
      rw [fix]
      exact nofun
    have here := alone other
    have rest := fix_last pre here fix
    refine positioned_complete ?_ ?_
    · refine reviewed_all rest.ge (fun last there => ?_) behind
      cases here.symm.trans there
      exact other
    · intro asked _
      by_contra short
      have left : saved.reviewCycle < saved.configuration.maxReviewCycles :=
        Nat.lt_of_le_of_ne bound short
      obtain ⟨reviewer,mem,-⟩ := logged.asked.mp asked
      obtain ⟨present,kind⟩ := mem_filter.mp mem
      have none_there := findIdx?_eq_none_iff.mp (closed asked left) reviewer present
      rw [none_there] at kind
      cases kind
  | advances own next =>
    have other := (own_kind own).1
    have here := alone other
    refine ⟨fun later there kind => ?_,fun earlier there review => ?_,nofun⟩
    · have apart := later_id nodup here there
      refine ahead later ?_ kind apart
      rw [← drop_drop] at there
      exact mem_of_mem_drop there
    · rw [take_add_one] at there
      rcases mem_append.mp there with early | mine
      · exact behind earlier early review
      have same : saved.steps[saved.currentStepIndex]? = some step := here
      rw [same] at mine
      cases mem_singleton.mp mine
      exact absurd review other
  | finishes own last =>
    have here := alone (own_kind own).1
    refine positioned_complete ?_ ?_
    · refine reviewed_all last (fun final there => ?_) behind
      cases here.symm.trans there
      exact (own_kind own).1
    · intro _ some_fix
      have inside := (List.getElem?_eq_some_iff.mp here).1
      have none_fix : saved.hasFix = false := by
        refine no_fix pre last (fun final there => ?_) inside
        cases here.symm.trans there
        exact (own_kind own).2
      rw [none_fix] at some_fix
      cases some_fix

def Accepts (execution : WorkflowExecution) (transition : Transition)
    (after : WorkflowExecution) : Prop :=
  (∃ now, Moves now execution transition after) ∧ after.isValid = true

structure Told (past : List Report) (execution : WorkflowExecution) : Prop where
  valid : Valid execution
  paced : Paced execution
  logged : Logged past execution
  positioned : Positioned past execution

theorem quiet_told (told : Told past exec) (pending : Bool)
    (req : Option String) (participants : List WorkflowParticipant)
    (requests : List WorkflowReviewRequest) (now : Nat)
    (open_ : phase = .completed → exec.phase = .completed) :
    Logged past { exec with
        phase := phase, coordinatorPromptPending := pending, currentRequestId := req
        participants := participants, reviewRequests := requests, updatedAt := now } ∧
      Positioned past { exec with
        phase := phase, coordinatorPromptPending := pending, currentRequestId := req
        participants := participants, reviewRequests := requests, updatedAt := now } := by
  obtain ⟨-,-,⟨within,order,results,reported,asked,first⟩,ahead,behind,limit⟩ := told
  exact ⟨⟨within,order,results,reported,asked,first⟩,ahead,behind, fun done => limit (open_ done)⟩

theorem told_report (told : Told past exec) (allowed : ReportAllowed exec step outcome summary)
    (accepted : Valid (exec.reported step outcome summary now)) :
    Told (past ++ [⟨step.id,exec.reviewCycle,outcome⟩])
      (exec.reported step outcome summary now) := by
  have new := unreported told.logged told.positioned allowed.reports
  have logged := @logged_report now step exec past outcome summary told.logged told.valid
    told.paced allowed new
  have moves := @reported_moves exec step outcome summary now allowed.prompted
  have mem := reportedStep_listed allowed.reports
  have same : exec.reviewCycle = (exec.withReport step outcome summary now).reviewCycle := rfl
  refine ⟨accepted,report_paced told.paced allowed,logged_moves logged mem same moves,?_⟩
  refine @positioned_moves now step exec (exec.withReport step outcome summary now) _ _
    told.valid.named.2.2.2.1 told.valid.cycle.2 logged ?_ ?_ ?_ same moves
  · rcases reportedStep_cases allowed.reports with ⟨cur,grouped,review,-⟩ | alone
    · exact .inl ⟨cur,grouped,review⟩
    · exact .inr alone
  · intro other here kind apart report mine named
    rcases mem_append.mp mine with old | last
    · exact told.positioned.ahead other here kind report old named
    · cases mem_singleton.mp last
      exact absurd named.symm apart
  · intro other here review
    have pre : exec.hasResult other.id := told.positioned.behind other here review
    exact hasResult_upsert rfl pre

theorem told_accepts (told : Told past exec) (accepts : Accepts exec transition after) :
    Told (past ++ (reportOf transition).toList) after := by
  obtain ⟨⟨now,moves⟩,accepted⟩ := accepts
  have valid := isValid_iff.mp accepted
  have paced := transition_paced told.paced moves
  have quiet : Logged past after ∧ Positioned past after → Told (past ++ []) after := by
    rintro ⟨logged,positioned⟩
    rw [append_nil]
    exact ⟨valid,paced,logged,positioned⟩
  cases moves with
  | delegate commits phase prompted helper =>
    apply quiet
    unfold WorkflowExecution.delegated
    dsimp only
    split
    · apply quiet_told told
      split <;> exact nofun
    · exact quiet_told told _ _ _ _ _ nofun
  | reply waits =>
    apply quiet
    unfold afterReply
    split
    · apply quiet_told told
      split
      · exact nofun
      · exact id
    · exact quiet_told told _ _ _ _ _ nofun
  | retry phase discuss =>
    exact quiet (quiet_told told _ _ _ _ _ nofun)
  | report allowed => exact told_report told allowed valid
  | prompt pending =>
    exact quiet (quiet_told told _ _ _ _ _ id)

def lastReport (past : List Report) (stepId : String) : Option Report :=
  past.reverse.find? (·.stepId == stepId)

theorem lastReport_of_cycle
    (order : past.Pairwise fun a b => a.cycle ≤ b.cycle ∧ (a.stepId = b.stepId → a.cycle < b.cycle))
    (here : report ∈ past) (latest : ∀ other ∈ past, other.cycle ≤ report.cycle) :
    lastReport past report.stepId = some report := by
  have mem := mem_reverse.mpr here
  have some_one : (past.reverse.find? (·.stepId == report.stepId)).isSome :=
    find?_isSome.mpr ⟨report,mem,beq_self_eq_true _⟩
  obtain ⟨last,found⟩ := Option.isSome_iff_exists.mp some_one
  obtain ⟨hit,later,earlier,parts,misses⟩ := find?_eq_some_iff_append.mp found
  rw [lastReport, found, Option.some.injEq]
  by_contra apart
  have pre : report ∈ earlier := by
    rw [parts] at mem
    rcases mem_append.mp mem with behind | rest
    · have missed := misses report behind
      simp at missed
    · rcases mem_cons.mp rest with same | pre
      · exact absurd same.symm apart
      · exact pre
  have backwards := pairwise_reverse.mpr order
  rw [parts] at backwards
  have pair := (pairwise_cons.mp (pairwise_append.mp backwards).2.1).1 report pre
  have less := pair.2 (beq_iff_eq.mp hit).symm
  have high := latest last (mem_reverse.mp (mem_of_find?_eq_some found))
  omega

@[mk_iff]
structure Faithful (past : List Report) (execution : WorkflowExecution) : Prop where
  approved : execution.completionOutcome = some .approved ↔
    0 < execution.reviewSteps.length ∧ ∀ step ∈ execution.reviewSteps,
      lastReport past step.id =
        some ⟨step.id,execution.reviewCycle,.approved⟩
  reviewLimitReached : execution.completionOutcome = some .reviewLimitReached ↔
    execution.hasFix = true ∧
      ChangesAsked execution past execution.configuration.maxReviewCycles
  changesRequested : execution.completionOutcome = some .changesRequested ↔
    execution.hasFix = false ∧ ∃ cycle, ChangesAsked execution past cycle
  completed : execution.completionOutcome = some .completed ↔ execution.reviewSteps.length = 0

theorem mem_reviewSteps : step ∈ exec.reviewSteps ↔ step ∈ exec.steps ∧ step.kind = .review := by
  rw [WorkflowExecution.reviewSteps, mem_filter, beq_iff_eq]

theorem reviewer_reported (told : Told past exec) (done : exec.phase = .completed)
    (review : step ∈ exec.reviewSteps) :
    ∃ result ∈ exec.stepResults, result.stepId = step.id ∧
      result.reviewCycle = exec.reviewCycle ∧
      (result.outcome = .approved ∨ result.outcome = .changesRequested) ∧
      lastReport past step.id = some ⟨step.id,exec.reviewCycle,result.outcome⟩ := by
  obtain ⟨mem,kind⟩ := mem_reviewSteps.mp review
  have at_end : exec.currentStepIndex = exec.steps.length := by
    have phase := told.valid.placed.2.1
    rw [WorkflowExecution.phaseIsValid, done] at phase
    simp only [Bool.and_eq_true, beq_iff_eq] at phase
    exact phase.1
  have has : exec.hasResult step.id := by
    apply told.positioned.behind step _ kind
    rw [at_end, take_length]
    exact mem
  obtain ⟨result,here,same,cycle⟩ := hasResult_iff.mp has
  have outcome : result.outcome = .approved ∨ result.outcome = .changesRequested := by
    obtain ⟨own,hit,fits⟩ := told.valid.results.1 result here
    rw [same, find_step (steps_distinct told.valid.named.2.2.2.1) mem] at hit
    cases hit
    simp only [WorkflowStepResult.isValidFor, kind, Bool.and_eq_true, Bool.or_eq_true,
      beq_iff_eq] at fits
    exact fits.1.1.2
  refine ⟨result,here,same,cycle,outcome,?_⟩
  have real : result.outcome ≠ .skipped := by
    rcases outcome with is | is
    all_goals
      rw [is]
      decide
  have report := told.logged.reported result here real
  rw [same, cycle] at report
  exact lastReport_of_cycle told.logged.order report
    fun other mine => (told.logged.within other mine).2.1

theorem all_approved (told : Told past exec) (done : exec.phase = .completed)
    (content : exec.reviewChangesRequested = false) (review : step ∈ exec.reviewSteps) :
    (∃ result ∈ exec.stepResults, result.stepId = step.id ∧
      result.reviewCycle = exec.reviewCycle ∧ result.outcome = .approved) ∧
    lastReport past step.id = some ⟨step.id,exec.reviewCycle,.approved⟩ := by
  obtain ⟨result,here,same,cycle,outcome,last⟩ := reviewer_reported told done review
  have approves : result.outcome = .approved := by
    rcases outcome with approved | changes
    · exact approved
    have report : (⟨step.id,exec.reviewCycle,.changesRequested⟩ : Report) ∈ past := by
      rw [changes] at last
      exact mem_reverse.mp (mem_of_find?_eq_some last)
    have asked := told.logged.asked.mpr ⟨step,review,report⟩
    rw [content] at asked
    cases asked
  rw [approves] at last
  exact ⟨⟨result,here,same,cycle,approves⟩,last⟩

theorem completionOutcome_eq (done : exec.phase = .completed) : exec.completionOutcome = some
      (if exec.reviewChangesRequested then
        if exec.hasFix && decide (exec.configuration.maxReviewCycles ≤
          exec.reviewCycle) then .reviewLimitReached else .changesRequested
      else if !exec.reviewSteps.isEmpty && exec.reviewSteps.all fun step =>
          exec.stepResults.any fun result => result.stepId == step.id
            && result.reviewCycle == exec.reviewCycle && result.outcome == .approved
        then .approved else .completed) := by
  rw [WorkflowExecution.completionOutcome, done]
  split
  · next wrong => cases wrong
  split
  · rfl
  · rfl

theorem faithful_changes (told : Told past exec) (done : exec.phase = .completed)
    (asked : exec.reviewChangesRequested) : Faithful past exec := by
  obtain ⟨reviewer,review,report⟩ := told.logged.asked.mp asked
  have disapproved : ¬ (0 < exec.reviewSteps.length ∧ ∀ step ∈ exec.reviewSteps,
      lastReport past step.id = some ⟨step.id,exec.reviewCycle,.approved⟩) := by
    rintro ⟨-,all⟩
    have last := lastReport_of_cycle told.logged.order report
      fun other mine => (told.logged.within other mine).2.1
    rw [all reviewer review] at last
    cases last
  have reviewed : exec.reviewSteps.length ≠ 0 := (length_pos_of_mem review).ne'
  have outcome := completionOutcome_eq done
  rw [if_pos asked] at outcome
  cases fix : exec.hasFix with
  | true =>
    have cycle := told.positioned.limit done asked fix
    rw [fix, cycle, decide_eq_true le_rfl, Bool.and_true, if_pos rfl] at outcome
    rw [faithful_iff, outcome, fix]
    exact ⟨iff_of_false nofun disapproved,iff_of_true rfl ⟨rfl,reviewer,review,cycle ▸ report⟩,
      iff_of_false nofun nofun,iff_of_false nofun reviewed⟩
  | false =>
    rw [fix, Bool.false_and, if_neg Bool.false_ne_true] at outcome
    rw [faithful_iff, outcome, fix]
    exact ⟨iff_of_false nofun disapproved,iff_of_false nofun nofun,
      iff_of_true rfl ⟨rfl,_,reviewer,review,report⟩,iff_of_false nofun reviewed⟩

theorem faithful_content (told : Told past exec) (done : exec.phase = .completed)
    (content : exec.reviewChangesRequested = false) : Faithful past exec := by
  have unasked : ¬ ChangesAsked exec past exec.reviewCycle := by
    rw [← told.logged.asked, content]
    exact nofun
  have no_limit : ¬ (exec.hasFix ∧
      ChangesAsked exec past exec.configuration.maxReviewCycles) := by
    rintro ⟨-,reviewer,review,report⟩
    have high := (told.logged.within _ report).2.1
    have same : exec.configuration.maxReviewCycles = exec.reviewCycle :=
      le_antisymm high told.valid.cycle.2
    exact unasked ⟨reviewer,review,same ▸ report⟩
  have no_changes : ¬ (exec.hasFix = false ∧ ∃ cycle, ChangesAsked exec past cycle) := by
    rintro ⟨fix,cycle,reviewer,review,report⟩
    have bounds := told.logged.within _ report
    have first := told.logged.first fix
    have same : cycle = exec.reviewCycle := by
      have low := bounds.1
      have high := bounds.2.1
      dsimp only at low high
      omega
    exact unasked ⟨reviewer,review,same ▸ report⟩
  have outcome := completionOutcome_eq done
  rw [content, if_neg Bool.false_ne_true] at outcome
  cases reviews : exec.reviewSteps with
  | nil =>
    rw [reviews] at outcome
    have outcome : exec.completionOutcome = some .completed := outcome
    rw [faithful_iff, outcome, reviews]
    exact ⟨iff_of_false nofun nofun,iff_of_false nofun no_limit,iff_of_false nofun no_changes,
      iff_of_true rfl rfl⟩
  | cons first rest =>
    have some_review : 0 < exec.reviewSteps.length := by
      rw [reviews]
      exact Nat.succ_pos _
    have approvals : (exec.reviewSteps.all fun step =>
        exec.stepResults.any fun result => result.stepId == step.id
          && result.reviewCycle == exec.reviewCycle && result.outcome == .approved) := by
      apply all_eq_true.mpr
      intro step review
      obtain ⟨⟨result,here,same,cycle,approved⟩,-⟩ := all_approved told done content review
      exact any_eq_true.mpr ⟨result,here,by simp [same, cycle, approved]⟩
    have filled : exec.reviewSteps.isEmpty = false := by
      rw [reviews]
      rfl
    rw [approvals, filled] at outcome
    have outcome : exec.completionOutcome = some .approved := outcome
    have approved step (review : step ∈ exec.reviewSteps) :=
      (all_approved told done content review).2
    rw [faithful_iff, outcome]
    exact ⟨iff_of_true rfl ⟨some_review,approved⟩,iff_of_false nofun no_limit,
      iff_of_false nofun no_changes,iff_of_false nofun some_review.ne'⟩

def discussSteps (execution : WorkflowExecution) : List WorkflowStep :=
  execution.configuration.steps.filter (·.kind == .discuss)

theorem filter_kind {steps : List WorkflowStep} {kind other : WorkflowStepKind}
    (all : ∀ step ∈ steps, step.kind = other) (apart : other ≠ kind) :
    steps.filter (·.kind == kind) = [] := by
  apply filter_eq_nil_iff.mpr
  intro step here same
  rw [all step here] at same
  exact apart (beq_iff_eq.mp same)

theorem layout_counts {build : WorkflowStep}
    (layout : Layout exec.configuration.steps talks checks mends build) :
    discussSteps exec = talks ∧ exec.reviewSteps = checks := by
  have own : ∀ (steps : List WorkflowStep) (kind : WorkflowStepKind),
      (∀ step ∈ steps, step.kind = kind) → steps.filter (·.kind == kind) = steps :=
    fun steps kind all => filter_eq_self.mpr fun step here => beq_iff_eq.mpr (all step here)
  constructor
  · rw [discussSteps, layout.parts, filter_append, own talks _ layout.discuss,
      filter_cons, layout.implement, filter_append,
      @filter_kind checks .discuss .review layout.review (by decide),
      @filter_kind mends .discuss .fix layout.fix (by decide)]
    exact append_nil _
  · rw [WorkflowExecution.reviewSteps, layout.parts, filter_append,
      @filter_kind talks .review .discuss layout.discuss (by decide), filter_cons,
      layout.implement, filter_append, own checks _ layout.review,
      @filter_kind mends .review .fix layout.fix (by decide), append_nil]
    rfl

theorem reports_bounded (told : Told past exec) : past.length ≤ (discussSteps exec).length + 1 +
      exec.configuration.maxReviewCycles * (exec.reviewSteps.length + 1) := by
  obtain ⟨talks,build,checks,mends,layout⟩ := configuration_layout told.valid.named.2.2.2.1
  obtain ⟨talked,checked⟩ := layout_counts layout
  let places := (talks ++ [build]).map (fun step => (step.id, 1)) ++ (checks ++ mends).map (·.id) ×ˢ
      (List.range exec.configuration.maxReviewCycles).map (· + 1)
  have nodup : past.Pairwise fun a b => (b.stepId, b.cycle) ≠ (a.stepId, a.cycle) := by
    apply told.logged.order.imp
    intro a b order same
    obtain ⟨sameId,sameCycle⟩ := Prod.mk.inj same
    have less := order.2 sameId.symm
    omega
  have placed : ∀ report ∈ past, ∃ place ∈ places, id place = (report.stepId, report.cycle) := by
    intro report here
    obtain ⟨low,high,step,mem,named,early,-⟩ := told.logged.within report here
    refine ⟨_,?_,rfl⟩
    rw [layout.parts] at mem
    have front : step ∈ talks ++ [build] → (report.stepId, report.cycle) ∈ places := by
      intro mine
      have kind : step.kind = .discuss ∨ step.kind = .implement := by
        rcases mem_append.mp mine with talk | last
        · exact .inl (layout.discuss step talk)
        · exact .inr (mem_singleton.mp last ▸ layout.implement)
      rw [early kind, ← named]
      exact mem_append_left _ (mem_map.mpr ⟨step,mine,rfl⟩)
    rcases mem_append.mp mem with talk | rest
    · exact front (mem_append_left _ talk)
    rcases mem_cons.mp rest with rfl | behind
    · exact front (mem_append_right _ mem_cons_self)
    apply mem_append_right
    have top := told.valid.cycle.2
    refine pair_mem_product.mpr ⟨mem_map.mpr ⟨step,behind,named⟩,
      mem_map.mpr ⟨report.cycle - 1,mem_range.mpr (by omega),by omega⟩⟩
  have count := length_le_of_keys nodup placed
  have size : places.length = talks.length + 1 +
      (checks.length + mends.length) * exec.configuration.maxReviewCycles := by
    simp only [places, length_append, length_map, length_product, length_range,
      length_cons, length_nil]
  rw [size] at count
  rw [talked, checked]
  have fixes : (checks.length + mends.length) * exec.configuration.maxReviewCycles ≤
      exec.configuration.maxReviewCycles * (checks.length + 1) := by
    rw [Nat.mul_comm]
    exact Nat.mul_le_mul_left _ (Nat.add_le_add_left layout.single _)
  omega

end Telling

def Fresh (execution : WorkflowExecution) : Prop :=
  execution.isValid = true ∧ ∃ id projectId taskId configuration goal coordinatorSessionId now,
    execution = startExecution id projectId taskId configuration goal coordinatorSessionId now

theorem fresh_told (fresh : Fresh exec) : Told [] exec := by
  obtain ⟨accepted,_,_,_,_,_,_,_,rfl⟩ := fresh
  refine ⟨isValid_iff.mp accepted,fun _ => rfl,⟨nofun,.nil,nofun,nofun,?_,
    fun _ => rfl⟩,⟨fun _ _ _ => nofun,fun _ here => absurd here not_mem_nil,nofun⟩⟩
  constructor
  · exact nofun
  · rintro ⟨_,_,wrong⟩
    cases wrong

theorem reports_append : reports (transitions ++ [transition]) =
      reports transitions ++ (reportOf transition).toList := by
  simp only [reports, filterMap_append, filterMap_cons, filterMap_nil]
  cases reportOf transition <;> rfl

theorem accepts_configuration {after : WorkflowExecution}
    (accepts : Accepts exec transition after) :
    after.configuration = exec.configuration := by
  obtain ⟨⟨now,moves⟩,-⟩ := accepts
  have same := moves_same moves
  simp only [WorkflowExecution.sameWorkflow, Bool.and_eq_true, beq_iff_eq, and_assoc] at same
  exact same.2.2.2.1

section Refinement
variable {daemon after : Daemon}

inductive Comes (daemon : Daemon) (execution : WorkflowExecution) : Prop where
  | stays (listed : execution ∈ daemon.core.workflowExecutions)
  | moves {expected : WorkflowExecution} {transition : Transition} {now : Nat}
      (listed : expected ∈ daemon.core.workflowExecutions)
      (moves : Moves now expected transition execution)
  | starts {id projectId : String} {taskId : Option String}
      {configuration : WorkflowConfiguration} {goal coordinatorSessionId : String} {now : Nat}
      (same : execution =
        startExecution id projectId taskId configuration goal coordinatorSessionId now)

theorem attempts_comes
    (attempts : Attempts daemon now error core) (mem : exec ∈ core.workflowExecutions) :
    Comes daemon exec := by
  cases attempts with
  | stays own => exact Comes.stays mem
  | replaces here moves known replaced reason =>
    rcases (replace_frame replaced).2.2 exec mem with rfl | old
    · exact Comes.moves here moves
    · exact Comes.stays old

theorem settle_comes (attempts : Attempts daemon now (failure ans.1) ans.2)
    (mem : exec ∈ (settle daemon now ans).2.core.workflowExecutions) :
    Comes daemon exec :=
  attempts_comes attempts mem

theorem stepPlans_executions (plans : StepPlans host ids token exec core ans) :
    ans.2.workflowExecutions = core.workflowExecutions := by
  cases plans with
  | refuses own => rfl
  | fails planned => exact planAskTo_executions planned
  | loses planned => exact planAskTo_executions planned
  | commits planned key => exact planAskTo_executions planned

theorem plans_comes (plans : DelegatePlans host ids token now saves daemon.core ans)
    (mem : exec ∈ ans.2.workflowExecutions) :
    Comes daemon exec := by
  cases plans with
  | refuses own => exact Comes.stays mem
  | unretried here phase discuss failed =>
    have attempts := Attempts.replaces here (Moves.retry phase discuss) nofun failed
      fun same => congrArg Except.error (Option.some.inj same)
    exact attempts_comes attempts mem
  | @retries _ middle _ here phase discuss done plans =>
    rw [stepPlans_executions plans] at mem
    have attempts : Attempts daemon now none middle :=
      Attempts.replaces here (Moves.retry phase discuss) nofun done nofun
    exact attempts_comes attempts mem
  | steps here plans =>
    rw [stepPlans_executions plans] at mem
    exact Comes.stays mem

theorem perform_comes (possible : Possible daemon call)
    (mem : exec ∈ (perform daemon call).2.core.workflowExecutions) :
    Comes daemon exec := by
  cases call with
  | start id pid tid config goal coordId now =>
    rcases mem_append.mp mem with old | new
    · exact Comes.stays old
    · exact Comes.starts (mem_singleton.mp new)
  | plan host ids profileResolves token msg now saves =>
    have plans := planWorkflowDelegate_plans (rfl : planWorkflowDelegate host ids profileResolves
      token msg now saves daemon.core = _)
    exact plans_comes plans mem
  | commit token commit now saves => exact settle_comes (commit_attempts possible.2) mem
  | deliver reqId now saves => exact settle_comes (deliver_attempts reqId) mem
  | report token outcome text now prompt submits saves =>
    exact settle_comes (report_attempts token outcome text prompt submits) mem
  | prompt coordId isWorkflowPrompt now saves =>
    exact settle_comes (prompt_attempts coordId isWorkflowPrompt) mem
  | ask host ids token params allowParallel =>
    have same := planAskTo_executions
      (rfl : planAskTo host ids token params allowParallel daemon.core = _)
    exact Comes.stays (same ▸ mem)
  | elsewhere core =>
    have same := possible.executions
    exact Comes.stays (same ▸ mem)

/-- In every run each execution of the daemon was started fresh and came to where it is by
    accepted transitions. -/
theorem daemon_moves_by_transitions (started : Started daemon) (run : Run Step daemon calls after) :
    ∀ exec ∈ after.core.workflowExecutions, ∃ start transitions,
      Fresh start ∧ Run Accepts start transitions exec := by
  let Inv := fun daemon : Daemon => Sound daemon ∧
    ∀ exec ∈ daemon.core.workflowExecutions, ∃ start transitions,
      Fresh start ∧ Run Accepts start transitions exec
  have keep {daemon call after} (inv : Inv daemon) (step : Step daemon call after) : Inv after := by
    obtain ⟨sound,reached⟩ := inv
    obtain ⟨possible,rfl⟩ := step
    have kept := (perform_sound sound possible).2
    refine ⟨kept,fun exec mem => ?_⟩
    have accepted := isValid_iff.mpr (kept.orderly exec mem).valid
    cases perform_comes possible mem with
    | stays old => exact reached exec old
    | moves old moves =>
      obtain ⟨start,transitions,fresh,pre⟩ := reached _ old
      exact ⟨start,_,fresh,run_snoc pre ⟨⟨_,moves⟩,accepted⟩⟩
    | starts same =>
      exact ⟨exec,[],⟨accepted,_,_,_,_,_,_,_,same⟩,Run.nil exec⟩
  have begin_ : Inv daemon := by
    refine ⟨started_sound started,?_⟩
    rw [started.executions]
    exact fun _ mem => absurd mem not_mem_nil
  exact (run_invariant Inv keep run begin_).2

theorem designed_execution_is_reached : ∃ after, Run Step emptyDaemon designAndBuild after ∧
    ∃ exec ∈ after.core.workflowExecutions, exec.phase = .completed ∧ ∃ start transitions,
      Fresh start ∧ Run Accepts start transitions exec := by
  obtain ⟨after,run,done⟩ := designAndBuild_runs
  obtain ⟨exec,mem,shape⟩ := mem_map.mp (done ▸ mem_cons_self : (_, _) ∈ map _ _)
  exact ⟨after,run,exec,mem,congrArg Prod.fst shape,
    daemon_moves_by_transitions emptyDaemon_started run exec mem⟩

end Refinement

/-- In every run of accepted transitions cycles and reports are bounded, and a completed
    workflow's outcome is its reviewers'. -/
theorem workflow_outcome_is_faithful {start after : WorkflowExecution}
    {transitions : List Transition} (fresh : Fresh start)
    (run : Run Accepts start transitions after) :
    after.configuration = start.configuration ∧
      after.reviewCycle ≤ after.configuration.maxReviewCycles ∧
      (reports transitions).length ≤ (discussSteps after).length + 1 +
        after.configuration.maxReviewCycles * (after.reviewSteps.length + 1) ∧
      (after.phase = .completed → Faithful (reports transitions) after) := by
  have told := run_history_invariant (fun past => Told (reports past))
    (fun told accepts => reports_append ▸ told_accepts told accepts) run [] (fresh_told fresh)
  have same := run_invariant (fun execution => execution.configuration = start.configuration)
    (fun same accepts => (accepts_configuration accepts).trans same) run rfl
  refine ⟨same,told.valid.cycle.2,reports_bounded told,fun done => ?_⟩
  cases asked : after.reviewChangesRequested with
  | true => exact faithful_changes told done asked
  | false => exact faithful_content told done asked

def buildStep : WorkflowStep :=
  { id := "build", kind := .implement, title := "Build", instructions := "Build it" }

def checkStep : WorkflowStep :=
  { id := "check", kind := .review, title := "Check", instructions := "Check it"
    agentId := some "codex", launchSelection := some designFirst.launchSelection }

def mendStep : WorkflowStep :=
  { id := "mend", kind := .fix, title := "Mend", instructions := "Mend it" }

def checkedBuild : WorkflowConfiguration :=
  { designFirst with steps := [buildStep, checkStep, mendStep] }

def checking : WorkflowExecution :=
  startExecution "execution" "project" none checkedBuild "A goal" "coordinator" 1

/-- The reviewer asks for changes in the only cycle there is. -/
def sentBack : List Transition :=
  [.report "build" 1 .completed, .prompt, .delegate "check" "request" "helper", .reply "request",
    .report "check" 1 .changesRequested, .prompt, .report "mend" 1 .completed]

theorem sent_back_reaches_limit :
    ∃ after, Run Accepts checking sentBack after ∧ after.phase = .completed ∧
      after.completionOutcome = some .reviewLimitReached ∧
      after.configuration = checking.configuration ∧
      after.reviewCycle ≤ after.configuration.maxReviewCycles ∧
      (reports sentBack).length ≤ (discussSteps after).length + 1 +
        after.configuration.maxReviewCycles * (after.reviewSteps.length + 1) ∧
      (after.phase = .completed → Faithful (reports sentBack) after) := by
  have reaches : ∃ after, Run Accepts checking sentBack after ∧ after.phase = .completed ∧
      after.completionOutcome = some .reviewLimitReached := by
    refine ⟨_,Run.cons ⟨⟨2,@Moves.report 2 checking buildStep .completed "Built"
        ⟨rfl,rfl,rfl,⟨"completed",rfl⟩,by decide⟩⟩,by decide⟩
      (Run.cons ⟨⟨3,Moves.prompt rfl⟩,by decide⟩
      (Run.cons ⟨⟨4,@Moves.delegate 4 _ checkStep "check" "request" "helper" rfl rfl rfl rfl⟩,by decide⟩
      (Run.cons ⟨⟨5,Moves.reply rfl⟩,by decide⟩
      (Run.cons ⟨⟨6,@Moves.report 6 _ checkStep .changesRequested "Mend this"
        ⟨rfl,rfl,rfl,⟨"changesRequested",rfl⟩,by decide⟩⟩,by decide⟩
      (Run.cons ⟨⟨7,Moves.prompt rfl⟩,by decide⟩
      (run_single ⟨⟨8,@Moves.report 8 _ mendStep .completed "Mended"
        ⟨rfl,rfl,rfl,⟨"completed",rfl⟩,by decide⟩⟩,by decide⟩)))))),rfl,rfl⟩
  obtain ⟨after,run,done,outcome⟩ := reaches
  have fresh : Fresh checking := ⟨by decide,_,_,_,_,_,_,_,rfl⟩
  exact ⟨after,run,done,outcome,workflow_outcome_is_faithful fresh run⟩

end TermloopVerdict

import Termloop.Store.SessionAdmission
import Termloop.Store.WorktreeJournals

/-!
The marks that say where a setup command has run. A launch under the policy "once per
worktree" skips the setup where a mark of the present generation stands, so a mark must
not outlive the directory it is about. Two journals remove directories: the cleanup drops
the marks of the path that it frees, the stale resolution keeps them.
-/
namespace TermloopSetup
open TermloopRecordLists TermloopOutcome TermloopRuns TermloopStore TermloopSessions List
open TermloopJournals (JournalAction)

inductive RunSetupPolicy where
  | never | always | oncePerWorktree

structure LaunchedConfiguration extends RunConfiguration where
  setupCommand : Option String
  setupPolicy : RunSetupPolicy
  generation : Nat

def setupNeeded (file : StateFile) (configuration : LaunchedConfiguration)
    (checkoutPath : String) (forceSetup : Bool) : Bool :=
  configuration.setupCommand.isSome
    && match configuration.setupPolicy with
      | .never => false
      | .always => true
      | .oncePerWorktree => forceSetup || !file.runSetupMarks.any fun mark =>
        mark.configurationId == configuration.id && mark.worktreePath == checkoutPath
          && mark.configurationGeneration == configuration.generation

def boundPath (file : StateFile) (taskId : String) : Option String :=
  ((file.task? taskId).bind (·.worktree)).map (·.path)

def marksAfter (file : StateFile) : JournalAction → Except StoreError Unit → List RunSetupMark
  | .completeCleanup taskId _ _, .ok () =>
    file.runSetupMarks.filter fun mark => boundPath file taskId != some mark.worktreePath
  | _, _ => file.runSetupMarks

def journalOnFile (action : JournalAction) (persisted : Bool) (file : StateFile) :
    FileAnswer Unit :=
  let answer := TermloopJournals.perform persisted file.toCurrentState action
  (answer.1, { file with
    toCurrentState := answer.2, runSetupMarks := marksAfter file action answer.1 })

def recordRunSetupMark (mark : RunSetupMark) (persisted : Bool) (file : StateFile) :
    FileAnswer Unit :=
  if !mark.isValid || !file.runConfigurations.any fun configuration =>
      configuration.id == mark.configurationId && configuration.projectId == mark.projectId then
    (.error .constraintViolation, file)
  else
    commitFile persisted file
      { file with runSetupMarks := replaceBoundedSetupMark mark file.runSetupMarks } ()

inductive SetupAction where
  | journal (action : JournalAction) (persisted : Bool)
  | completeSetup (mark : RunSetupMark) (persisted : Bool)
  | insertRun (session : SessionRecord) (setupMark : Option RunSetupMark) (persisted : Bool)

def Step (file : StateFile) (action : SetupAction) (after : StateFile) : Prop :=
  match action with
  | .journal action persisted => (journalOnFile action persisted file).2 = after
  | .completeSetup mark persisted => (recordRunSetupMark mark persisted file).2 = after
  | .insertRun session setupMark persisted =>
    (insertRunSession session setupMark persisted file).2 = after

/-- The call does not record a setup that has completed at the path. -/
def NoSetupAt (path : String) (_ : StateFile) : SetupAction → Prop
  | .completeSetup mark _ => mark.worktreePath ≠ path
  | .insertRun _ setupMark _ => ∀ mark, setupMark = some mark → mark.worktreePath ≠ path
  | .journal _ _ => True

/-- The calls that record the proven removal of the managed checkout at a path. -/
inductive Removes (file : StateFile) (path : String) : JournalAction → Bool → Prop where
  | cleanup {taskId operationId : String} {completedAt : Nat} {persisted : Bool}
      {operation : WorktreeCleanupOperation} (bound : boundPath file taskId = some path)
      (current : checkedCurrentCleanup file.toCurrentState taskId operationId = .ok operation)
      (verified : operation.stage = .removalVerified)
      (accepted : (journalOnFile (.completeCleanup taskId operationId completedAt) persisted
        file).1 = .ok ()) :
      Removes file path (.completeCleanup taskId operationId completedAt) persisted
  | discard {taskId operationId : String} {completedAt : Nat} {persisted : Bool}
      {operation : WorktreeStaleResolutionOperation} (bound : boundPath file taskId = some path)
      (current : file.staleResolutionOperations.find? (resolves taskId operationId) =
        some operation)
      (mode : operation.mode = .discardDirectory)
      (accepted : (journalOnFile (.completeStaleResolution taskId operationId completedAt)
        persisted file).1 = .ok ()) :
      Removes file path (.completeStaleResolution taskId operationId completedAt) persisted

def Unmarked (path : String) (file : StateFile) : Prop :=
  ∀ mark ∈ file.runSetupMarks, mark.worktreePath ≠ path

section Marks
variable {file after : StateFile} {path : String} {mark other : RunSetupMark}

theorem mem_makeRoom (kept : mark ∈ makeRoom pid passes marks) : mark ∈ marks := by
  induction passes generalizing marks with
  | zero => exact kept
  | succ passes ih =>
    dsimp only [makeRoom] at kept
    iterate 2 (split at kept; · exact kept)
    · exact mem_of_mem_erase (ih kept)

theorem mem_replaceBoundedSetupMark
    (kept : other ∈ replaceBoundedSetupMark mark marks) : other ∈ marks ∨ other = mark := by
  rcases mem_append.mp kept with old | new
  · exact .inl (mem_of_mem_filter (mem_makeRoom old))
  · exact .inr (mem_singleton.mp new)

theorem unmarked_commit (pre : Unmarked path file) (unmarked : Unmarked path edited) :
    Unmarked path (commitFile saves file edited value).2 := by
  cases saves with
  | false => exact pre
  | true => exact unmarked

theorem unmarked_replaced (pre : Unmarked path file) (elsewhere : mark.worktreePath ≠ path)
    (marks : after.runSetupMarks = replaceBoundedSetupMark mark file.runSetupMarks) :
    Unmarked path after := by
  intro other mem
  rcases mem_replaceBoundedSetupMark (marks ▸ mem) with old | rfl
  · exact pre other old
  · exact elsewhere

theorem step_unmarked (pre : Unmarked path file)
    (quiet : NoSetupAt path file action) (step : Step file action after) :
    Unmarked path after := by
  cases action with
  | journal action saves =>
    subst step
    dsimp only [journalOnFile, marksAfter]
    split
    · exact fun mark kept => pre mark (mem_of_mem_filter kept)
    · exact pre
  | completeSetup mark saves =>
    subst step
    unfold recordRunSetupMark
    split
    · exact pre
    · exact unmarked_commit pre (unmarked_replaced pre quiet rfl)
  | insertRun sess setupMark saves =>
    subst step
    unfold insertRunSession
    iterate 2 (split; · exact pre)
    refine unmarked_commit pre ?_
    cases setupMark with
    | none => exact pre
    | some mark => exact unmarked_replaced pre (quiet mark rfl) rfl

theorem setup_needed_of_unmarked (unmarked : Unmarked path file) (has : config.setupCommand.isSome)
    (once : config.setupPolicy = .oncePerWorktree) :
    setupNeeded file config path forceSetup := by
  have skipped : (file.runSetupMarks.any fun mark => mark.configurationId == config.id
      && mark.worktreePath == path
      && mark.configurationGeneration == config.generation) = false := by
    rw [any_eq_false]
    intro mark mem
    simp [unmarked mark mem]
  simp [setupNeeded, has, once, skipped]

/-- After a proven removal no mark stands until a setup completes, and a launch runs it,
    exactly when the removal was a cleanup or there was no mark. -/
theorem removed_checkout_is_set_up_again_iff {action : JournalAction} {persisted : Bool}
    (removes : Removes file path action persisted)
    (step : Step file (.journal action persisted) after) :
    (∀ later final, Run (Guarded (NoSetupAt path) Step) after later final →
      Unmarked path final ∧ ∀ configuration forceSetup,
        configuration.setupCommand.isSome = true → configuration.setupPolicy = .oncePerWorktree →
        setupNeeded final configuration path forceSetup = true) ↔
      (∃ taskId operationId completedAt, action = .completeCleanup taskId operationId completedAt) ∨
        Unmarked path file := by
  constructor
  · intro always
    have none_left := (always [] after (Run.nil after)).1
    subst step
    cases removes with
    | cleanup => exact .inl ⟨_,_,_,rfl⟩
    | discard => exact .inr none_left
  · intro freed later final run
    have now : Unmarked path after := by
      rcases freed with ⟨taskId,operationId,completedAt,rfl⟩ | before
      · subst step
        cases removes with
        | cleanup bound current verified accepted =>
          intro mark listed same
          simp only [journalOnFile] at accepted listed
          rw [accepted] at listed
          have kept := (mem_filter.mp listed).2
          simp [bound, same] at kept
      · exact step_unmarked before (show NoSetupAt path file (.journal _ _) from trivial) step
    have unmarked := guarded_run_invariant (Unmarked path) step_unmarked run now
    exact ⟨unmarked,fun _ _ => setup_needed_of_unmarked unmarked⟩

end Marks

def setupMark : RunSetupMark := ⟨"project", "dev", "/worktree", 1, 5⟩

def devConfiguration : LaunchedConfiguration :=
  ⟨⟨"dev", "project"⟩, some "pnpm install", .oncePerWorktree, 1⟩

def cleaned : StateFile :=
  { TermloopReceipts.movingState with
    sessions := [], agentConversationReadiness := [], sessionRelocationOperations := []
    cleanupOperations := [{ TermloopReceipts.cleanupOfTask with stage := .removalVerified }]
    runConfigurations := [⟨"dev", "project"⟩], runSetupMarks := [setupMark] }

/-- The mark goes with the cleanup, and the next launch runs the setup. -/
theorem cleaned_checkout_is_set_up_again : ¬ Unmarked "/worktree" cleaned ∧
      Removes cleaned "/worktree" (.completeCleanup "task" "clean" 9) true ∧
      ∀ later final, Run (Guarded (NoSetupAt "/worktree") Step)
        (journalOnFile (.completeCleanup "task" "clean" 9) true cleaned).2 later final →
        Unmarked "/worktree" final ∧ setupNeeded final devConfiguration "/worktree" false = true := by
  have removes : Removes cleaned "/worktree" (.completeCleanup "task" "clean" 9) true :=
    .cleanup rfl rfl rfl rfl
  refine ⟨fun unmarked => unmarked _ mem_cons_self rfl,removes,fun later final run => ?_⟩
  have again := (removed_checkout_is_set_up_again_iff removes rfl).mpr (.inl ⟨_,_,_,rfl⟩)
  exact (again later final run).imp_right fun needed => needed devConfiguration false rfl rfl

def discarded : StateFile :=
  { cleaned with
    cleanupOperations := []
    staleResolutionOperations :=
      [{ operationId := "discard", taskId := "task", managedWorktreeOperationId := some "provision"
         worktreeGeneration := 1, targetPath := "/worktree", mode := .discardDirectory
         stage := .removalVerified, startedAt := 1, updatedAt := 1 }] }

/-- The mark outlives the directory, and the next checkout there is not set up. -/
theorem discarded_checkout_keeps_its_mark : validateStateFile discarded = .ok () ∧
      Removes discarded "/worktree" (.completeStaleResolution "task" "discard" 9) true ∧
      ∃ after, Step discarded (.journal (.completeStaleResolution "task" "discard" 9) true) after ∧
        ¬ Unmarked "/worktree" after ∧
        setupNeeded after devConfiguration "/worktree" false = false :=
  ⟨rfl,.discard rfl rfl rfl rfl,_,rfl,fun unmarked => unmarked _ mem_cons_self rfl,rfl⟩

end TermloopSetup

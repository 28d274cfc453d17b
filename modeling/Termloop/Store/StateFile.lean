import Termloop.Store.SessionRecords
import Termloop.Core.Workflow

/-!
The state file as the Session operations see it: the records of the journals, and
beside them the tables that have to keep step with the Sessions. These are the
deleted descriptors, the executors of Stewards, run configurations with their setup
marks, the current workflow executions, the profiles pinned to Sessions and the last
launch choice. The load-time check of the whole file comes last.
-/
namespace TermloopSessions
open TermloopRecordLists TermloopOutcome TermloopSaturating TermloopText TermloopStore
open TermloopWorkflow

inductive StewardAgentId where
  | claude | codex

def StewardAgentId.name : StewardAgentId → String
  | .claude => "claude"
  | .codex => "codex"

structure PlaybookEvaluatorSettings where
  codexModel : Option String := none
  claudeModel : Option String := none
  permission : String := "plan"

structure StewardConfiguration where
  projectId : String
  agentId : StewardAgentId
  (model permission reasoning : String)
  playbookEvaluator : PlaybookEvaluatorSettings
  enabled : Bool
  systemPrompt : String
  executorSessionId : Option String
  (generation updatedAt : Nat)

structure StewardConversationRef where
  projectId : String
  resumeRef : ResumeRef

structure DeletedSessionRecord where
  session : SessionRecord
  deletedAt : Nat
  conversationReadiness : AgentConversationReadiness

/-- A deleted Agent can be brought back for thirty days. -/
def deletedSessionRetentionMs : Nat := 30 * 24 * 60 * 60 * 1000

def DeletedSessionRecord.purgeAt (deleted : DeletedSessionRecord) : Nat :=
  saturatingAdd deleted.deletedAt deletedSessionRetentionMs

structure RunConfiguration where
  (id projectId : String)

structure RunSetupMark where
  (projectId configurationId worktreePath : String)
  (configurationGeneration completedAt : Nat)
  deriving DecidableEq

structure PersonalAgent where
  id : String
  version : Nat
  (name description category instructions agentId : String)
  selection : AgentLaunchSelection

structure SessionAgentProfile where
  sessionId : String
  agent : PersonalAgent

structure SavedAgentLaunchSelection where
  agentId : String
  selection : AgentLaunchSelection

structure StateFile extends CurrentState where
  deletedSessions : List DeletedSessionRecord := []
  stewardConfigurations : List StewardConfiguration := []
  stewardConversationRefs : List StewardConversationRef := []
  runConfigurations : List RunConfiguration := []
  runSetupMarks : List RunSetupMark := []
  workflowExecutions : List WorkflowExecution := []
  sessionAgentProfiles : List SessionAgentProfile := []
  lastAgentLaunchSelection : Option SavedAgentLaunchSelection := none

/-- What an operation on the file answers, and the file it leaves in memory. -/
abbrev FileAnswer (α : Type) : Type := Outcome StoreError StateFile α

/-- Profiles stay only with Sessions that are listed or can still be restored. -/
def pruneSessionProfiles (file : StateFile) : StateFile :=
  { file with
    sessionAgentProfiles := file.sessionAgentProfiles.filter fun entry =>
      file.sessions.any (·.id == entry.sessionId)
        || file.deletedSessions.any (·.session.id == entry.sessionId) }

def commitFile {α : Type} (persisted : Bool) (previous changed : StateFile) (answer : α) :
    FileAnswer α :=
  if persisted then
    (.ok answer, { pruneSessionProfiles changed with revision := changed.revision + 1 })
  else (.error .io, previous)

/-- Bounded in characters, not blank, and no control characters but line breaks and tabs. -/
def plainText (value : String) (maxChars : Nat) : Bool :=
  !isBlank value && decide (value.toList.length ≤ maxChars)
    && !value.toList.any fun c => isControl c && !(c == '\n' || c == '\r' || c == '\t')

def agentInstructionsMax : Nat := 32 * 1024

def PersonalAgent.isValid (agent : PersonalAgent) : Bool :=
  validAgentProfileId agent.id
    && decide (0 < agent.version)
    && plainText agent.name 80
    && plainText agent.description 240
    && plainText agent.category 40
    && plainText agent.instructions agentInstructionsMax
    && decide (agent.instructions.utf8ByteSize ≤ agentInstructionsMax)
    && (agent.agentId == "claude" || agent.agentId == "codex")
    && agent.selection.isWellFormed

def SavedAgentLaunchSelection.isValid (saved : SavedAgentLaunchSelection) : Bool :=
  agentIdIsWellFormed saved.agentId && saved.selection.isWellFormed

def personalTemplate : String := "builtin.agent.personal"

def sessionMatchesAgentProfile (session : SessionRecord) (agent : PersonalAgent) : Bool :=
  session.kind == .agent
    && session.process.agentId == some agent.agentId
    && (session.process.templateRef == some personalTemplate
      || session.process.templateRef == some askToHelperTemplate)

def RunSetupMark.isValid (mark : RunSetupMark) : Bool :=
  !isBlank mark.projectId
    && !isBlank mark.configurationId
    && decide (mark.configurationId.utf8ByteSize ≤ 64)
    && !isBlank mark.worktreePath
    && decide (1 ≤ mark.configurationGeneration)
    && decide (0 < mark.completedAt)

def validAssistantLaunchOption (value : String) : Bool :=
  !value.isEmpty && decide (value.utf8ByteSize ≤ 128) && !value.toList.any isControl

def validAssistantPermission (value : String) : Bool :=
  ["default", "acceptEdits", "plan", "bypassPermissions"].contains value

def PlaybookEvaluatorSettings.isValid (settings : PlaybookEvaluatorSettings) : Bool :=
  [settings.codexModel, settings.claudeModel].all (fun model => model.all fun model =>
      validAssistantLaunchOption model && decide (model.utf8ByteSize ≤ 80))
    && validAssistantPermission settings.permission

def StewardConfiguration.isValid (configuration : StewardConfiguration) : Bool :=
  !isBlank configuration.projectId
    && decide (0 < configuration.generation)
    && validAssistantLaunchOption configuration.model
    && validAssistantPermission configuration.permission
    && validAssistantLaunchOption configuration.reasoning
    && configuration.playbookEvaluator.isValid
    && decide (configuration.systemPrompt.utf8ByteSize ≤ 16 * 1024)
    && (configuration.systemPrompt.isEmpty || !isBlank configuration.systemPrompt)

def AgentLaunchSelection.isDefault (selection : AgentLaunchSelection) : Bool :=
  selection.model == "default" && selection.permission == "default"
    && selection.reasoning == "default" && selection.accountId.isNone

/-- Kinds that improve one thing carry its id; others none, and a workflow draft either. -/
def ImproverSessionTarget.isWellFormed (target : ImproverSessionTarget) : Bool :=
  match target.targetKind, target.targetId with
  | .workflowDraft, none => true
  | .stewardInstructions, id | .routineBuilder, id | .playbook, id | .agentCreator, id => id.isNone
  | _, some id =>
    !id.isEmpty && decide (id.utf8ByteSize ≤ 4096) && !id.toList.any isControl
  | _, none => false

def ImproverSessionTargetKind.template : ImproverSessionTargetKind → String
  | .agentCreator => "builtin.builder.agent"
  | .workflowDraft => "builtin.builder.workflow"
  | .stewardInstructions => "builtin.improver.steward-instructions"
  | .routineInstructions => "builtin.improver.routine-instructions"
  | .routineBuilder => "builtin.builder.routine"
  | .playbook => "builtin.builder.playbook"
  | .runConfiguration => "builtin.improver.run-configuration"
  | .newRunConfiguration => "builtin.improver.run-configuration-new"
  | .settingsSkill => "builtin.improver.skill-definition"
  | .settingsPrompt => "builtin.improver.prompt-asset"
  | .settingsMcpTool => "builtin.improver.mcp-tool-description"

/-- `sessions_are_invalid` on launch choices, forks, runs and improvers. -/
def sessionOriginsAreInvalid (file : StateFile) : Bool :=
  file.sessions.any fun session =>
    (match session.kind with
      | .agent => !session.launchSelection.isWellFormed
      | .terminal => !AgentLaunchSelection.isDefault session.launchSelection)
      || session.forkSourceSessionId.any (fun sourceId =>
        sourceId.isEmpty || session.kind != .agent || sourceId == session.id)
      || session.runConfigurationId.any (fun id =>
        session.kind != .terminal || !file.runConfigurations.any fun configuration =>
          configuration.id == id && configuration.projectId == session.projectId)
      || session.improverTarget.any fun target =>
        session.kind != .agent
          || !ImproverSessionTarget.isWellFormed target
          || session.process.templateRef
            != some (ImproverSessionTargetKind.template target.targetKind)

def ownershipUncertain (session : SessionRecord) : Bool :=
  session.resumeFailure == some .runtimeOwnershipUncertain
    || session.resumeFailure == some .runtimeConflict

def endedLifecycle (session : SessionRecord) : Bool :=
  ["exited", "stale", "resumeFailed"].contains session.lifecycleState

def deletedSessionsAreInvalid (file : StateFile) : Bool :=
  anyWithLater (fun deleted later =>
    deleted.deletedAt == 0
      || deleted.session.kind != .agent
      || deleted.session.process.agentId.isNone
      || !deleted.session.launchSelection.isWellFormed
      || deleted.session.archivedAt.isSome
      || !endedLifecycle deleted.session
      || ownershipUncertain deleted.session
      || deleted.session.askToContinuation.isSome
      || file.sessions.any (·.id == deleted.session.id)
      || later.any (·.session.id == deleted.session.id))
    file.deletedSessions

def sessionProfilesAreInvalid (file : StateFile) : Bool :=
  let sessions := file.sessions ++ file.deletedSessions.map (·.session)
  anyWithLater (fun entry later =>
      !entry.agent.isValid
        || later.any (·.sessionId == entry.sessionId)
        || !sessions.any fun session =>
          session.id == entry.sessionId && sessionMatchesAgentProfile session entry.agent)
      file.sessionAgentProfiles
    || sessions.any fun session =>
      session.process.templateRef == some personalTemplate
        && !file.sessionAgentProfiles.any (·.sessionId == session.id)

def stewardConfigurationsAreInvalid (file : StateFile) : Bool :=
  anyWithLater (fun configuration later =>
    !configuration.isValid
      || !file.projects.any (·.id == configuration.projectId)
      || later.any (·.projectId == configuration.projectId)
      || configuration.executorSessionId.any fun sessionId =>
        !file.sessions.any fun session =>
          session.id == sessionId && session.projectId == configuration.projectId)
    file.stewardConfigurations

def stewardConversationRefsAreInvalid (file : StateFile) : Bool :=
  anyWithLater (fun conversation later =>
    isBlank conversation.projectId
      || !conversation.resumeRef.validate
      || (file.stewardConfigurations.find?
          (·.projectId == conversation.projectId)).all (fun configuration =>
        !providerMatchesAgent conversation.resumeRef.provider (some configuration.agentId.name))
      || later.any (·.projectId == conversation.projectId))
    file.stewardConversationRefs

def runConfigurationsAreInvalid (file : StateFile) : Bool :=
  file.projects.any (fun project =>
      decide (16 < (file.runConfigurations.filter (·.projectId == project.id)).length))
    || anyWithLater (fun configuration later =>
      !file.projects.any (·.id == configuration.projectId)
        || later.any (·.id == configuration.id))
      file.runConfigurations

def runSetupMarksMax : Nat := 128

def runSetupMarksAreInvalid (file : StateFile) : Bool :=
  file.projects.any (fun project =>
      decide (runSetupMarksMax < (file.runSetupMarks.filter (·.projectId == project.id)).length))
    || anyWithLater (fun mark later =>
      !mark.isValid
        || !file.runConfigurations.any (fun configuration =>
          configuration.id == mark.configurationId && configuration.projectId == mark.projectId)
        || later.any fun candidate =>
          candidate.configurationId == mark.configurationId
            && candidate.worktreePath == mark.worktreePath)
      file.runSetupMarks

def sharesScope (left right : WorkflowExecution) : Bool :=
  left.projectId == right.projectId && left.taskId == right.taskId

def workflowExecutionsAreInvalid (file : StateFile) : Bool :=
  anyWithLater (fun execution later =>
    !execution.isValid
      || !file.projects.any (fun project =>
        project.id == execution.projectId && execution.configuration.projectId == project.id)
      || execution.taskId.any (fun taskId => !file.tasks.any fun task =>
        task.id == taskId && task.projectId == execution.projectId)
      || later.any fun candidate => candidate.id == execution.id || sharesScope candidate execution)
    file.workflowExecutions

def taskBriefsAreInvalid (tasks : List TaskRecord) : Bool :=
  tasks.any fun task =>
    task.stewardBriefRevision == 0
      || decide (8 * 1024 < task.stewardBriefMarkdown.utf8ByteSize)
      || (!task.stewardBriefMarkdown.isEmpty && isBlank task.stewardBriefMarkdown)

def validateStateFile (file : StateFile) : Except StoreError Unit :=
  if sessionProfilesAreInvalid file
      || stewardConfigurationsAreInvalid file
      || stewardConversationRefsAreInvalid file
      || runConfigurationsAreInvalid file
      || workflowExecutionsAreInvalid file
      || runSetupMarksAreInvalid file
      || sessionOriginsAreInvalid file
      || deletedSessionsAreInvalid file
      || file.lastAgentLaunchSelection.any (fun saved => !saved.isValid)
      || taskBriefsAreInvalid file.tasks then .error .corruptRecord
  else validateCurrentState file.toCurrentState

end TermloopSessions

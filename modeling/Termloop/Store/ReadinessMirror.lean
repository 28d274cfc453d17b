import Mathlib.Data.List.Nodup
import Mathlib.Data.List.Perm.Subperm
import Termloop.Lib.Runs
import Termloop.Store.SessionSweeps

/-!
Readiness records and Agent Sessions. Many operations add or take out Sessions, each
through helpers of its own, and the readiness table has to follow all of them. Seen from
the table only three lists of ids matter: the Agents, the other Sessions and the records.
Every operation is a few moves on these lists, and a move keeps the records a
rearrangement of the Agents.
-/
namespace TermloopMirror
open TermloopRecordLists TermloopOutcome TermloopRuns TermloopStore TermloopSessions
open List hiding beq_eq_decide
variable {sid : String} {after file : StateFile} {sess : SessionRecord}

structure Roster where
  (agents others records : List String)

/-- Records name each Agent once and nobody else; no other Session has an Agent's id. -/
structure InStep (roster : Roster) : Prop where
  distinct : roster.agents.Nodup
  apart : ∀ id ∈ roster.agents, id ∉ roster.others
  mirrored : roster.records.Perm roster.agents

inductive Move (roster after : Roster) : Prop where
  | enlist (id : String) (free : id ∉ roster.agents) (unshared : id ∉ roster.others)
      (agents : after.agents = roster.agents ++ [id])
      (others : after.others = roster.others)
      (records : after.records = roster.records ++ [id])
  | seat (id : String) (free : id ∉ roster.agents)
      (agents : after.agents = roster.agents)
      (others : after.others = roster.others ++ [id])
      (records : after.records = roster.records)
  | leave (gone : List String)
      (agents : after.agents = roster.agents.filter fun id => !gone.contains id)
      (others : after.others.Sublist roster.others)
      (records : after.records = roster.records.filter fun id => !gone.contains id)

abbrev Moves : Roster → Roster → Prop := Relation.ReflTransGen Move

theorem move_inStep {roster after : Roster} (inStep : InStep roster) (move : Move roster after) :
    InStep after := by
  cases move with
  | enlist id free unshared agents others records =>
    refine ⟨?_,?_,?_⟩
    · rw [agents, nodup_append]
      refine ⟨inStep.distinct,by simp,?_⟩
      intro known member new same equal
      exact free (mem_singleton.mp same ▸ equal ▸ member)
    · intro known member
      rw [others]
      rcases mem_append.mp (agents ▸ member) with old | new
      · exact inStep.apart known old
      · exact mem_singleton.mp new ▸ unshared
    · rw [agents, records]
      exact inStep.mirrored.append_right [id]
  | seat id free agents others records =>
    refine ⟨agents ▸ inStep.distinct,?_,?_⟩
    · intro known member seated
      rw [agents] at member
      rcases mem_append.mp (others ▸ seated) with old | new
      · exact inStep.apart known member old
      · exact free (mem_singleton.mp new ▸ member)
    · rw [agents, records]
      exact inStep.mirrored
  | leave gone agents others records =>
    refine ⟨agents ▸ inStep.distinct.filter _,?_,?_⟩
    · intro known member seated
      rw [agents] at member
      exact inStep.apart known (mem_of_mem_filter member) (others.subset seated)
    · rw [agents, records]
      exact inStep.mirrored.filter _

theorem moves_inStep {roster after : Roster} (moves : Moves roster after)
    (inStep : InStep roster) : InStep after := by
  induction moves with
  | refl => exact inStep
  | tail _ last ih => exact move_inStep ih last

def idsOf (kind : SessionKind) (sessions : List SessionRecord) : List String :=
  (sessions.filter (·.kind == kind)).map (·.id)

def roster (file : StateFile) : Roster :=
  { agents := idsOf .agent file.sessions, others := idsOf .terminal file.sessions
    records := file.agentConversationReadiness.map (·.sessionId) }

section Ids
variable {kind : SessionKind} {sessions : List SessionRecord}

theorem mem_idsOf {id : String} :
    id ∈ idsOf kind sessions ↔ ∃ sess ∈ sessions, sess.kind = kind ∧ sess.id = id := by
  simp [idsOf, and_assoc]

theorem idsOf_map (ids : ∀ sess, (change sess).id = sess.id)
    (kinds : ∀ sess, (change sess).kind = sess.kind) :
    idsOf kind (sessions.map change) = idsOf kind sessions := by
  simp [idsOf, filter_map, Function.comp_def, ids, kinds]

theorem idsOf_filter (keep : String → Bool) :
    idsOf kind (sessions.filter fun sess => keep sess.id) = (idsOf kind sessions).filter keep := by
  simp [idsOf, filter_map, filter_filter, Function.comp_def, Bool.and_comm]

theorem idsOf_sublist (sublist : fewer.Sublist sessions) :
    (idsOf kind fewer).Sublist (idsOf kind sessions) :=
  (sublist.filter _).map _

theorem idsOf_forgetAskTo :
    idsOf kind (sessions.map (SessionRecord.forgetAskTo sid)) = idsOf kind sessions := by
  apply idsOf_map
  · intro sess
    unfold SessionRecord.forgetAskTo
    split <;> rfl
  · intro sess
    unfold SessionRecord.forgetAskTo
    split <;> rfl

theorem idsOf_forgetAskToEach :
    idsOf kind (forgetAskToEach removed sessions) = idsOf kind sessions := by
  induction removed generalizing sessions with
  | nil => rfl
  | cons id rest ih =>
    rw [forgetAskToEach, foldl_cons]
    exact ih.trans idsOf_forgetAskTo

theorem idsOf_cons : idsOf kind (first :: rest) =
      if first.kind = kind then first.id :: idsOf kind rest else idsOf kind rest := by
  by_cases same : first.kind = kind <;> simp [idsOf, same]

theorem filter_absent {ids : List String} {id : String} (absent : id ∉ ids) :
    ids.filter (fun other => !([id].contains other)) = ids := by
  apply filter_eq_self.mpr
  intro other member
  simpa using fun same : other = id => absent (same ▸ member)

theorem agents_eraseP (distinct : (idsOf .agent sessions).Nodup)
    (apart : ∀ id ∈ idsOf .agent sessions, id ∉ idsOf .terminal sessions) :
    idsOf .agent (sessions.eraseP (·.id == sid)) =
      (idsOf .agent sessions).filter fun id => !([sid].contains id) := by
  induction sessions with
  | nil => rfl
  | cons first rest ih =>
    have later : ∀ id ∈ idsOf .agent rest, id ∉ idsOf .terminal rest := by
      intro id member terminal
      have grow : ∀ kind, (idsOf kind rest).Sublist (idsOf kind (first :: rest)) :=
        fun _ => idsOf_sublist (sublist_cons_self first rest)
      exact apart id ((grow _).subset member) ((grow _).subset terminal)
    rw [idsOf_cons] at distinct
    by_cases wanted : first.id = sid
    · rw [eraseP_cons_of_pos (by simpa using wanted), idsOf_cons]
      cases kind : first.kind with
      | agent =>
        rw [if_pos kind] at distinct
        have absent : sid ∉ idsOf .agent rest := wanted ▸ (nodup_cons.mp distinct).1
        simpa [wanted] using (filter_absent absent).symm
      | terminal =>
        have absent : sid ∉ idsOf .agent rest := by
          intro member
          apply apart sid <;> simp [idsOf_cons, kind, member, wanted]
        simpa using (filter_absent absent).symm
    · rw [eraseP_cons_of_neg (by simpa using wanted), idsOf_cons, idsOf_cons]
      cases kind : first.kind with
      | agent =>
        rw [if_pos kind] at distinct
        simpa [wanted] using ih (nodup_cons.mp distinct).2 later
      | terminal =>
        simp only [kind, reduceCtorEq, if_false] at distinct ⊢
        exact ih distinct later

theorem agents_without_project (distinct : (idsOf .agent sessions).Nodup)
    (apart : ∀ id ∈ idsOf .agent sessions, id ∉ idsOf .terminal sessions) :
    idsOf .agent (sessions.filter (·.projectId != pid)) = (idsOf .agent sessions).filter fun id =>
        !((sessions.filter (·.projectId == pid)).map (·.id)).contains id := by
  rw [← idsOf_filter]
  unfold idsOf
  rw [filter_filter, filter_filter]
  congr 1
  apply filter_congr
  intro sess here
  by_cases agent : sess.kind = .agent
  · -- a Session of the Project with this id can only be the Agent itself
    have own : ∀ other ∈ sessions, other.id = sess.id → other = sess := by
      intro other member same
      cases kind : other.kind with
      | agent =>
        exact inj_on_of_nodup_map distinct (mem_filter.mpr ⟨member,by simp [kind]⟩)
          (mem_filter.mpr ⟨here,by simp [agent]⟩) same
      | terminal =>
        exact absurd (mem_idsOf.mpr ⟨other,member,kind,same⟩)
          (apart _ (mem_idsOf.mpr ⟨sess,here,agent,rfl⟩))
    have known : sess.id ∈ (sessions.filter (·.projectId == pid)).map (·.id) ↔
        sess.projectId = pid := by
      simp only [mem_map, mem_filter, beq_iff_eq]
      constructor
      · rintro ⟨other,⟨member,inside⟩,same⟩
        exact own other member same ▸ inside
      · exact fun inside => ⟨sess,⟨here,inside⟩,rfl⟩
    by_cases inside : sess.projectId = pid <;> simp [known, inside]
  · have other : (sess.kind == .agent) = false := by simpa using agent
    simp [other]

end Ids

/-- Every operation makes a few moves, and a newly deleted descriptor is an Agent's. -/
structure Passes (file after : StateFile) : Prop where
  moves : Moves (roster file) (roster after)
  bin : ∀ deleted ∈ after.deletedSessions,
    deleted ∈ file.deletedSessions ∨ deleted.session.kind = .agent

section Operations
variable {persisted : Bool} {pid tid : String} {admission : FreshSessionAdmission}
  {preference : Option SavedAgentLaunchSelection} {removed sessionIds : List String}
  {archivedAt updatedAt : Nat}

theorem passes_of_same (same : roster after = roster file)
    (bin : after.deletedSessions = file.deletedSessions) : Passes file after where
  moves := same ▸ Relation.ReflTransGen.refl
  bin := fun _ member => .inl (bin ▸ member)

theorem passes_refl : Passes file file := passes_of_same rfl rfl

theorem passes_of_move (move : Move (roster file) (roster after))
    (bin : ∀ deleted ∈ after.deletedSessions, deleted ∈ file.deletedSessions ∨
      deleted.session.kind = .agent) : Passes file after :=
  ⟨Relation.ReflTransGen.single move,bin⟩

theorem passes_trans (first : Passes file middle)
    (second : Passes middle after) : Passes file after where
  moves := first.moves.trans second.moves
  bin := by
    intro deleted member
    rcases second.bin deleted member with known | agent
    · exact first.bin deleted known
    · exact .inr agent

theorem passes_commit (passes : Passes file edited) :
    Passes file (commitFile persisted file edited ans).2 := by
  cases persisted with
  | false => exact passes_refl
  | true => exact ⟨passes.moves,passes.bin⟩

theorem removeExact_passes : Passes file (removeExactSessionDescriptors removed file).2 := by
  unfold removeExactSessionDescriptors
  dsimp only
  split
  · exact passes_refl
  refine passes_of_move (Move.leave removed ?_ ?_ ?_) fun _ => .inl
  · exact idsOf_forgetAskToEach.trans (idsOf_filter fun id => !removed.contains id)
  · dsimp only [roster]
    rw [idsOf_forgetAskToEach]
    exact idsOf_sublist filter_sublist
  · simp [roster, withoutReadiness, filter_map, Function.comp_def]

theorem removeObsolete_passes : Passes file (removeObsoleteAssistantSessions file).2 :=
  removeExact_passes

theorem clearExecutor_passes : Passes file (clearExecutorSessionReferences sessionIds file).2 :=
  passes_of_same rfl rfl

theorem dropDescriptor_passes (inStep : InStep (roster file)) :
    Passes file (dropDescriptor sid file) := by
  refine passes_of_move (Move.leave [sid] (agents_eraseP inStep.distinct inStep.apart)
    (idsOf_sublist eraseP_sublist) ?_) fun _ => .inl
  simp [roster, dropDescriptor, withoutReadiness, filter_map, Function.comp_def]

theorem withoutAskTo_passes : Passes file (withoutAskTo sid file) := by
  refine passes_of_same ?_ rfl
  simp only [roster, withoutAskTo, idsOf_forgetAskTo]

theorem unlisted (free : listed file sid = false) (kind : SessionKind) :
    sid ∉ idsOf kind file.sessions := by
  intro member
  obtain ⟨sess,here,-,same⟩ := mem_idsOf.mp member
  simp only [listed, any_eq_false, beq_iff_eq] at free
  exact free sess here same

theorem agent_enters (free : listed file sess.id = false) (agent : sess.kind = .agent)
    (sessions : after.sessions = file.sessions ++ [sess])
    (records : after.agentConversationReadiness =
      file.agentConversationReadiness ++ [{ sessionId := sess.id, readiness := readiness }]) :
    Move (roster file) (roster after) := by
  apply Move.enlist sess.id (unlisted free .agent) (unlisted free .terminal)
  · simp [roster, sessions, idsOf, agent]
  · simp [roster, sessions, idsOf, agent]
  · simp [roster, records]

theorem terminal_enters (free : listed file sess.id = false)
    (terminal : sess.kind = .terminal) (sessions : after.sessions = file.sessions ++ [sess])
    (records : after.agentConversationReadiness = file.agentConversationReadiness) :
    Move (roster file) (roster after) := by
  apply Move.seat sess.id (unlisted free .agent)
  · simp [roster, sessions, idsOf, terminal]
  · simp [roster, sessions, idsOf, terminal]
  · simp [roster, records]

theorem enterSession_passes (free : listed file sess.id = false) :
    Passes file (enterSession sess preference file) := by
  refine passes_of_move ?_ fun _ => .inl
  cases kind : sess.kind with
  | agent => exact agent_enters free kind rfl (if_pos (by rw [kind]; rfl))
  | terminal => exact terminal_enters free kind rfl (if_neg (by rw [kind]; nofun))

theorem standalone_unlisted
    (passed : standalonePreference file sess rememberLaunch = .ok preference) :
    listed file sess.id = false :=
  eq_false_of_ne_true (guard_passed passed).1

theorem admission_unlisted (passed : admissionPreference file sess admission = .ok preference) :
    listed file sess.id = false := by
  cases admission with
  | standalone rememberLaunch => exact standalone_unlisted passed
  | personalAgent agent rememberLaunch => exact standalone_unlisted (guard_passed passed).2
  | workflow exec =>
    obtain ⟨_,checked,-⟩ := map_passed passed
    have refused := (guard_passed checked).1
    simp only [Bool.or_eq_true, not_or, Bool.not_eq_true] at refused
    exact refused.1.2
  | steward pid gen updatedAt =>
    obtain ⟨_,checked,-⟩ := map_passed passed
    have refused := (guard_passed checked).1
    simp only [Bool.or_eq_true, not_or, Bool.not_eq_true] at refused
    exact refused.2

theorem applyAdmission_passes : Passes file (applyAdmission sid admission file) := by
  cases admission with
  | standalone rememberLaunch => exact passes_refl
  | personalAgent agent rememberLaunch => exact passes_of_same rfl rfl
  | workflow exec => exact passes_of_same rfl rfl
  | steward pid gen updatedAt =>
    refine passes_trans ?_ removeObsolete_passes
    exact passes_of_same rfl rfl

theorem admitFreshSession_passes :
    Passes file (admitFreshSession sess admission persisted file).2 := by
  unfold admitFreshSession
  split
  · exact passes_refl
  rename_i preference passed
  exact passes_commit (passes_trans (enterSession_passes (admission_unlisted passed))
    applyAdmission_passes)

theorem insertRunSession_passes :
    Passes file (insertRunSession sess setupMark persisted file).2 := by
  unfold insertRunSession
  iterate 2 (split; · exact passes_refl)
  rename_i refused
  simp only [Bool.or_eq_true, not_or, Bool.not_eq_true, bne_iff_ne, ne_eq,
    Decidable.not_not] at refused
  obtain ⟨⟨⟨terminal,free⟩,-⟩,-⟩ := refused
  exact passes_commit (passes_of_move (terminal_enters free terminal rfl rfl) fun _ => .inl)

section
variable (inStep : InStep (roster file))
include inStep

theorem rollbackAssistantLaunch_passes :
    Passes file (rollbackAssistantLaunch sid persisted file).2 := by
  unfold rollbackAssistantLaunch
  split
  · exact passes_refl
  dsimp only
  split
  · exact passes_refl
  refine passes_commit (passes_trans ?_ (dropDescriptor_passes ?_))
  · exact passes_of_same rfl rfl
  · exact inStep

theorem clearedDescriptor_passes (same : roster cleared = roster (withoutAskTo sid file))
    (bin : cleared.deletedSessions = file.deletedSessions) :
    Passes file (dropDescriptor sid cleared) := by
  have first : Passes file cleared :=
    ⟨same ▸ withoutAskTo_passes.moves,fun _ member => .inl (bin ▸ member)⟩
  exact passes_trans first (dropDescriptor_passes (moves_inStep first.moves inStep))

theorem deleteSessionDescriptor_passes :
    Passes file (deleteSessionDescriptor sid persisted file).2 := by
  unfold deleteSessionDescriptor
  iterate 3 (split; · exact passes_refl)
  · exact passes_commit (clearedDescriptor_passes inStep rfl rfl)

theorem deleteArchivedSessionDescriptor_passes :
    Passes file (TermloopSessions.deleteArchivedSessionDescriptor sid persisted file).2 := by
  unfold TermloopSessions.deleteArchivedSessionDescriptor
  iterate 3 (split; · exact passes_refl)
  · exact passes_commit (clearedDescriptor_passes inStep rfl rfl)

theorem erase_readiness : (file.agentConversationReadiness.eraseP (·.sessionId == sid)) =
      withoutReadiness [sid] file.agentConversationReadiness := by
  have once : (file.agentConversationReadiness.map (·.sessionId)).Nodup :=
    inStep.mirrored.nodup_iff.mpr inStep.distinct
  rw [eraseP_eq_filter]
  · apply filter_congr
    intro record here
    simp [beq_eq_decide]
  · refine (pairwise_map.mp once).imp ?_
    rintro a b differ ⟨first,second⟩
    rw [beq_iff_eq] at first second
    exact differ (first.trans second.symm)

theorem moveAgentSessionToDeleted_passes :
    Passes file (moveAgentSessionToDeleted sid deletedAt persisted file).2 := by
  unfold moveAgentSessionToDeleted
  iterate 2 (split; · exact passes_refl)
  rename_i sess hit
  split
  · exact passes_refl
  rename_i refused
  simp only [Bool.or_eq_true, not_or, bne_iff_ne, ne_eq, Decidable.not_not] at refused
  obtain ⟨⟨⟨agent,-⟩,-⟩,-⟩ := refused
  iterate 2 (split; · exact passes_refl)
  have dropped := (clearedDescriptor_passes inStep
    (by rfl : roster (withoutAskTo sid file) = _) rfl).moves
  apply passes_commit
  refine ⟨?_,?_⟩
  · dsimp only [roster]
    rw [erase_readiness inStep]
    exact dropped
  · intro deleted member
    rcases mem_append.mp member with known | new
    · exact .inl known
    · rw [mem_singleton.mp new]
      exact .inr agent

end

theorem restoreDeletedSessionDescriptor_passes {relocatedCwd : Option String}
    (agents : ∀ deleted ∈ file.deletedSessions, deleted.session.kind = .agent) :
    Passes file (restoreDeletedSessionDescriptor sid relocatedCwd persisted file).2 := by
  unfold restoreDeletedSessionDescriptor
  split
  · exact passes_refl
  rename_i refused
  split
  · exact passes_refl
  rename_i deleted hit
  have same : deleted.session.id = sid := by simpa using find?_some hit
  have agent := agents deleted (mem_of_find?_eq_some hit)
  have free : listed file deleted.session.id = false := same ▸ eq_false_of_ne_true refused
  refine passes_commit (passes_of_move (agent_enters (by exact free) (by exact agent) rfl rfl) ?_)
  intro other member
  exact .inl (mem_of_mem_eraseP member)

theorem purgeExpiredDeletedSessions_passes :
    Passes file (purgeExpiredDeletedSessions now persisted file).2 := by
  have fewer : Passes file { file with
      deletedSessions := file.deletedSessions.filter fun deleted => decide (now < deleted.purgeAt) } :=
    ⟨Relation.ReflTransGen.refl,fun deleted member => .inl (mem_of_mem_filter member)⟩
  unfold purgeExpiredDeletedSessions
  dsimp only
  split
  · exact fewer
  · exact passes_commit fewer

theorem restartVerdict_keeps : (restartVerdict file sess).session.id = sess.id ∧
      (restartVerdict file sess).session.kind = sess.kind := by
  unfold restartVerdict
  dsimp only
  iterate 2 (split; · exact ⟨rfl,rfl⟩)
  split
  · split <;> exact ⟨rfl,rfl⟩
  split
  · exact ⟨rfl,rfl⟩
  · unfold restartedAgent
    iterate 2 (split; · exact ⟨rfl,rfl⟩)
    split <;> exact ⟨rfl,rfl⟩

theorem sweepForRestart_passes : Passes file (sweepForRestart file).2 := by
  have judged : Passes file { file with
      sessions := (file.sessions.map (restartVerdict file)).map (·.session) } := by
    refine passes_of_same ?_ rfl
    have same : ∀ kind, idsOf kind ((file.sessions.map (restartVerdict file)).map (·.session)) =
        idsOf kind file.sessions := by
      intro kind
      rw [map_map]
      exact idsOf_map (fun sess => (restartVerdict_keeps).1) fun sess => (restartVerdict_keeps).2
    simp only [roster, same]
  refine passes_trans ?_ removeObsolete_passes
  refine passes_trans ?_ clearExecutor_passes
  exact passes_trans (passes_trans judged removeExact_passes) removeExact_passes

theorem reconcileRestart_passes : Passes file (reconcileRestart persisted file).2 := by
  unfold reconcileRestart
  dsimp only
  split
  · exact passes_commit sweepForRestart_passes
  · exact sweepForRestart_passes

theorem resetProjectAssistant_passes :
    Passes file (resetProjectAssistant pid expectedRevision updatedAt persisted file).2 := by
  unfold resetProjectAssistant
  iterate 3 (split; · exact passes_refl)
  dsimp only
  iterate 2 (split; · exact passes_refl)
  refine passes_commit (passes_trans ?_ removeExact_passes)
  exact passes_of_same rfl rfl

theorem withoutProject_passes (inStep : InStep (roster file)) :
    Passes file (withoutProject pid file) := by
  refine passes_of_move (Move.leave _ (agents_without_project inStep.distinct inStep.apart)
    (idsOf_sublist filter_sublist) ?_) fun deleted member =>
      .inl (mem_of_mem_filter member)
  simp [roster, withoutProject, withoutReadiness, filter_map, Function.comp_def]

theorem deleteProjectAndRelatedRecords_passes (inStep : InStep (roster file)) :
    Passes file (deleteProjectAndRelatedRecords pid persisted file).2 := by
  unfold deleteProjectAndRelatedRecords
  iterate 2 (split; · exact passes_refl)
  · exact passes_commit (withoutProject_passes inStep)

theorem withoutTask_passes : Passes file (withoutTask tid sessionIds file) := by
  have removed := @removeExact_passes
    { file with tasks := file.tasks.eraseP (·.id == tid) } sessionIds
  exact ⟨removed.moves,removed.bin⟩

theorem deleteTask_passes : Passes file (deleteTask tid persisted file).2 := by
  unfold deleteTask
  iterate 2 (split; · exact passes_refl)
  · exact passes_commit withoutTask_passes

theorem deleteArchivedTaskWithSessions_passes :
    Passes file (deleteArchivedTaskWithSessions tid archivedAt sessionIds persisted file).2 := by
  unfold deleteArchivedTaskWithSessions
  iterate 2 (split; · exact passes_refl)
  dsimp only
  split
  · exact passes_refl
  refine passes_commit (passes_trans (@withoutTask_passes _ tid sessionIds) ?_)
  exact passes_of_same rfl rfl

end Operations

inductive SessionAction where
  | enter (session : SessionRecord) (admission : FreshSessionAdmission)
  | insertRun (session : SessionRecord) (setupMark : Option RunSetupMark)
  | rollbackLaunch (sessionId : String)
  | deleteDescriptor (sessionId : String)
  | deleteArchivedDescriptor (sessionId : String)
  | moveToDeleted (sessionId : String) (deletedAt : Nat)
  | restoreDeleted (sessionId : String) (relocatedCwd : Option String)
  | purgeDeleted (now : Nat)
  | reconcileRestart
  | resetAssistant (projectId : String) (expectedRevision updatedAt : Nat)
  | deleteProject (projectId : String)
  | deleteTask (taskId : String)
  | deleteArchivedTask (taskId : String) (archivedAt : Nat) (sessionIds : List String)

def perform (persisted : Bool) (file : StateFile) : SessionAction → StateFile
  | .enter session admission => (admitFreshSession session admission persisted file).2
  | .insertRun session setupMark => (insertRunSession session setupMark persisted file).2
  | .rollbackLaunch sessionId => (rollbackAssistantLaunch sessionId persisted file).2
  | .deleteDescriptor sessionId => (deleteSessionDescriptor sessionId persisted file).2
  | .deleteArchivedDescriptor sessionId =>
    (TermloopSessions.deleteArchivedSessionDescriptor sessionId persisted file).2
  | .moveToDeleted sessionId deletedAt =>
    (moveAgentSessionToDeleted sessionId deletedAt persisted file).2
  | .restoreDeleted sessionId relocatedCwd =>
    (restoreDeletedSessionDescriptor sessionId relocatedCwd persisted file).2
  | .purgeDeleted now => (purgeExpiredDeletedSessions now persisted file).2
  | .reconcileRestart => (TermloopSessions.reconcileRestart persisted file).2
  | .resetAssistant projectId expectedRevision updatedAt =>
    (resetProjectAssistant projectId expectedRevision updatedAt persisted file).2
  | .deleteProject projectId => (deleteProjectAndRelatedRecords projectId persisted file).2
  | .deleteTask taskId => (TermloopSessions.deleteTask taskId persisted file).2
  | .deleteArchivedTask taskId archivedAt sessionIds =>
    (deleteArchivedTaskWithSessions taskId archivedAt sessionIds persisted file).2

structure Call where
  action : SessionAction
  persisted : Bool

def Step (file : StateFile) (call : Call) (after : StateFile) : Prop :=
  perform call.persisted file call.action = after

structure Sound (file : StateFile) : Prop where
  inStep : InStep (roster file)
  bin : ∀ deleted ∈ file.deletedSessions, deleted.session.kind = .agent

theorem step_passes (sound : Sound file) (step : Step file call after) : Passes file after := by
  obtain ⟨action,persisted⟩ := call
  cases step
  cases action with
  | enter sess admission => exact admitFreshSession_passes
  | insertRun sess setupMark => exact insertRunSession_passes
  | rollbackLaunch sid => exact rollbackAssistantLaunch_passes sound.inStep
  | deleteDescriptor sid => exact deleteSessionDescriptor_passes sound.inStep
  | deleteArchivedDescriptor sid =>
    exact deleteArchivedSessionDescriptor_passes sound.inStep
  | moveToDeleted sid deletedAt => exact moveAgentSessionToDeleted_passes sound.inStep
  | restoreDeleted sid relocatedCwd =>
    exact restoreDeletedSessionDescriptor_passes sound.bin
  | purgeDeleted now => exact purgeExpiredDeletedSessions_passes
  | reconcileRestart => exact reconcileRestart_passes
  | resetAssistant pid expectedRevision updatedAt => exact resetProjectAssistant_passes
  | deleteProject pid => exact deleteProjectAndRelatedRecords_passes sound.inStep
  | deleteTask tid => exact deleteTask_passes
  | deleteArchivedTask tid archivedAt sessionIds =>
    exact deleteArchivedTaskWithSessions_passes

theorem step_sound (sound : Sound file) (step : Step file call after) : Sound after := by
  have passes := step_passes sound step
  refine ⟨moves_inStep passes.moves sound.inStep,?_⟩
  intro deleted member
  rcases passes.bin deleted member with known | agent
  · exact sound.bin deleted known
  · exact agent

/-- Each Agent has one record of its own, and every record is an Agent's. -/
structure Mirrors (file : StateFile) : Prop where
  distinct : (idsOf .agent file.sessions).Nodup
  once : ∀ session ∈ file.sessions, session.kind = .agent →
    (file.agentConversationReadiness.filter (·.sessionId == session.id)).length = 1
  only : ∀ record ∈ file.agentConversationReadiness, ∃ session ∈ file.sessions,
    session.kind = .agent ∧ session.id = record.sessionId

theorem mirrors_of_inStep (inStep : InStep (roster file)) : Mirrors file where
  distinct := inStep.distinct
  once := by
    intro sess here agent
    have named : sess.id ∈ idsOf .agent file.sessions :=
      mem_idsOf.mpr ⟨sess,here,agent,rfl⟩
    have counted : (file.agentConversationReadiness.map (·.sessionId)).count sess.id = 1 :=
      (inStep.mirrored.count_eq _).trans (count_eq_one_of_mem inStep.distinct named)
    rwa [List.count, countP_map, countP_eq_length_filter] at counted
  only := by
    intro record here
    have named : record.sessionId ∈ idsOf .agent file.sessions :=
      inStep.mirrored.subset (mem_map_of_mem here)
    exact mem_idsOf.mp named

/-- No Terminal has the id of an Agent. -/
def Unshared (file : StateFile) : Prop :=
  ∀ agent ∈ file.sessions, ∀ terminal ∈ file.sessions,
    agent.kind = .agent → terminal.kind = .terminal → terminal.id ≠ agent.id

theorem invalidReadinessRecord_eq_false (st : CurrentState) : anyWithLater (fun record later =>
        record.sessionId.isEmpty
          || !st.sessions.any (fun sess =>
            sess.id == record.sessionId && sess.kind == .agent)
          || later.any (·.sessionId == record.sessionId))
        st.agentConversationReadiness = false ↔
      (∀ record ∈ st.agentConversationReadiness, record.sessionId.isEmpty = false ∧
        record.sessionId ∈ idsOf .agent st.sessions) ∧
      st.agentConversationReadiness.Pairwise fun a b => b.sessionId ≠ a.sessionId := by
  apply anyWithLater_eq_false
  intro record later
  simp only [Bool.or_eq_false_iff, Bool.not_eq_false', any_eq_true, Bool.and_eq_true,
    beq_iff_eq, any_eq_false, mem_idsOf, and_comm]

theorem mirrored_of_valid (valid : agentConversationReadinessIsInvalid st = false) :
    (st.agentConversationReadiness.map (·.sessionId)).Perm (idsOf .agent st.sessions) ∧
      (idsOf .agent st.sessions).Nodup := by
  rw [agentConversationReadinessIsInvalid, Bool.or_eq_false_iff, bne_eq_false_iff_eq,
    invalidReadinessRecord_eq_false] at valid
  obtain ⟨sameLength,named,apart⟩ := valid
  have distinct : (st.agentConversationReadiness.map (·.sessionId)).Nodup :=
    pairwise_map.mpr (apart.imp (·.symm))
  have listed : st.agentConversationReadiness.map (·.sessionId) ⊆ idsOf .agent st.sessions := by
    intro id member
    obtain ⟨record,here,same⟩ := mem_map.mp member
    exact same ▸ (named record here).2
  have perm := (subperm_of_subset distinct listed).perm_of_length_le (by simp [idsOf, sameLength])
  exact ⟨perm,perm.nodup_iff.mp distinct⟩

theorem agents_of_deleted (valid : deletedSessionsAreInvalid file = false) :
    ∀ deleted ∈ file.deletedSessions, deleted.session.kind = .agent := by
  have kinds : anyWithLater (fun (deleted : DeletedSessionRecord) _ =>
      deleted.session.kind != .agent) file.deletedSessions = false := by
    refine anyWithLater_eq_false_of_imp ?_ valid
    intro deleted later other
    simp [other]
  have every : anyWithLater (fun (deleted : DeletedSessionRecord) _ =>
        deleted.session.kind != .agent) file.deletedSessions = false ↔
      (∀ deleted ∈ file.deletedSessions, deleted.session.kind = .agent) ∧
        file.deletedSessions.Pairwise fun _ _ => True := by
    apply anyWithLater_eq_false
    intro deleted later
    simp
  exact (every.mp kinds).1

theorem sound_of_accepted (accepted : validateStateFile file = .ok ()) (unshared : Unshared file) :
    Sound file := by
  obtain ⟨refused,records⟩ := guard_passed accepted
  simp only [Bool.or_eq_true, not_or, Bool.not_eq_true] at refused
  obtain ⟨⟨⟨-,deleted⟩,-⟩,-⟩ := refused
  obtain ⟨perm,distinct⟩ := mirrored_of_valid ((accepted_iff _).mp records).2.1
  refine ⟨⟨distinct,?_,perm⟩,agents_of_deleted deleted⟩
  intro id agent terminal
  obtain ⟨sess,here,isAgent,same⟩ := mem_idsOf.mp agent
  obtain ⟨other,listed,isTerminal,shared⟩ := mem_idsOf.mp terminal
  exact unshared sess here other listed isAgent isTerminal (shared.trans same.symm)

/-- From a loadable file in which no Terminal has an Agent's id, the readiness records stay
    those of the Agents. -/
theorem readiness_follows_agents {start after : StateFile} {calls : List Call}
    (accepted : validateStateFile start = .ok ()) (unshared : Unshared start)
    (run : Run Step start calls after) : Mirrors after := by
  have sound := run_invariant Sound step_sound run (sound_of_accepted accepted unshared)
  exact mirrors_of_inStep sound.inStep

def endedSession (id : String) (kind : SessionKind) : SessionRecord :=
  { id := id, projectId := "p1", kind := kind
    process := { cwd := "/p1", agentId := some "claude" }
    lifecycleState := "exited", runtimeEpoch := 1 }

def twoSessions (shell agent : String) : StateFile :=
  { CurrentState.empty with
    projects := [{ id := "p1", folderPath := "/p1" }]
    sessions := [endedSession shell .terminal, endedSession agent .agent]
    agentConversationReadiness := [{ sessionId := agent, readiness := .resumable }] }

def deletedAndRestored : List Call :=
  [⟨.moveToDeleted "agent" 7, true⟩, ⟨.restoreDeleted "agent" none, true⟩]

theorem restored_agent_has_its_record : validateStateFile (twoSessions "shell" "agent") = .ok () ∧
      ∃ after, Run Step (twoSessions "shell" "agent") deletedAndRestored after ∧
        after.agentConversationReadiness = [{ sessionId := "agent", readiness := .resumable }] ∧
        Mirrors after := by
  have accepted : validateStateFile (twoSessions "shell" "agent") = .ok () := rfl
  have unshared : Unshared (twoSessions "shell" "agent") := by
    intro agent listed terminal present isAgent isTerminal
    simp only [twoSessions, mem_cons, not_mem_nil, or_false] at listed present
    rcases listed with rfl | rfl
    · cases isAgent
    · rcases present with rfl | rfl
      · decide
      · cases isTerminal
  have run : Run Step (twoSessions "shell" "agent") deletedAndRestored _ :=
    Run.cons rfl (Run.cons rfl (Run.nil _))
  exact ⟨accepted,_,run,rfl,readiness_follows_agents accepted unshared run⟩

/-- Deleting a shell with the id of an Agent takes the Agent's record. -/
theorem shared_id_loses_record : validateStateFile (twoSessions "one" "one") = .ok () ∧
      ∃ after, Run Step (twoSessions "one" "one") [⟨.deleteDescriptor "one", true⟩] after ∧
        after.sessions = [endedSession "one" .agent] ∧
        after.agentConversationReadiness = [] ∧ ¬ Mirrors after := by
  refine ⟨rfl,_,run_single rfl,rfl,rfl,?_⟩
  intro mirrors
  have once := mirrors.once (endedSession "one" .agent) (mem_singleton.mpr rfl) rfl
  exact absurd once (by decide)

end TermloopMirror

import Termloop.Store.Validation

/-!
Most of the validator does not look at the lifecycle of a Session. Two lists of
Sessions with the same descriptors, that is the same records up to lifecycle and
resume failure, pass or fail these checks together. The one check that does read
the lifecycle is the one on relocations in progress.
-/
namespace TermloopStore
open TermloopRecordLists TermloopOutcome List

/-- What a Session keeps while only its lifecycle is rewritten. -/
def SessionRecord.descriptor (session : SessionRecord) : SessionRecord :=
  { session with lifecycleState := "", resumeFailure := none }

theorem sessionsAreInvalid_descriptors :
    sessionsAreInvalid (sessions.map SessionRecord.descriptor) = sessionsAreInvalid sessions := by
  have source : ∀ sess : SessionRecord,
      invalidAskToSource (sessions.map SessionRecord.descriptor) sess.descriptor =
        invalidAskToSource sessions sess := by
    intro sess
    simp only [invalidAskToSource, find?_map, Option.any_map]
    rfl
  have continuation : ∀ (sess : SessionRecord) (later : List SessionRecord),
      invalidAskToContinuation (sessions.map SessionRecord.descriptor) sess.descriptor
          (later.map SessionRecord.descriptor) =
        invalidAskToContinuation sessions sess later := by
    intro sess later
    simp only [invalidAskToContinuation, any_map]
    rfl
  rw [sessionsAreInvalid, anyWithLater_map, sessionsAreInvalid]
  simp only [source, continuation]
  rfl

variable {st after : CurrentState}

section
variable
  (same : after.sessions.map SessionRecord.descriptor = st.sessions.map SessionRecord.descriptor)
include same

theorem agentConversationReadinessIsInvalid_congr
    (records : after.agentConversationReadiness = st.agentConversationReadiness) :
    agentConversationReadinessIsInvalid after = agentConversationReadinessIsInvalid st := by
  have agents := eq_of_views same (fun sessions => (sessions.filter (·.kind == .agent)).length)
    fun sessions => by rw [filter_map, length_map]; rfl
  have known := fun id : String => eq_of_views same
    (·.any fun sess => sess.id == id && sess.kind == .agent) fun sessions => by rw [any_map]; rfl
  simp only [agentConversationReadinessIsInvalid, agents, known, records]

theorem session?_descriptor_congr (id : String) : (after.session? id).map SessionRecord.descriptor =
      (st.session? id).map SessionRecord.descriptor := by
  have view : ∀ cur : CurrentState, (cur.session? id).map SessionRecord.descriptor =
      (cur.sessions.map SessionRecord.descriptor).find? (·.id == id) := by
    intro cur
    rw [find?_map]
    rfl
  rw [view, view, same]

theorem session?_all_congr (id : String) (reads : ∀ s, check s.descriptor = check s) :
    (after.session? id).all check = (st.session? id).all check := by
  have view : ∀ hit : Option SessionRecord,
      hit.all check = (hit.map SessionRecord.descriptor).all check := by
    intro hit
    cases hit with
    | none => rfl
    | some s => simp [reads]
  rw [view, view (st.session? id), session?_descriptor_congr same]

theorem projectOf_congr (id : String) : after.projectOf id = st.projectOf id := by
  have view := congrArg (Option.map (·.projectId)) (session?_descriptor_congr same id)
  rw [Option.map_map, Option.map_map] at view
  exact view

end

theorem mem_of_same_descriptors {left right : List SessionRecord}
    (same : left.map SessionRecord.descriptor = right.map SessionRecord.descriptor)
    (here : sess ∈ right) :
    ∃ other ∈ left, other.descriptor = sess.descriptor := by
  have viewed : sess.descriptor ∈ left.map SessionRecord.descriptor := by
    rw [same]
    exact mem_map_of_mem here
  exact mem_map.mp viewed

theorem relocation_reads_lifecycle (valid : relocationCheckFails st op (some sess) task = false)
    (same : edited.descriptor = sess.descriptor) :
    relocationCheckFails st op (some edited) task = false ↔ edited.lifecycleState = "resuming" := by
  have rebuilt : edited = { sess with
      lifecycleState := edited.lifecycleState, resumeFailure := edited.resumeFailure } := by
    cases edited
    cases sess
    simp only [SessionRecord.descriptor, SessionRecord.mk.injEq] at same ⊢
    tauto
  rw [rebuilt]
  simp only [relocationCheckFails, Option.all_some, Bool.or_eq_false_iff, bne_eq_false_iff_eq]
    at valid ⊢
  tauto

/-- What a Task keeps while it is archived and restored. -/
def TaskRecord.binding (task : TaskRecord) : TaskRecord :=
  { task with archivedAt := none, updatedAt := 0 }

theorem task?_binding_congr
    (same : tasks.map TaskRecord.binding = st.tasks.map TaskRecord.binding) (id : String) :
    (({ st with tasks := tasks } : CurrentState).task? id).map TaskRecord.binding =
      (st.task? id).map TaskRecord.binding := by
  have view : ∀ cur : CurrentState, (cur.task? id).map TaskRecord.binding =
      (cur.tasks.map TaskRecord.binding).find? (·.id == id) := by
    intro cur
    rw [find?_map]
    rfl
  rw [view, view, same]

structure SameBinding (a b : TaskRecord) : Prop where
  worktree : a.worktree = b.worktree
  generation : a.worktreeGeneration = b.worktreeGeneration
  branch : a.branch = b.branch

theorem task?_same
    (same : tasks.map TaskRecord.binding = st.tasks.map TaskRecord.binding) (id : String) :
    (({ st with tasks := tasks } : CurrentState).task? id = none ∧ st.task? id = none) ∨
      ∃ a b, ({ st with tasks := tasks } : CurrentState).task? id = some a ∧
        st.task? id = some b ∧ SameBinding a b := by
  have seen := task?_binding_congr same id
  cases left : ({ st with tasks := tasks } : CurrentState).task? id <;>
    cases right : st.task? id <;> rw [left, right] at seen
  · exact .inl ⟨rfl,rfl⟩
  · cases seen
  · cases seen
  · rename_i a b
    have bindings : a.binding = b.binding := Option.some.inj seen
    have worktree := congrArg TaskRecord.worktree bindings
    have gen := congrArg TaskRecord.worktreeGeneration bindings
    have branch := congrArg TaskRecord.branch bindings
    exact .inr ⟨a,b,rfl,rfl,worktree,gen,branch⟩

theorem worktreeRecordsAreInvalid_congr
    (same : tasks.map TaskRecord.binding = st.tasks.map TaskRecord.binding) :
    worktreeRecordsAreInvalid { st with tasks := tasks } = worktreeRecordsAreInvalid st := by
  have bound := eq_of_views same (·.any fun task => task.worktree.isSome && task.branch.isNone)
    fun tasks => by rw [any_map]; rfl
  have repair : ∀ op, ensureRepairTuple { st with tasks := tasks } op =
      ensureRepairTuple st op := by
    intro op
    unfold ensureRepairTuple
    rcases task?_same same op.taskId with ⟨left,right⟩ | ⟨a,b,left,right,bindings⟩
    · rw [left, right]
    · rw [left, right]
      simp only [bindings.worktree, bindings.generation]
  have stale : ∀ op, ensureStaleResolutionTuple { st with tasks := tasks } op =
      ensureStaleResolutionTuple st op := by
    intro op
    unfold ensureStaleResolutionTuple
    rcases task?_same same op.taskId with ⟨left,right⟩ | ⟨a,b,left,right,bindings⟩
    · rw [left, right]
    · rw [left, right]
      simp only [bindings.worktree, bindings.generation, bindings.branch]
  simp only [worktreeRecordsAreInvalid, bound, repair, stale]

end TermloopStore

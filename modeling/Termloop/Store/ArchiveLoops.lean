import Mathlib.Data.List.Nodup
import Termloop.Store.Archive
import Termloop.Store.Descriptors

/-!
What the loops of the archive journal do as a whole: which suspensions they add,
rewrite or take out, and what they leave of the Sessions. Each loop finishes as
soon as every Session it asks for is there.
-/
namespace TermloopStore
open TermloopRecordLists TermloopOutcome List

/-- A state in which only suspensions and Sessions were rewritten. -/
def CurrentState.withParked (state : CurrentState) (suspensions : List TaskArchiveSuspension)
    (sessions : List SessionRecord) : CurrentState :=
  { state with taskArchiveSuspensions := suspensions, sessions := sessions }

section ParkLoop
variable {st : CurrentState} {tid : String} {parkedAt : Nat}
  {reason : TaskSuspensionReason} {ends : TaskArchiveTarget → Bool}

theorem parkTarget_step
    (same : sessions.map SessionRecord.descriptor = st.sessions.map SessionRecord.descriptor)
    (lives : ∃ sess ∈ st.sessions, sess.id = target.sessionId) :
    ∃ next, parkTarget tid parkedAt reason ends (st.withParked suspensions sessions) target =
        (.ok (), st.withParked (suspensions ++ [suspensionOf tid parkedAt reason target]) next) ∧
      next.map SessionRecord.descriptor = st.sessions.map SessionRecord.descriptor := by
  have hit : ∃ sess, (st.withParked suspensions sessions).session? target.sessionId =
      some sess := by
    obtain ⟨sess,present,own⟩ := lives
    obtain ⟨other,here,equal⟩ := mem_of_same_descriptors same present
    have id := congrArg SessionRecord.id equal
    apply Option.isSome_iff_exists.mp
    rw [CurrentState.session?, find?_isSome]
    exact ⟨other,here,beq_iff_eq.mpr (id.trans own)⟩
  obtain ⟨sess,hit⟩ := hit
  by_cases live : ends target
  · refine ⟨updateFirst (·.id == target.sessionId) SessionRecord.exited sessions,?_,?_⟩
    · simp only [parkTarget, hit, if_pos live]
      rfl
    · have keeps : ∀ s : SessionRecord, s.exited.descriptor = s.descriptor := fun _ => rfl
      exact (map_updateFirst keeps sessions).trans same
  · refine ⟨sessions,?_,same⟩
    simp only [parkTarget, hit, if_neg live]
    rfl

theorem parkTargets_spec
    (each : ∀ target ∈ targets, ∃ sess ∈ st.sessions, sess.id = target.sessionId) :
    ∃ next, forEach (parkTarget tid parkedAt reason ends) targets st = (.ok (), st.withParked
          (st.taskArchiveSuspensions ++ targets.map (suspensionOf tid parkedAt reason))
          next) ∧
      next.map SessionRecord.descriptor = st.sessions.map SessionRecord.descriptor := by
  have loop : ∃ edited, forEach (parkTarget tid parkedAt reason ends) targets st =
      (.ok (), edited) ∧ ∃ next, edited = st.withParked
        (st.taskArchiveSuspensions ++ targets.map (suspensionOf tid parkedAt reason)) next ∧
      next.map SessionRecord.descriptor = st.sessions.map SessionRecord.descriptor := by
    apply forEach_succeeds
    · rintro handled target rest t whole ⟨sessions,shape,same⟩
      cases shape
      have here : target ∈ targets := by rw [whole]; simp
      obtain ⟨next,passed,still⟩ := parkTarget_step same (each target here)
      exact ⟨_,passed,next,by simp,still⟩
    · exact ⟨st.sessions,by simp [CurrentState.withParked],rfl⟩
  obtain ⟨edited,finished,next,shape,same⟩ := loop
  exact ⟨next,shape ▸ finished,same⟩

end ParkLoop

/-- Id and Project of a Session, which the archive journal never rewrites. -/
def SessionRecord.owner (session : SessionRecord) : String × String :=
  (session.id, session.projectId)

theorem owners_of_descriptors {left right : List SessionRecord}
    (same : left.map SessionRecord.descriptor = right.map SessionRecord.descriptor) :
    left.map SessionRecord.owner = right.map SessionRecord.owner := by
  have view := congrArg (List.map SessionRecord.owner) same
  rw [map_map, map_map] at view
  exact view

theorem projectOf_owners {st after : CurrentState}
    (same : after.sessions.map SessionRecord.owner = st.sessions.map SessionRecord.owner)
    (id : String) : after.projectOf id = st.projectOf id := by
  have view : ∀ cur : CurrentState, cur.projectOf id =
      ((cur.sessions.map SessionRecord.owner).find? (·.1 == id)).map (·.2) := by
    intro cur
    rw [find?_map, Option.map_map]
    rfl
  rw [view, view, same]

section SettleLoop
variable {tid folder : String} {now : Nat}

def TaskArchiveSuspension.settle (taskId : String) (archivedAt : Nat)
    (suspension : TaskArchiveSuspension) : TaskArchiveSuspension :=
  if settles taskId archivedAt suspension then
    { suspension with reason := .closedWorktreeRemoved }
  else suspension

theorem any_id_of_owners {left right : List SessionRecord}
    (same : left.map SessionRecord.owner = right.map SessionRecord.owner) (id : String) :
    (left.any (·.id == id)) = right.any (·.id == id) := by
  have view : ∀ list : List SessionRecord, (list.any (·.id == id)) =
      (list.map SessionRecord.owner).any (·.1 == id) := by
    intro list
    rw [any_map]
    rfl
  rw [view, same, ← view]

theorem settleSuspensions_spec {suspensions : List TaskArchiveSuspension} :
    ∀ {sessions : List SessionRecord}, (∀ susp ∈ suspensions, settles tid now susp →
        (sessions.any (·.id == susp.sessionId))) →
      ∃ next, settleSuspensions tid now folder suspensions sessions =
          (.ok (), suspensions.map (TaskArchiveSuspension.settle tid now), next) ∧
        next.map SessionRecord.owner = sessions.map SessionRecord.owner := by
  induction suspensions with
  | nil => intro sessions _; exact ⟨sessions,rfl,rfl⟩
  | cons susp rest ih =>
    intro sessions here
    by_cases hit : settles tid now susp
    · have lives := here susp mem_cons_self hit
      have moved : (updateFirst (·.id == susp.sessionId)
          (SessionRecord.moveTo folder none) sessions).map SessionRecord.owner =
            sessions.map SessionRecord.owner :=
        map_updateFirst (fun _ => by rfl) sessions
      obtain ⟨next,finished,same⟩ := ih fun later mem chosen => by
        rw [any_id_of_owners moved]
        exact here later (mem_cons_of_mem _ mem) chosen
      refine ⟨next,?_,same.trans moved⟩
      rw [settleSuspensions, if_pos hit, if_pos lives, finished]
      simp [TaskArchiveSuspension.settle, hit]
    · obtain ⟨next,finished,same⟩ := ih fun later mem chosen =>
        here later (mem_cons_of_mem _ mem) chosen
      refine ⟨next,?_,same⟩
      rw [settleSuspensions, if_neg hit, finished]
      simp [TaskArchiveSuspension.settle, hit]

end SettleLoop

section ReopenLoop
variable {st : CurrentState} {tid : String} {relocated recreated : Option String}

theorem reopened_owner (guard : Option ResumeLaunchGuard) (susp : TaskArchiveSuspension)
    (sess : SessionRecord) :
    (sess.reopened relocated recreated guard susp).owner = sess.owner := by
  unfold SessionRecord.reopened SessionRecord.release SessionRecord.reopenPlace
  split <;> split <;> rfl

theorem reopenSession_step (mem : sid ∈ waiting tid suspensions)
    (lives : (sessions.any (·.id == sid))) :
    ∃ rest next more,
      reopenSession tid relocated recreated (st.withParked suspensions sessions, resumable)
          sid = (.ok (), (st.withParked rest next, more)) ∧
        (waiting tid suspensions).Perm (sid :: waiting tid rest) ∧
        rest.Sublist suspensions ∧
        next.map SessionRecord.owner = sessions.map SessionRecord.owner := by
  have lookup : ∃ susp, suspensions.find? (reopens tid sid) = some susp := by
    obtain ⟨susp,chosen,same⟩ := mem_map.mp mem
    obtain ⟨present,hit⟩ := mem_filter.mp chosen
    apply Option.isSome_iff_exists.mp
    rw [find?_isSome]
    exact ⟨susp,present,by simp [reopens, same, hit]⟩
  obtain ⟨susp,found⟩ := lookup
  have hit := find?_some found
  simp only [reopens, Bool.and_eq_true, beq_iff_eq] at hit
  have here : ∃ sess, (st.withParked suspensions sessions).session? sid = some sess := by
    apply Option.isSome_iff_exists.mp
    rw [CurrentState.session?, find?_isSome]
    exact any_eq_true.mp lives
  obtain ⟨sess,here⟩ := here
  have passed : reopenSession tid relocated recreated
      (st.withParked suspensions sessions, resumable) sid =
      (.ok (), (st.withParked (suspensions.eraseP (reopens tid sid))
        (updateFirst (·.id == sid) (SessionRecord.reopened relocated recreated
          (recreated.bind (currentWorktreeGuard st)) susp) sessions),
        if susp.priorLifecycleState == "running" then resumable ++ [sid]
        else resumable)) := by
    have mine : (st.withParked suspensions sessions).taskArchiveSuspensions.find?
      (reopens tid sid) = some susp := found
    simp only [reopenSession, mine, here]
    rfl
  refine ⟨_,_,_,passed,?_,eraseP_sublist,?_⟩
  · have taken := (perm_cons_eraseP found).filter (parkedByClose tid)
    rw [filter_cons_of_pos hit.2] at taken
    have named := taken.map (·.sessionId)
    rw [map_cons, hit.1] at named
    exact named
  · exact map_updateFirst (reopened_owner _ susp) sessions

theorem reopenSessions_spec (tid : String) (relocated recreated : Option String)
    (parked : ∀ susp ∈ st.taskArchiveSuspensions, (st.sessions.any (·.id == susp.sessionId))) :
    ∃ remaining next resumable, forEach (reopenSession tid relocated recreated)
          (waiting tid st.taskArchiveSuspensions) (st, []) =
        (.ok (), (st.withParked remaining next, resumable)) ∧
        remaining.Sublist st.taskArchiveSuspensions ∧
        (∀ susp ∈ remaining, parkedByClose tid susp = false) ∧
        next.map SessionRecord.owner = st.sessions.map SessionRecord.owner := by
  -- what was handled and what still waits make up what waited at the start
  let Inv : List String → CurrentState × List String → Prop := fun handled pair =>
    ∃ remaining next, pair.1 = st.withParked remaining next ∧
      (handled ++ waiting tid remaining).Perm (waiting tid st.taskArchiveSuspensions) ∧
      remaining.Sublist st.taskArchiveSuspensions ∧
      next.map SessionRecord.owner = st.sessions.map SessionRecord.owner
  have start : Inv [] (st, []) :=
    ⟨st.taskArchiveSuspensions,st.sessions,rfl,.refl _,.refl _,rfl⟩
  have keep : ∀ handled id rest pair,
      waiting tid st.taskArchiveSuspensions = handled ++ id :: rest → Inv handled pair →
      ∃ t, reopenSession tid relocated recreated pair id = (.ok (), t) ∧
        Inv (handled ++ [id]) t := by
    rintro handled id rest ⟨t,resumable⟩ whole ⟨remaining,sessions,shape,balance,sub,same⟩
    cases shape
    have left : (waiting tid remaining).Perm (id :: rest) := by
      rw [whole] at balance
      exact (perm_append_left_iff handled).mp balance
    have mem : id ∈ waiting tid remaining := left.mem_iff.mpr mem_cons_self
    have lives : (sessions.any (·.id == id)) := by
      rw [any_id_of_owners same]
      obtain ⟨susp,chosen,own⟩ := mem_map.mp mem
      rw [← own]
      exact parked susp (sub.subset (mem_filter.mp chosen).1)
    obtain ⟨remaining',next,more,passed,taken,shorter,owners⟩ :=
      reopenSession_step mem lives
    refine ⟨_,passed,remaining',next,rfl,?_,shorter.trans sub,owners.trans same⟩
    have step : (handled ++ waiting tid remaining).Perm
        (handled ++ id :: waiting tid remaining') := taken.append_left handled
    rw [append_assoc, singleton_append]
    exact step.symm.trans balance
  obtain ⟨⟨t,resumable⟩,finished,remaining,next,shape,balance,sub,same⟩ :=
    forEach_succeeds keep start
  cases shape
  have none : waiting tid remaining = [] := by
    have size := balance.length_eq
    rw [length_append] at size
    exact eq_nil_of_length_eq_zero (by omega)
  refine ⟨remaining,next,resumable,finished,sub,?_,same⟩
  intro susp here
  by_contra hit
  rw [Bool.not_eq_false] at hit
  have mem : susp.sessionId ∈ waiting tid remaining :=
    mem_map.mpr ⟨susp,mem_filter.mpr ⟨here,hit⟩,rfl⟩
  rw [none] at mem
  cases mem

end ReopenLoop

theorem release_descriptor (susp : TaskArchiveSuspension) (sess : SessionRecord) :
    (sess.release susp).descriptor = sess.descriptor := by
  unfold SessionRecord.release
  split <;> rfl

theorem release_resuming (susp : TaskArchiveSuspension) (sess : SessionRecord) :
    (sess.release susp).lifecycleState = "resuming" ↔
      susp.priorLifecycleState = "resuming" := by
  unfold SessionRecord.release
  by_cases ran : susp.priorLifecycleState = "running"
  · simp [ran]
  · simp [ran]

/-- Suspensions of some Sessions are taken out; else only Sessions change. -/
def CurrentState.without (state : CurrentState) (ids : List String)
    (sessions : List SessionRecord) : CurrentState :=
  { state with
    taskArchiveSuspensions := state.taskArchiveSuspensions.filter fun suspension =>
      !ids.contains suspension.sessionId
    sessions := sessions }

/-- Sessions of `ids` have their lifecycle back; other Sessions and fields stay. -/
structure Restored (state : CurrentState) (ids : List String) (sessions : List SessionRecord) :
    Prop where
  descriptors : sessions.map SessionRecord.descriptor =
    state.sessions.map SessionRecord.descriptor
  released : ∀ suspension ∈ state.taskArchiveSuspensions, suspension.sessionId ∈ ids →
    (state.without ids sessions).session? suspension.sessionId =
      (state.session? suspension.sessionId).map (SessionRecord.release suspension)
  others : ∀ id, id ∉ ids → (state.without ids sessions).session? id = state.session? id

theorem same_suspension {st : CurrentState}
    (nodup : (st.taskArchiveSuspensions.map (·.sessionId)).Nodup)
    (left : a ∈ st.taskArchiveSuspensions) (right : b ∈ st.taskArchiveSuspensions)
    (same : a.sessionId = b.sessionId) : a = b :=
  inj_on_of_nodup_map nodup left right same

section RestoreLoop
variable {st : CurrentState} {tid : String} {ids : List String}
  {sessions : List SessionRecord} {susp : TaskArchiveSuspension}

variable (nodup : (st.taskArchiveSuspensions.map (·.sessionId)).Nodup)
include nodup

theorem restorable_found
    (present : susp ∈ st.taskArchiveSuspensions) (named : (susp.taskId.all fun id => id == tid))
    (fresh : susp.sessionId ∉ ids) :
    (st.without ids sessions).taskArchiveSuspensions.find?
      (restorable tid susp.sessionId) = some susp := by
  apply find?_eq_some_of_only
  · exact mem_filter.mpr ⟨present,by simpa using fresh⟩
  · simp [restorable, named]
  · intro s here hit
    simp only [restorable, Bool.and_eq_true, beq_iff_eq] at hit
    exact same_suspension nodup (mem_filter.mp here).1 present hit.1

theorem restorable_gone
    (present : susp ∈ st.taskArchiveSuspensions) (named : (susp.taskId.all fun id => id == tid)) :
    (st.without ids sessions).taskArchiveSuspensions.eraseP (restorable tid susp.sessionId) =
      st.taskArchiveSuspensions.filter fun s =>
        !(ids ++ [susp.sessionId]).contains s.sessionId := by
  have single : (st.without ids sessions).taskArchiveSuspensions.Pairwise fun a b =>
      ¬ (restorable tid susp.sessionId a ∧ restorable tid susp.sessionId b) := by
    apply List.Pairwise.filter
    apply (pairwise_map.mp nodup).imp
    intro a b apart both
    simp only [restorable, Bool.and_eq_true, beq_iff_eq] at both
    exact apart (both.1.1.trans both.2.1.symm)
  rw [eraseP_eq_filter single, CurrentState.without, filter_filter]
  apply filter_congr
  intro s here
  by_cases same : s.sessionId = susp.sessionId
  · simp [same_suspension nodup here present same, restorable, named]
  · simp [same, restorable]

theorem restoreSession_step {resumable : List String}
    (pre : Restored st ids sessions) (present : susp ∈ st.taskArchiveSuspensions)
    (named : (susp.taskId.all fun id => id == tid)) (fresh : susp.sessionId ∉ ids)
    (hit : st.session? susp.sessionId = some sess) :
    ∃ next more, restoreSession tid (st.without ids sessions, resumable) susp.sessionId =
        (.ok (), (st.without (ids ++ [susp.sessionId]) next, more)) ∧
      Restored st (ids ++ [susp.sessionId]) next := by
  have lives : (st.without ids sessions).session? susp.sessionId = some sess := by
    rw [pre.others _ fresh, hit]
  have result : restoreSession tid (st.without ids sessions, resumable)
      susp.sessionId = (.ok (), ((({ st.without ids sessions with
          taskArchiveSuspensions := (st.without ids sessions).taskArchiveSuspensions.eraseP
            (restorable tid susp.sessionId) } : CurrentState).updateSession
              susp.sessionId (SessionRecord.release susp)),
        if susp.priorLifecycleState == "running" then resumable ++ [susp.sessionId]
        else resumable)) := by
    simp only [restoreSession, restorable_found nodup present named fresh, lives]
  rw [restorable_gone nodup present named] at result
  -- looking a Session up does not read the suspensions
  have lookup : ∀ id, (st.without (ids ++ [susp.sessionId])
      (updateFirst (·.id == susp.sessionId) (SessionRecord.release susp) sessions)).session? id =
      if id = susp.sessionId
      then ((st.without ids sessions).session? id).map (SessionRecord.release susp)
      else (st.without ids sessions).session? id := fun id =>
    session?_updateSession (st.without ids sessions) (fun sess => by
      unfold SessionRecord.release
      split <;> rfl) _ id
  refine ⟨updateFirst (·.id == susp.sessionId) (SessionRecord.release susp)
    sessions,_,result,?_,?_,?_⟩
  · exact (map_updateFirst (release_descriptor susp) sessions).trans pre.descriptors
  · intro s here handled
    rw [lookup]
    by_cases same : s.sessionId = susp.sessionId
    · rw [if_pos same, same_suspension nodup here present same, pre.others _ fresh]
    rw [if_neg same]
    have earlier : s.sessionId ∈ ids := by
      rcases mem_append.mp handled with old | new
      · exact old
      · exact absurd (mem_singleton.mp new) same
    exact pre.released s here earlier
  · intro id untouched
    rw [mem_append, not_or, mem_singleton] at untouched
    rw [lookup, if_neg untouched.2]
    exact pre.others id untouched.1

theorem restoreSessions_spec
    (once : ids.Nodup) (each : ∀ id ∈ ids, ∃ susp ∈ st.taskArchiveSuspensions, susp.sessionId = id ∧
      (susp.taskId.all fun id => id == tid) ∧ (st.session? id).isSome) :
    ∃ next resumable, forEach (restoreSession tid) ids (st, []) =
        (.ok (), (st.without ids next, resumable)) ∧ Restored st ids next := by
  have loop : ∃ pair, forEach (restoreSession tid) ids (st, []) = (.ok (), pair) ∧
      ∃ next, pair.1 = st.without ids next ∧ Restored st ids next := by
    apply forEach_succeeds
    · rintro handled id rest ⟨t,resumable⟩ whole ⟨sessions,shape,pre⟩
      cases shape
      have here : id ∈ ids := by rw [whole]; simp
      obtain ⟨susp,present,same,named,lives⟩ := each id here
      obtain ⟨sess,hit⟩ := Option.isSome_iff_exists.mp lives
      subst same
      have fresh : susp.sessionId ∉ handled := by
        rw [whole, nodup_append] at once
        exact fun old => once.2.2 _ old _ mem_cons_self rfl
      obtain ⟨next,more,passed,after⟩ :=
        restoreSession_step nodup pre present named fresh hit
      exact ⟨_,passed,next,rfl,after⟩
    · refine ⟨st.sessions,by simp [CurrentState.without],rfl,?_,fun _ _ => rfl⟩
      intro susp _ handled
      cases handled
  obtain ⟨⟨t,resumable⟩,finished,next,shape,after⟩ := loop
  cases shape
  exact ⟨next,resumable,finished,after⟩

end RestoreLoop

end TermloopStore

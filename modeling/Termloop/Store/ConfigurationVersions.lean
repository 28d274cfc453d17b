import Termloop.Lib.Runs
import Termloop.Store.StateFile

/-!
Versions of configurations. A save whose content differs from the selected snapshot
records a new one, selects it and trims the history of its target; a restore saves the
content of an old snapshot and then selects the old one again. The Project and the thing
that is improved are kept here as one pair, the target.
-/
namespace TermloopVersions
open TermloopRecordLists TermloopOutcome TermloopRuns TermloopSaturating TermloopStore List
open TermloopText TermloopSessions

def configurationVersionContentMaxBytes : Nat := 512 * 1024
def configurationVersionSummaryMaxBytes : Nat := 2 * 1024
def configurationVersionsPerTargetMax : Nat := 24

abbrev Target : Type := String × ImproverSessionTarget

structure ConfigurationVersion where
  id : String
  target : Target
  sequence : Fin (u64Max + 1)
  (content summary : String)
  sourceSessionId : Option String
  createdAt : Nat
  deriving DecidableEq

structure ConfigurationVersionSelection where
  target : Target
  versionId : String
  deriving DecidableEq

structure History where
  versions : List ConfigurationVersion
  selections : List ConfigurationVersionSelection
  deriving DecidableEq

def boundedId (value : String) : Bool :=
  !value.isEmpty && decide (value.utf8ByteSize ≤ 128) && !value.toList.any isControl

def ConfigurationVersion.isWellFormed (v : ConfigurationVersion) : Bool :=
  boundedId v.id
    && !isBlank v.target.1
    && ImproverSessionTarget.isWellFormed v.target.2
    && decide (0 < v.sequence.val)
    && !v.content.isEmpty
    && decide (v.content.utf8ByteSize ≤ configurationVersionContentMaxBytes)
    && decide (v.summary.utf8ByteSize ≤ configurationVersionSummaryMaxBytes)
    && v.sourceSessionId.all boundedId
    && decide (0 < v.createdAt)

def ConfigurationVersionSelection.isWellFormed (s : ConfigurationVersionSelection) : Bool :=
  !isBlank s.target.1 && ImproverSessionTarget.isWellFormed s.target.2 && boundedId s.versionId

def versionsOf (target : Target) (versions : List ConfigurationVersion) :
    List ConfigurationVersion :=
  versions.filter (·.target == target)

/-- The load-time check; `targetExists` looks the target up in the rest of the file. -/
def configurationVersionsAreInvalid (targetExists : Target → Bool) (history : History) : Bool :=
  anyWithLater (fun v later =>
      !v.isWellFormed || !targetExists v.target
        || later.any (fun w => w.id == v.id || w.target == v.target && w.sequence == v.sequence)
        || decide (configurationVersionsPerTargetMax <
          (versionsOf v.target history.versions).length)) history.versions
    || anyWithLater (fun s later =>
      !s.isWellFormed || later.any (·.target == s.target)
        || !history.versions.any fun v => v.id == s.versionId && v.target == s.target)
      history.selections
    || history.versions.any fun v => !history.selections.any (·.target == v.target)

def History.activeVersion (history : History) (target : Target) : Option ConfigurationVersion :=
  (history.selections.find? (·.target == target)).bind fun s =>
    history.versions.find? (·.id == s.versionId)

/-- One more than the sequence of `newest_version`, as a saturating word. -/
def History.nextSequence (history : History) (target : Target) : Fin (u64Max + 1) :=
  match ((versionsOf target history.versions).map (·.sequence.val)).max? with
  | none => ⟨1, by decide⟩
  | some newest => ⟨saturatingAdd newest 1, Nat.lt_succ_of_le (saturatingAdd_le newest 1)⟩

def select (target : Target) (versionId : String) :
    List ConfigurationVersionSelection → List ConfigurationVersionSelection :=
  upsert (·.target) ⟨target, versionId⟩

structure VersionRecord where
  summary : String
  sourceSessionId : Option String
  createdAt : Nat

def VersionRecord.onto (record : VersionRecord) (v : ConfigurationVersion) : ConfigurationVersion :=
  { v with
    summary := record.summary, sourceSessionId := record.sourceSessionId
    createdAt := record.createdAt }

def bySequence (a b : ConfigurationVersion × Nat) : Bool := decide (a.1.sequence ≤ b.1.sequence)

/-- Versions with the lowest sequences go until the target is within its limit. -/
def trimVersions (target : Target) (versions : List ConfigurationVersion) :
    List ConfigurationVersion :=
  let indices := (versions.zipIdx.filter (·.1.target == target)).mergeSort bySequence
  let excess := (versionsOf target versions).length - configurationVersionsPerTargetMax
  (indices.take excess).reverse.foldl (fun kept entry => kept.eraseIdx entry.2) versions

def newVersion (id : String) (target : Target) (content : String) (record : VersionRecord)
    (history : History) : ConfigurationVersion :=
  { id := id, target := target, sequence := history.nextSequence target, content := content
    summary := record.summary, sourceSessionId := record.sourceSessionId
    createdAt := record.createdAt }

def recordVersion (id : String) (target : Target) (content : String) (record : VersionRecord)
    (history : History) : History :=
  if (history.activeVersion target).any (·.content == content) then history
  else
    { versions := trimVersions target
        (history.versions ++ [newVersion id target content record history])
      selections := select target id history.selections }

/-- A save of the same content that nobody expected. -/
def History.transientSave (history : History) (target : Target) (expectedPrevious : Option String)
    (selectedId appliedContent : String) : Option ConfigurationVersion :=
  (history.activeVersion target).filter fun v => some v.id != expectedPrevious && v.id != selectedId
    && v.content == appliedContent && v.sourceSessionId.isNone

def selectConfigurationVersion (target : Target) (expectedPrevious : Option String)
    (selectedId appliedContent : String) (persisted : Bool) (history : History) :
    Outcome StoreError History ConfigurationVersion :=
  match history.versions.find? fun v =>
      v.id == selectedId && v.target == target && v.content == appliedContent with
  | none => (.error .notFound, history)
  | some selected =>
    let current := history.activeVersion target
    let transient := history.transientSave target expectedPrevious selectedId appliedContent
    if current.map (·.id) != expectedPrevious && transient.isNone then
      (.error .revisionConflict, history)
    else if !persisted then (.error .io, history)
    else
      (.ok selected,
        { versions := history.versions.filter fun v => !transient.any fun gone => v.id == gone.id
          selections := select target selectedId history.selections })

def finalizeConfigurationActivation (id : String) (target : Target)
    (expectedPrevious : Option String) (content : String) (record : VersionRecord)
    (persisted : Bool) (history : History) : Outcome StoreError History ConfigurationVersion :=
  let active := history.activeVersion target
  let record := { record with createdAt := max record.createdAt 1 }
  if active.isNone && expectedPrevious.isSome
      || active.any (fun v => v.id != expectedPrevious.getD "" && v.content != content) then
    (.error .revisionConflict, history)
  else
    let matchesExpected := active.map (·.id) == expectedPrevious
    match active.filter fun v => matchesExpected && v.content == content with
    | some v => (.ok v, history)
    | none =>
      let recorded := if matchesExpected then recordVersion id target content record history
        else history
      match recorded.activeVersion target with
      | none => (.error .notFound, recorded)
      | some v =>
        if persisted then
          (.ok (record.onto v), { recorded with
            versions := updateFirst (·.id == v.id) record.onto recorded.versions })
        else (.error .io, history)

def removeConfigurationTargetState (target : Target) (history : History) : History :=
  { versions := history.versions.filter fun v => v.target != target
    selections := history.selections.filter (·.target != target) }

inductive CoreError where
  | capabilityDenied
  | invalidParams (field : String)
  | store (error : StoreError)
  deriving DecidableEq

/-- Every target with versions has one selection, and it names a version of the target. -/
structure Closed (history : History) : Prop where
  ids : history.versions.Pairwise fun a b => b.id ≠ a.id
  single : history.selections.Pairwise fun a b => b.target ≠ a.target
  selected : ∀ v ∈ history.versions, ∃ s ∈ history.selections, s.target = v.target
  present : ∀ s ∈ history.selections,
    ∃ v ∈ history.versions, v.id = s.versionId ∧ v.target = s.target

def Numbered (versions : List ConfigurationVersion) : Prop :=
  versions.Pairwise fun a b => b.target = a.target → b.sequence ≠ a.sequence

def Fits (versions : List ConfigurationVersion) : Prop :=
  ∀ target, (versionsOf target versions).length ≤ configurationVersionsPerTargetMax

/-- Sequences of a target differ as long as its counter is below the largest word. -/
structure Lawful (counted : Prop) (history : History) : Prop extends Closed history where
  fits : Fits history.versions
  numbered : counted → Numbered history.versions

section Facts
variable {past : History} {target : Target} {versions : List ConfigurationVersion}
  {selections : List ConfigurationVersionSelection} {v w : ConfigurationVersion}
  {id content : String} {record : VersionRecord} {counted : Prop}

theorem mem_versionsOf : v ∈ versionsOf target versions ↔ v ∈ versions ∧ v.target = target := by
  rw [versionsOf, mem_filter, beq_iff_eq]

theorem lawful_of_valid
    (fine : configurationVersionsAreInvalid targetExists past = false) : Lawful counted past := by
  simp only [configurationVersionsAreInvalid, Bool.or_eq_false_iff] at fine
  obtain ⟨⟨versions,selections⟩,missing⟩ := fine
  have apart : (∀ v ∈ past.versions, v.isWellFormed ∧ targetExists v.target ∧
        (versionsOf v.target past.versions).length ≤ configurationVersionsPerTargetMax) ∧
      past.versions.Pairwise fun a b =>
        b.id ≠ a.id ∧ (b.target = a.target → b.sequence ≠ a.sequence) := by
    refine (anyWithLater_eq_false (fun v later => ?_) _).mp versions
    simp
    tauto
  have mem : (∀ s ∈ past.selections, s.isWellFormed ∧
        ∃ v ∈ past.versions, v.id = s.versionId ∧ v.target = s.target) ∧
      past.selections.Pairwise fun a b => b.target ≠ a.target := by
    refine (anyWithLater_eq_false (fun s later => ?_) _).mp selections
    simp
    tauto
  refine ⟨⟨apart.2.imp (·.1),mem.2,by simpa using missing,fun s member =>
    (mem.1 s member).2⟩,fun target => ?_,fun _ => apart.2.imp (·.2)⟩
  cases own : versionsOf target past.versions with
  | nil => exact Nat.zero_le _
  | cons v rest =>
    obtain ⟨member,same⟩ := mem_versionsOf.mp (own ▸ mem_cons_self)
    rw [← own, ← same]
    exact (apart.1 v member).2.2

theorem activeVersion_iff (closed : Closed past) : past.activeVersion target = some v ↔
      v ∈ past.versions ∧ v.target = target ∧ ⟨target, v.id⟩ ∈ past.selections := by
  constructor
  · intro active
    obtain ⟨s,hit,named⟩ := Option.bind_eq_some_iff.mp active
    have own : s.target = target := by simpa using find?_some hit
    have same : v.id = s.versionId := by simpa using find?_some named
    have here := mem_of_find?_eq_some named
    obtain ⟨w,member,its,theirs⟩ := closed.present s (mem_of_find?_eq_some hit)
    cases eq_of_key closed.ids here member (same.trans its.symm)
    exact ⟨here,theirs.trans own,by rw [same, ← own]; exact mem_of_find?_eq_some hit⟩
  · rintro ⟨here,rfl,named⟩
    have hit : (past.selections.find? (·.target == v.target)) = some ⟨v.target,v.id⟩ :=
      find?_eq_some_of_only named (by simp) fun s mem same =>
        eq_of_key closed.single mem named (beq_iff_eq.mp same)
    rw [History.activeVersion, hit]
    exact find?_eq_some_of_only here (by simp) fun w mem same =>
      eq_of_key closed.ids mem here (beq_iff_eq.mp same)

theorem closed_selected (closed : Closed past)
    (ids : versions.Pairwise fun a b => b.id ≠ a.id) (member : v ∈ versions)
    (others : ∀ w, w.target ≠ v.target → (w ∈ versions ↔ w ∈ past.versions)) :
    Closed ⟨versions, select v.target v.id past.selections⟩ ∧
      History.activeVersion ⟨versions, select v.target v.id past.selections⟩ v.target = some v := by
  suffices after : Closed ⟨versions,select v.target v.id past.selections⟩ from
    ⟨after,(activeVersion_iff after).mpr ⟨member,rfl,(mem_upsert closed.single).mpr (.inl rfl)⟩⟩
  refine ⟨ids,upsert_distinct closed.single,fun w mem => ?_,fun s mem => ?_⟩
  · by_cases own : w.target = v.target
    · exact ⟨_,(mem_upsert closed.single).mpr (.inl rfl),own.symm⟩
    · obtain ⟨s,there,same⟩ := closed.selected w ((others w own).mp mem)
      exact ⟨s,(mem_upsert closed.single).mpr (.inr ⟨there,same ▸ own⟩),same⟩
  · rcases (mem_upsert closed.single).mp mem with rfl | ⟨old,other⟩
    · exact ⟨v,member,rfl,rfl⟩
    · obtain ⟨w,there,named,same⟩ := closed.present s old
      exact ⟨w,(others w (same ▸ other)).mpr there,named,same⟩

/-- What is trimmed is a lowest sequence, and never the version recorded last: the sort is
    stable. -/
theorem trimVersions_cases {front : List ConfigurationVersion}
    (ids : (front ++ [v]).Pairwise fun a b => b.id ≠ a.id)
    (fits : (versionsOf v.target front).length ≤ configurationVersionsPerTargetMax)
    (newest : ∀ w ∈ versionsOf v.target front, w.sequence ≤ v.sequence) :
    ((versionsOf v.target front).length < configurationVersionsPerTargetMax ∧
      trimVersions v.target (front ++ [v]) = front ++ [v]) ∨
    ∃ oldest ∈ versionsOf v.target front,
      (versionsOf v.target front).length = configurationVersionsPerTargetMax ∧
      (∀ w ∈ versionsOf v.target front, oldest.sequence ≤ w.sequence) ∧
      trimVersions v.target (front ++ [v]) = (front ++ [v]).filter (·.id != oldest.id) := by
  have size : (versionsOf v.target (front ++ [v])).length =
      (versionsOf v.target front).length + 1 := by simp [versionsOf]
  rcases Nat.lt_or_eq_of_le fits with room | full
  · refine .inl ⟨room,?_⟩
    rw [trimVersions, size, Nat.sub_eq_zero_of_le room, take_zero, reverse_nil, foldl_nil]
  right
  rw [trimVersions, size, full, Nat.add_sub_cancel_left]
  have trans : ∀ a b c, bySequence a b → bySequence b c →
      bySequence a c := by
    intro a b c
    simp only [bySequence, decide_eq_true_eq, Fin.le_def]
    omega
  have total : ∀ a b, (bySequence a b || bySequence b a) := by
    intro a b
    simp only [bySequence, Bool.or_eq_true, decide_eq_true_eq, Fin.le_def]
    omega
  have split : ((front ++ [v]).zipIdx.filter (·.1.target == v.target)) =
      (front.zipIdx.filter (·.1.target == v.target)) ++ [(v, front.length)] := by
    simp [zipIdx_append]
  have apart : ((front.zipIdx.filter (·.1.target == v.target)) ++ [(v, front.length)]).Nodup := by
    rw [← split]
    rw [← zipIdx_map_fst 0 (front ++ [v])] at ids
    exact ((pairwise_map.mp ids).imp fun differ => ne_of_apply_ne (·.1.id) differ.symm).filter _
  have place : ∀ w ∈ versionsOf v.target front, ∃ i, (w, i) ∈ front.zipIdx.filter
      (·.1.target == v.target) := by
    intro w member
    obtain ⟨i,there⟩ := mem_iff_getElem?.mp (mem_versionsOf.mp member).1
    refine ⟨i,mem_filter.mpr ⟨mem_zipIdx_iff_getElem?.mpr there,?_⟩⟩
    simpa using (mem_versionsOf.mp member).2
  have some_old : 0 < (versionsOf v.target front).length := by
    rw [full]
    decide
  obtain ⟨w,member⟩ := exists_mem_of_length_pos some_old
  obtain ⟨i,listed⟩ := place w member
  have last := head_mergeSort_ne_last trans total apart listed (decide_eq_true (newest w member))
  have sorted := pairwise_mergeSort trans total
    ((front.zipIdx.filter (·.1.target == v.target)) ++ [(v, front.length)])
  rw [split]
  cases order : ((front.zipIdx.filter (·.1.target == v.target)) ++
      [(v, front.length)]).mergeSort bySequence with
  | nil => exact absurd (order ▸ mem_mergeSort.mpr (mem_append_left _ listed)) not_mem_nil
  | cons first rest =>
    rw [order] at sorted
    have here := mem_mergeSort.mp (order ▸ mem_cons_self : first ∈ mergeSort _ bySequence)
    have old := (mem_append.mp here).resolve_right (last first rest order <| mem_singleton.mp ·)
    obtain ⟨there,own⟩ := mem_filter.mp old
    have found := mem_zipIdx_iff_getElem?.mp there
    refine ⟨first.1,mem_versionsOf.mpr ⟨mem_of_getElem? found,beq_iff_eq.mp own⟩,rfl,?_,?_⟩
    · intro w member
      obtain ⟨j,also⟩ := place w member
      have either := order ▸ mem_mergeSort.mpr (mem_append_left _ also)
      rcases mem_cons.mp either with same | later
      · exact same ▸ Nat.le_refl _
      · simpa [bySequence] using (pairwise_cons.mp sorted).1 _ later
    · refine eraseIdx_eq_filter ids ?_
      rw [getElem?_append_left (List.getElem?_eq_some_iff.mp found).1, found]

theorem nextSequence_above (member : v ∈ versionsOf target past.versions) :
    v.sequence ≤ past.nextSequence target ∧
      ((∀ w ∈ versionsOf target past.versions, w.sequence.val < u64Max) →
        v.sequence < past.nextSequence target) := by
  have mem := mem_map_of_mem (f := (·.sequence.val)) member
  obtain ⟨newest,top⟩ := Option.isSome_iff_exists.mp (isSome_max?_of_mem mem)
  obtain ⟨last,there,same⟩ := mem_map.mp (max?_mem top)
  have below : v.sequence.val ≤ newest := (max?_eq_some_iff.mp top).2 _ mem
  have word := last.sequence.isLt
  have next : (past.nextSequence target).val = saturatingAdd newest 1 := by
    simp only [History.nextSequence, top]
  rw [Fin.le_def, Fin.lt_def, next, saturatingAdd]
  refine ⟨by omega,fun room => ?_⟩
  have := room last there
  omega

theorem sequences_apart (target : Target) (numbered : Numbered versions) :
    (versionsOf target versions).Pairwise fun a b => b.sequence ≠ a.sequence := by
  refine (numbered.sublist filter_sublist).imp_of_mem fun one other differ => ?_
  exact differ ((mem_versionsOf.mp other).2.trans (mem_versionsOf.mp one).2.symm)

/-- The new version is selected, and a full history loses the target's lowest sequence. -/
structure Recorded (history : History) (new : ConfigurationVersion) (after : History) : Prop where
  closed : Closed after
  fits : Fits after.versions
  active : after.activeVersion new.target = some new
  numbered : Numbered history.versions →
    (∀ w ∈ versionsOf new.target history.versions, w.sequence.val < u64Max) →
    Numbered after.versions
  kept : Numbered history.versions → ∀ w, w ∈ after.versions ↔ w = new ∨ w ∈ history.versions ∧
    ((versionsOf new.target history.versions).length = configurationVersionsPerTargetMax →
      w.target = new.target →
        ∃ older ∈ versionsOf new.target history.versions, older.sequence < w.sequence)

theorem recordVersion_recorded (lawful : Lawful counted past)
    (fresh : ∀ w ∈ past.versions, w.id ≠ id)
    (differs : ∀ w, past.activeVersion target = some w → w.content ≠ content) :
    Recorded past (newVersion id target content record past)
      (recordVersion id target content record past) := by
  have edited : ¬ ((past.activeVersion target).any (·.content == content)) := by
    rw [Option.any_eq_true]
    rintro ⟨w,active,same⟩
    exact differs w active (beq_iff_eq.mp same)
  rw [recordVersion, if_neg edited]
  generalize made : newVersion id target content record past = new
  obtain ⟨rfl,rfl,number⟩ : new.id = id ∧ new.target = target ∧
      new.sequence = past.nextSequence target := made ▸ ⟨rfl,rfl,rfl⟩
  have ids : (past.versions ++ [new]).Pairwise fun a b => b.id ≠ a.id := by
    refine pairwise_append.mpr ⟨lawful.ids,pairwise_singleton _ _,?_⟩
    intro a member b there
    exact mem_singleton.mp there ▸ (fresh a member).symm
  have numbers : Numbered past.versions →
      (∀ w ∈ versionsOf new.target past.versions, w.sequence.val < u64Max) →
      Numbered (past.versions ++ [new]) := by
    intro numbered room
    refine pairwise_append.mpr ⟨numbered,pairwise_singleton _ _,?_⟩
    intro a member b there same
    cases mem_singleton.mp there
    have above := (nextSequence_above (mem_versionsOf.mpr ⟨member,same.symm⟩)).2 room
    exact number ▸ (Fin.ne_of_lt above).symm
  have fits := lawful.fits new.target
  -- a part of the longer list with the new version is all that is left to find
  have finish : ∀ kept : List ConfigurationVersion, kept.Sublist (past.versions ++ [new]) →
      (versionsOf new.target kept).length ≤ configurationVersionsPerTargetMax → new ∈ kept →
      (∀ w, w.target ≠ new.target → w ∈ past.versions → w ∈ kept) →
      (Numbered past.versions → ∀ w, w ∈ kept ↔ w = new ∨ w ∈ past.versions ∧
        ((versionsOf new.target past.versions).length = configurationVersionsPerTargetMax →
          w.target = new.target →
            ∃ older ∈ versionsOf new.target past.versions, older.sequence < w.sequence)) →
      Recorded past new ⟨kept,select new.target new.id past.selections⟩ := by
    intro kept part within here others members
    obtain ⟨closed,active⟩ := closed_selected lawful.toClosed (ids.sublist part) here fun w other => by
      refine ⟨fun stays => ?_,others w other⟩
      exact (mem_append.mp (part.subset stays)).resolve_right fun is =>
        other (mem_singleton.mp is ▸ rfl)
    refine ⟨closed,fun other => ?_,active,fun numbered room => (numbers numbered room).sublist part,
      members⟩
    by_cases same : other = new.target
    · exact same ▸ within
    have fewer := (part.filter (·.target == other)).length_le
    simp only [filter_append, filter_singleton, beq_eq_false_iff_ne.mpr (Ne.symm same),
      cond_false, append_nil] at fewer
    exact Nat.le_trans fewer (lawful.fits other)
  have newest : ∀ w ∈ versionsOf new.target past.versions, w.sequence ≤ new.sequence :=
    fun w there => number ▸ (nextSequence_above there).1
  rcases trimVersions_cases ids fits newest with ⟨room,same⟩ | ⟨oldest,old,full,least,same⟩
  · rw [same]
    refine finish _ (.refl _) ?_ (by simp) (fun w _ old => mem_append_left _ old) fun _ w => ?_
    · simpa [versionsOf] using Nat.succ_le_of_lt room
    · rw [mem_append, mem_singleton, or_comm]
      exact or_congr_right (and_iff_left_of_imp fun _ full => absurd full (Nat.ne_of_lt room)).symm
  · obtain ⟨there,own⟩ := mem_versionsOf.mp old
    rw [same]
    refine finish _ filter_sublist ?_ ?_ (fun w other here => ?_) fun numbered w => ?_
    · have fewer : ((versionsOf new.target past.versions).filter (·.id != oldest.id)).length < _ :=
        length_filter_lt_length_iff_exists.mpr ⟨oldest,old,by simp⟩
      rw [versionsOf, filter_comm, filter_append, filter_append, length_append]
      have one := ((length_filter_le (·.id != oldest.id) _).trans
        (length_filter_le (·.target == new.target) [new]))
      exact Nat.le_trans (Nat.add_le_add_left one _) (full ▸ fewer)
    · exact mem_filter.mpr ⟨by simp,bne_iff_ne.mpr (fresh oldest there).symm⟩
    · refine mem_filter.mpr ⟨mem_append_left _ here,bne_iff_ne.mpr fun is => other ?_⟩
      exact eq_of_key lawful.ids here there is ▸ own
    · rw [mem_filter, mem_append, mem_singleton, bne_iff_ne, or_and_right, or_comm]
      refine or_congr (and_iff_left_of_imp fun is => is ▸ (fresh oldest there).symm)
        (and_congr_right fun here => ⟨fun other _ mine => ?_,fun stays is => ?_⟩)
      · have mem := mem_versionsOf.mpr ⟨here,mine⟩
        refine ⟨oldest,old,Nat.lt_of_le_of_ne (least w mem) fun equal => other ?_⟩
        rw [eq_of_key (sequences_apart _ numbered) old mem (Fin.eq_of_val_eq equal)]
      · cases eq_of_key lawful.ids here there is
        obtain ⟨older,lower,below⟩ := stays full own
        exact Nat.not_lt.mpr (least older lower) below

theorem recordVersion_same (active : past.activeVersion target = some v)
    (same : v.content = content) : recordVersion id target content record past = past := by
  simp [recordVersion, active, same]

theorem recordVersion_lawful (lawful : Lawful counted past) (fresh : ∀ w ∈ past.versions, w.id ≠ id)
    (room : counted → ∀ w ∈ versionsOf target past.versions, w.sequence.val < u64Max) :
    Lawful counted (recordVersion id target content record past) := by
  by_cases same : ∃ v, past.activeVersion target = some v ∧ v.content = content
  · obtain ⟨v,active,equal⟩ := same
    rwa [recordVersion_same active equal]
  · have recorded : Recorded past (newVersion id target content record past)
        (recordVersion id target content record past) :=
      recordVersion_recorded lawful fresh fun v active equal => same ⟨v,active,equal⟩
    exact ⟨recorded.closed,recorded.fits,fun counts =>
      recorded.numbered (lawful.numbered counts) (room counts)⟩

theorem closed_reselected (closed : Closed past) (member : v ∈ past.versions)
    (saved : past.transientSave v.target expectedPrevious v.id content = transient) :
    Closed ⟨past.versions.filter fun w => !transient.any fun gone => w.id == gone.id,
        select v.target v.id past.selections⟩ ∧
      History.activeVersion ⟨past.versions.filter fun w =>
        !transient.any fun gone => w.id == gone.id, select v.target v.id past.selections⟩
        v.target = some v := by
  have stays : ∀ w ∈ past.versions, w.id = v.id ∨ w.target ≠ v.target →
      (!transient.any fun gone => w.id == gone.id) := by
    intro w here kept
    rw [Bool.not_eq_true', Option.any_eq_false]
    intro gone hit
    obtain ⟨active,checks⟩ := Option.filter_eq_some_iff.mp (saved.trans hit)
    simp only [Bool.and_eq_true, bne_iff_ne] at checks
    obtain ⟨there,own,-⟩ := (activeVersion_iff closed).mp active
    rw [beq_eq_false_iff_ne]
    intro same
    rcases kept with is | other
    · exact checks.1.1.2 (same.symm.trans is)
    · exact other (eq_of_key closed.ids here there same ▸ own)
  refine closed_selected closed (closed.ids.sublist filter_sublist) ?_ fun w other => ?_
  · exact mem_filter.mpr ⟨member,stays v member (.inl rfl)⟩
  · rw [mem_filter]
    exact and_iff_left_of_imp fun here => stays w here (.inr other)

variable (lawful : Lawful counted past)
include lawful

theorem lawful_part (closed : Closed ⟨versions, selections⟩)
    (part : versions.Sublist past.versions) : Lawful counted ⟨versions, selections⟩ :=
  ⟨closed,fun target => Nat.le_trans (part.filter _).length_le (lawful.fits target),fun counts =>
    (lawful.numbered counts).sublist part⟩

theorem selectConfigurationVersion_lawful :
    Lawful counted (selectConfigurationVersion target expectedPrevious selectedId appliedContent
      saves past).2 := by
  unfold selectConfigurationVersion
  split
  · exact lawful
  next v hit =>
  have mine := find?_some hit
  simp only [Bool.and_eq_true, beq_iff_eq] at mine
  obtain ⟨⟨rfl,rfl⟩,-⟩ := mine
  dsimp only
  iterate 2 (split; · exact lawful)
  have here := mem_of_find?_eq_some hit
  exact lawful_part lawful (closed_reselected lawful.toClosed here rfl).1 filter_sublist

theorem attributed_lawful : Lawful counted { past with
      versions := updateFirst (·.id == id) record.onto past.versions } := by
  refine ⟨⟨pairwise_updateFirst lawful.ids (fun _ _ _ _ apart => apart)
    (fun _ _ _ _ apart => apart),lawful.single,fun v member => ?_,fun s mem => ?_⟩,
    fun target => ?_,fun counts => pairwise_updateFirst (lawful.numbered counts)
      (fun _ _ _ _ apart => apart) (fun _ _ _ _ apart => apart)⟩
  · rcases mem_updateFirst member with old | ⟨old,hit,rfl⟩
    · exact lawful.selected v old
    · exact lawful.selected old (mem_of_find?_eq_some hit)
  · obtain ⟨v,member,named,own⟩ := lawful.present s mem
    rcases mem_updateFirst_of_mem member with kept | hit
    · exact ⟨v,kept,named,own⟩
    · exact ⟨record.onto v,changed_mem_updateFirst hit,named,own⟩
  · have same : ((updateFirst (·.id == id) record.onto past.versions).map
        (·.target)).countP (· == target) = (past.versions.map (·.target)).countP (· == target) := by
      rw [map_updateFirst (by intro; rfl)]
    rw [countP_map, countP_map, countP_eq_length_filter, countP_eq_length_filter] at same
    exact Nat.le_trans (Nat.le_of_eq same) (lawful.fits target)

theorem finalizeConfigurationActivation_lawful (fresh : ∀ w ∈ past.versions, w.id ≠ id)
    (room : counted → ∀ w ∈ versionsOf target past.versions, w.sequence.val < u64Max) :
    Lawful counted (finalizeConfigurationActivation id target expectedPrevious content record saves
      past).2 := by
  unfold finalizeConfigurationActivation
  dsimp only
  iterate 2 (split; · exact lawful)
  have recorded : ∀ (recording : Bool) (record : VersionRecord), Lawful counted (if recording then
      recordVersion id target content record past else past) := by
    intro recording record
    split
    · exact recordVersion_lawful lawful fresh room
    · exact lawful
  split
  · exact recorded _ _
  split
  · exact attributed_lawful (recorded _ _)
  · exact lawful

theorem removeConfigurationTargetState_lawful :
    Lawful counted (removeConfigurationTargetState target past) := by
  apply lawful_part lawful _ filter_sublist
  refine ⟨lawful.ids.sublist filter_sublist,lawful.single.sublist filter_sublist,
    fun v member => ?_,fun s member => ?_⟩
  · obtain ⟨here,other⟩ := mem_filter.mp member
    obtain ⟨s,mem,own⟩ := lawful.selected v here
    exact ⟨s,mem_filter.mpr ⟨mem,own ▸ other⟩,own⟩
  · obtain ⟨mem,other⟩ := mem_filter.mp member
    obtain ⟨v,here,named,own⟩ := lawful.present s mem
    exact ⟨v,mem_filter.mpr ⟨here,own ▸ other⟩,named,own⟩

end Facts

inductive VersionAction where
  | record (id : String) (target : Target) (content : String) (record : VersionRecord)
  | select (target : Target) (expectedPrevious : Option String) (selectedId appliedContent : String)
      (persisted : Bool)
  | finalize (id : String) (target : Target) (expectedPrevious : Option String) (content : String)
      (record : VersionRecord) (persisted : Bool)
  | remove (target : Target)

def perform (history : History) : VersionAction → History
  | .record id target content record => recordVersion id target content record history
  | .select target expectedPrevious selectedId appliedContent persisted =>
    (selectConfigurationVersion target expectedPrevious selectedId appliedContent persisted
      history).2
  | .finalize id target expectedPrevious content record persisted =>
    (finalizeConfigurationActivation id target expectedPrevious content record persisted history).2
  | .remove target => removeConfigurationTargetState target history

/-- The random id and the target of an action that may record. -/
def VersionAction.recording? : VersionAction → Option (String × Target)
  | .record id target _ _ | .finalize id target _ _ _ _ => some (id, target)
  | .select .. | .remove _ => none

def Step (history : History) (action : VersionAction) (after : History) : Prop :=
  (∀ id target, action.recording? = some (id, target) → ∀ v ∈ history.versions, v.id ≠ id) ∧
    after = perform history action

/-- Where an action records, the sequence has not reached the largest word. -/
def Countable (history : History) (action : VersionAction) : Prop :=
  ∀ id target, action.recording? = some (id, target) →
    ∀ v ∈ versionsOf target history.versions, v.sequence.val < u64Max

theorem step_lawful {counted : Prop} {past : History} {action : VersionAction} {after : History}
    (lawful : Lawful counted past) (countable : counted → Countable past action)
    (step : Step past action after) : Lawful counted after := by
  obtain ⟨fresh,rfl⟩ := step
  cases action with
  | record id target =>
    exact recordVersion_lawful lawful (fresh id target rfl)
      fun counts => countable counts id target rfl
  | select => exact selectConfigurationVersion_lawful lawful
  | finalize id target =>
    exact finalizeConfigurationActivation_lawful lawful (fresh id target rfl)
      fun counts => countable counts id target rfl
  | remove target => exact removeConfigurationTargetState_lawful lawful

/-- One selection for each target with versions, of a version that is there, and the limit
    hold after every run; sequences are distinct while none saturates. -/
theorem version_history_stays_lawful {targetExists : Target → Bool} {history after : History}
    {actions : List VersionAction}
    (fine : configurationVersionsAreInvalid targetExists history = false)
    (run : Run Step history actions after) :
    Closed after ∧ Fits after.versions ∧
      (Run (Guarded Countable Step) history actions after → Numbered after.versions) := by
  have lawful : Lawful False after :=
    run_invariant (Lawful False) (step_lawful · nofun) run (lawful_of_valid fine)
  refine ⟨lawful.toClosed,lawful.fits,fun counted => ?_⟩
  have numbered : Lawful True after := guarded_run_invariant (Lawful True)
    (fun lawful countable step => step_lawful lawful (fun _ => countable) step) counted
    (lawful_of_valid fine)
  exact numbered.numbered trivial

def playbookTarget : Target := ("project", ⟨.playbook, none⟩)

def playbookVersion (n : Nat) : ConfigurationVersion :=
  ⟨String.ofList (List.replicate n 'v'), playbookTarget, Fin.ofNat (u64Max + 1) n,
    String.ofList (List.replicate n 'c'), "Playbook saved", none, 1⟩

def fullHistory : History :=
  ⟨(List.range 24).map fun n => playbookVersion (n + 1),
    [⟨playbookTarget, (playbookVersion 24).id⟩]⟩

theorem fullHistory_valid : configurationVersionsAreInvalid (fun _ => true) fullHistory = false := by
  decide +kernel

/-- The full history with its oldest version selected. -/
def rewound : History := { fullHistory with selections := [⟨playbookTarget, "v"⟩] }

def rewind : VersionAction :=
  .select playbookTarget (some (playbookVersion 24).id) "v" "c" true

def savedPlaybook : VersionRecord := ⟨"Playbook saved", none, 1⟩

theorem full_history_stays_lawful :
    ∃ after, Run Step fullHistory [rewind, .record "w" playbookTarget "d" savedPlaybook] after ∧
      Closed after ∧ Fits after.versions ∧ Numbered after.versions ∧
      playbookVersion 1 ∉ after.versions := by
  have back : Step fullHistory rewind rewound := ⟨by rintro _ _ ⟨⟩,by decide +kernel⟩
  have fresh : ∀ v ∈ rewound.versions, v.id ≠ "w" := by decide +kernel
  have low : ∀ v ∈ versionsOf playbookTarget rewound.versions, v.sequence.val < u64Max := by
    decide +kernel
  have saves : Step rewound (.record "w" playbookTarget "d" savedPlaybook) _ :=
    ⟨by rintro _ _ ⟨⟩; exact fresh,rfl⟩
  have run := Run.cons back (run_single saves)
  have guarded : Run (Guarded Countable Step) fullHistory _ _ := Run.cons ⟨by rintro _ _ ⟨⟩,back⟩
    (run_single ⟨by rintro _ _ ⟨⟩; exact low,saves⟩)
  obtain ⟨closed,fits,numbered⟩ := version_history_stays_lawful fullHistory_valid run
  refine ⟨_,run,closed,fits,numbered guarded,fun still => ?_⟩
  have lawful : Lawful True rewound :=
    step_lawful (lawful_of_valid fullHistory_valid) (by rintro _ _ _ ⟨⟩) back
  have recorded : Recorded rewound _ (recordVersion "w" playbookTarget "d" savedPlaybook rewound) :=
    recordVersion_recorded lawful fresh (by decide +kernel)
  rcases (recorded.kept (lawful.numbered trivial) _).mp still with new | ⟨-,stays⟩
  · exact fresh (playbookVersion 1) (by decide +kernel) (congrArg (·.id) new)
  · exact absurd (stays (by decide +kernel) rfl) (by decide +kernel)

/-- The largest word is recorded twice: the sequence saturates. -/
theorem saturated_sequence_repeats : ∃ history action after,
    configurationVersionsAreInvalid (fun _ => true) history = false ∧
      Step history action after ∧ ¬ Numbered after.versions := by
  refine ⟨⟨[{ playbookVersion 1 with sequence := ⟨u64Max,by decide⟩ }],[⟨playbookTarget,"v"⟩]⟩,
    .record "w" playbookTarget "d" ⟨"Playbook saved",none,1⟩,_,by decide +kernel,
    ⟨?_,rfl⟩,by unfold Numbered; decide +kernel⟩
  rintro id target ⟨⟩
  simp [playbookVersion]

section Restore
variable {past saved : History} {v a : ConfigurationVersion} {save : OwningSave}
  {expected : Option String}

/-- It answers the version, selects it, and leaves every other version as it was. -/
def Restored (history : History) (v : ConfigurationVersion)
    (result : Outcome CoreError History ConfigurationVersion) : Prop :=
  result.1 = .ok v ∧ result.2.activeVersion v.target = some v ∧
    ∀ w ∈ result.2.versions, w ∈ history.versions

end Restore

end TermloopVersions

import Termloop.Core.CheckClaims
import Termloop.Core.RoutineReports

/-!
When the configuration that a report hands to the store is one that the store takes.
The validator asks for keys and findings without repetition, and the three reports
append, replace and trim by different rules. What the validator says is put as a
structure first; then each report is shown to keep all of it but the parts that its
own rule does not look at, and those are the condition.
-/
namespace TermloopStorable
open TermloopText List
open TermloopRecordLists TermloopOutcome TermloopRuns TermloopSaturating TermloopStore TermloopWorkflow
open TermloopRoutine TermloopTracker TermloopReports
variable {text value : String} {values keys : List String} {generation ended : Nat}
  {findings : List PendingRoutineFinding} {config : TrackerConfiguration}
  {update : RoutineUpdate} {step : PlaybookStepAssignment} {answer : PlaybookStepProgress}

theorem takeBytes_size (room : Nat) (chars : List Char) :
    String.utf8Len (takeBytes room chars) ≤ room := by
  induction chars generalizing room with
  | nil => exact Nat.zero_le room
  | cons c rest ih =>
    rw [takeBytes]
    split
    case isTrue fits =>
      have rest_size := ih (room - c.utf8Size)
      rw [String.utf8Len_cons]
      omega
    case isFalse => exact Nat.zero_le room

theorem truncateUtf8_size : (truncateUtf8 value maxBytes).utf8ByteSize ≤ maxBytes := by
  rw [truncateUtf8]
  split
  case isTrue fits => exact fits
  case isFalse =>
    rw [String.utf8ByteSize_ofList]
    exact takeBytes_size maxBytes value.toList

theorem truncateUtf8_nonblank (room : 4 ≤ maxBytes) (nonblank : isBlank (trim text) = false) :
    isBlank (truncateUtf8 (trim text) maxBytes) = false := by
  rw [truncateUtf8]
  split
  case isTrue => exact nonblank
  case isFalse =>
    cases shape : (trim text).toList with
    | nil =>
      rw [isBlank, shape] at nonblank
      cases nonblank
    | cons c rest =>
      have fits : c.utf8Size ≤ maxBytes := c.utf8Size_le_four.trans room
      rw [isBlank, String.toList_ofList, takeBytes, if_pos fits, all_cons, trim_head shape,
        Bool.false_and]

theorem boundedUniqueValues_iff : boundedUniqueValues values maxItems maxBytes ↔
      values.length ≤ maxItems ∧
        (∀ value ∈ values, isBlank value = false ∧ value.utf8ByteSize ≤ maxBytes) ∧
        values.Nodup := by
  rw [boundedUniqueValues, Bool.and_eq_true, decide_eq_true_eq, Bool.not_eq_true',
    anyWithLater_eq_false]
  · rfl
  · intro value later
    rw [Bool.or_eq_false_iff, Bool.or_eq_false_iff, Bool.not_eq_false', decide_eq_true_eq]
    refine and_congr_right fun _ => ?_
    rw [contains_eq_mem, decide_eq_false_iff_not]
    exact ⟨fun absent s here same => absent (same ▸ here), fun apart here => apart value here rfl⟩

def KeyValid (key : String) : Prop :=
  isBlank key = false ∧ key.utf8ByteSize ≤ routineSourceKeyMaxBytes

def TasksValid (taskIds : List String) : Prop :=
  boundedUniqueValues taskIds routineRelatedTasksMax companionIdMaxBytes = true

@[mk_iff]
structure FindingSound (finding : PendingRoutineFinding) : Prop where
  id : isBlank finding.id = false ∧ finding.id.utf8ByteSize ≤ companionIdMaxBytes
  key : KeyValid finding.sourceKey
  generation : 0 < finding.routineGeneration
  summary : isBlank finding.summary = false ∧
    finding.summary.utf8ByteSize ≤ routineFindingSummaryMaxBytes
  evidence : isBlank finding.evidence = false ∧
    finding.evidence.utf8ByteSize ≤ routineFindingEvidenceMaxBytes
  references : boundedUniqueValues finding.sourceReferences trackerReportSourceRefsMax
    trackerReportSourceRefMaxBytes = true
  tasks : TasksValid finding.relatedTaskIds
  time : 0 < finding.createdAt

theorem finding_isValid_iff : finding.isValid ↔ FindingSound finding := by
  simp only [PendingRoutineFinding.isValid, findingSound_iff, KeyValid, TasksValid,
    Bool.and_eq_true, Bool.not_eq_true', decide_eq_true_eq, and_assoc]

@[mk_iff findings_iff_parts]
structure Findings (generation : Nat) (findings : List PendingRoutineFinding) : Prop where
  few : findings.length ≤ routinePendingFindingsMax
  valid : ∀ finding ∈ findings, finding.isValid = true ∧ finding.routineGeneration = generation
  apart : findings.Pairwise fun a b => b.id ≠ a.id ∧ b.sourceKey ≠ a.sourceKey

def SettingsValid (configuration : TrackerConfiguration) : Prop :=
  isBlank configuration.id = false ∧ isBlank configuration.projectId = false ∧
    isBlank configuration.name = false ∧
    configuration.name.utf8ByteSize ≤ trackerNameMaxBytes ∧
    isBlank configuration.prompt = false ∧
    configuration.prompt.utf8ByteSize ≤ trackerPromptMaxBytes ∧
    configuration.stewardInstructions.utf8ByteSize ≤ trackerPromptMaxBytes ∧
    trackerScheduleMinSeconds ≤ configuration.scheduleIntervalSeconds ∧
    configuration.scheduleIntervalSeconds ≤ trackerScheduleMaxSeconds ∧
    0 < configuration.generation

def KeysValid (keys : List String) : Prop :=
  boundedUniqueValues keys routineRecentSourceKeysMax routineSourceKeyMaxBytes = true

@[mk_iff]
structure Sound (configuration : TrackerConfiguration) : Prop where
  settings : SettingsValid configuration
  context : configuration.contextMarkdown.utf8ByteSize ≤ routineContextMaxBytes
  revision : 0 < configuration.contextRevision
  keys : KeysValid configuration.recentSourceKeys
  tasks : TasksValid configuration.relatedTaskIds
  findings : Findings configuration.generation configuration.pendingRoutineFindings
  quiet : configuration.actionHandling = .off → configuration.pendingRoutineFindings = []

theorem findings_iff : (findings.length ≤ routinePendingFindingsMax ∧
      anyWithLater (fun finding later =>
        !finding.isValid || !decide (finding.routineGeneration = generation)
          || later.any fun other => other.id == finding.id || other.sourceKey == finding.sourceKey)
        findings = false) ↔
      Findings generation findings := by
  rw [findings_iff_parts, anyWithLater_eq_false]
  intro finding later
  simp

theorem isValid_iff : config.isValid ↔ Sound config := by
  simp only [TrackerConfiguration.isValid, Bool.and_eq_true, Bool.not_eq_true', decide_eq_true_eq,
    Bool.or_eq_true, bne_iff_ne, List.isEmpty_iff]
  -- the same conjuncts in another order: schedule and generation count as settings
  rw [sound_iff, SettingsValid, ← findings_iff, imp_iff_not_or]
  simp only [KeysValid, TasksValid, ne_eq, and_assoc, and_comm, and_left_comm]

theorem mem_pushNew : other ∈ pushNew values value ↔ other ∈ values ∨ other = value := by
  rw [pushNew]
  split
  case isTrue known =>
    refine ⟨.inl,fun either => either.elim id fun same => ?_⟩
    rw [same]
    exact contains_iff_mem.mp known
  case isFalse => simp

theorem nodup_snoc (nodup : values.Nodup) (new : value ∉ values) : (values ++ [value]).Nodup := by
  rw [← concat_eq_append]
  exact nodup.concat new

theorem nodup_pushNew (nodup : values.Nodup) : (pushNew values value).Nodup := by
  rw [pushNew]
  split
  case isTrue => exact nodup
  case isFalse new =>
    rw [contains_iff_mem] at new
    exact nodup_snoc nodup new

theorem mem_foldl_pushNew {added : List String} :
    value ∈ added.foldl pushNew values ↔ value ∈ values ∨ value ∈ added := by
  induction added generalizing values with
  | nil => simp
  | cons first rest ih => rw [foldl_cons, ih, mem_pushNew, mem_cons, or_assoc]

theorem latestKeys_valid (valid : ∀ key ∈ keys, KeyValid key) (nodup : keys.Nodup) :
    KeysValid (latestKeys keys) := by
  refine boundedUniqueValues_iff.mpr ⟨?_,?_,?_⟩
  · rw [latestKeys, length_drop]
    omega
  · exact fun key kept => valid key (mem_of_mem_drop kept)
  · exact nodup.sublist (drop_sublist _ _)

theorem latestKeys_pushNew (keysValid : KeysValid keys) (valid : KeyValid key) :
    KeysValid (latestKeys (pushNew keys key)) := by
  obtain ⟨_,each,nodup⟩ := boundedUniqueValues_iff.mp keysValid
  refine latestKeys_valid ?_ (nodup_pushNew nodup)
  intro other here
  rcases mem_pushNew.mp here with old | rfl
  · exact each other old
  · exact valid

theorem latestKeys_self (keysValid : KeysValid keys) : latestKeys keys = keys := by
  have few := (boundedUniqueValues_iff.mp keysValid).1
  rw [latestKeys, Nat.sub_eq_zero_of_le few, drop_zero]

def keptKeys (keys : List String) : List String :=
  keys.drop (keys.length + 1 - routineRecentSourceKeysMax)

theorem latestKeys_append_iff (keysValid : KeysValid keys) (valid : KeyValid key) :
    KeysValid (latestKeys (keys ++ [key])) ↔ key ∉ keptKeys keys := by
  obtain ⟨few,each,nodup⟩ := boundedUniqueValues_iff.mp keysValid
  have within : keys.length + 1 - routineRecentSourceKeysMax ≤ keys.length := by
    simp only [routineRecentSourceKeysMax]
    omega
  have shape : latestKeys (keys ++ [key]) = keptKeys keys ++ [key] := by
    rw [latestKeys, keptKeys, length_append, length_singleton, drop_append_of_le_length within]
  constructor
  · intro still known
    have apart := (boundedUniqueValues_iff.mp still).2.2
    rw [shape] at apart
    exact (nodup_append.mp apart).2.2 key known key (mem_singleton_self key) rfl
  · intro new
    refine boundedUniqueValues_iff.mpr ⟨?_,?_,?_⟩
    · rw [latestKeys, length_drop]
      omega
    · intro other kept
      rcases mem_append.mp (mem_of_mem_drop kept) with old | added
      · exact each other old
      · exact mem_singleton.mp added ▸ valid
    · rw [shape]
      exact nodup_snoc (nodup.sublist (drop_sublist _ _)) new

theorem findings_sublist {all kept : List PendingRoutineFinding}
    (findings : Findings generation all) (sub : kept.Sublist all) : Findings generation kept :=
  { few := sub.length_le.trans findings.few
    valid := fun finding here => findings.valid finding (sub.subset here)
    apart := findings.apart.sublist sub }

theorem findings_append_iff (findings : Findings generation pending)
    (room : pending.length + added.length ≤ routinePendingFindingsMax)
    (fresh : ∀ old ∈ pending, ∀ new ∈ added, new.id ≠ old.id)
    (apart : added.Pairwise fun a b => b.id ≠ a.id ∧ b.sourceKey ≠ a.sourceKey) :
    Findings generation (pending ++ added) ↔
      (∀ new ∈ added, new.isValid ∧ new.routineGeneration = generation) ∧
        ∀ old ∈ pending, ∀ new ∈ added, new.sourceKey ≠ old.sourceKey := by
  constructor
  · intro both
    refine ⟨fun new here => both.valid new (mem_append_right _ here),?_⟩
    intro old pre new here
    exact ((pairwise_append.mp both.apart).2.2 old pre new here).2
  · rintro ⟨valid,keys⟩
    refine ⟨by rwa [length_append],?_,?_⟩
    · intro finding here
      rcases mem_append.mp here with old | new
      · exact findings.valid finding old
      · exact valid finding new
    · refine pairwise_append.mpr ⟨findings.apart,apart,?_⟩
      exact fun old pre new here => ⟨fresh old pre new here,keys old pre new here⟩

theorem findings_replace_iff (findings : Findings generation pending)
    (hit : pending.find? wanted = some found) (sameId : (change found).id = found.id)
    (newKey : ∀ old ∈ pending, old.sourceKey ≠ (change found).sourceKey) :
    Findings generation (updateFirst wanted change pending) ↔
      (change found).isValid ∧ (change found).routineGeneration = generation := by
  constructor
  · exact fun replaced => replaced.valid _ (changed_mem_updateFirst hit)
  · intro valid
    refine ⟨?_,?_,?_⟩
    · rw [length_updateFirst]
      exact findings.few
    · intro finding here
      rcases mem_updateFirst here with old | ⟨x,at_x,rfl⟩
      · exact findings.valid finding old
      · rw [hit] at at_x
        cases at_x
        exact valid
    · refine pairwise_updateFirst findings.apart ?_ ?_
      · intro x y at_x here apart
        rw [hit] at at_x
        cases at_x
        exact ⟨sameId ▸ apart.1,(newKey y here).symm⟩
      · intro x y at_x here apart
        rw [hit] at at_x
        cases at_x
        exact ⟨sameId ▸ apart.1,newKey y here⟩

section Complete
variable {store : RoutineStore}

theorem findings_checked {findings : List RoutineFinding}
    (passed : findingsAreInvalid store config ended ids keys findings = false) :
    (∀ finding ∈ findings, (finding.asPending config.generation ended).isValid ∧
        finding.id ∉ ids ∧ finding.sourceKey ∉ keys) ∧
      findings.Pairwise fun a b => b.id ≠ a.id ∧ b.sourceKey ≠ a.sourceKey := by
  induction findings generalizing ids keys with
  | nil => exact ⟨nofun,.nil⟩
  | cons finding rest ih =>
    simp only [findingsAreInvalid, Bool.or_eq_false_iff, Bool.not_eq_false', contains_eq_mem,
      decide_eq_false_iff_not] at passed
    obtain ⟨⟨⟨⟨⟨⟨⟨⟨⟨⟨⟨valid,-⟩,-⟩,-⟩,-⟩,-⟩,-⟩,-⟩,newId⟩,newKey⟩,-⟩,tail⟩ := passed
    obtain ⟨each,apart⟩ := ih tail
    constructor
    · intro other here
      rcases mem_cons.mp here with rfl | later
      · exact ⟨valid,newId,newKey⟩
      · obtain ⟨otherValid,otherId,otherKey⟩ := each other later
        exact ⟨otherValid,fun known => otherId (mem_append_left _ known),
          fun known => otherKey (mem_append_left _ known)⟩
    · refine pairwise_cons.mpr ⟨fun other later => ?_,apart⟩
      obtain ⟨-,otherId,otherKey⟩ := each other later
      exact ⟨fun same => otherId (by simp [same]),fun same => otherKey (by simp [same])⟩

theorem trimmed_valid {finding : RoutineFinding}
    (valid : (finding.asPending generation ended).isValid) :
    (finding.trimmed.asPending generation ended).isValid := by
  have pre := finding_isValid_iff.mp valid
  apply finding_isValid_iff.mpr
  rw [RoutineFinding.trimmed, RoutineFinding.asPending]
  exact
    { pre with
      summary := ⟨trim_of_nonblank pre.summary.1,(trim_size _).trans pre.summary.2⟩
      evidence := ⟨trim_of_nonblank pre.evidence.1,(trim_size _).trans pre.evidence.2⟩ }

/-- A finding that counts as new although one with its key is still pending. -/
def Clashes (configuration : TrackerConfiguration) (findings : List RoutineFinding) : Prop :=
  configuration.triggerMode.isScheduled = true ∧
    ∃ finding ∈ novelFindings configuration findings,
      ∃ pending ∈ configuration.pendingRoutineFindings, pending.sourceKey = finding.sourceKey

theorem keysWith_valid {findings : List RoutineFinding}
    (keysValid : KeysValid config.recentSourceKeys)
    (valid : ∀ finding ∈ findings, (finding.asPending config.generation ended).isValid ) :
    KeysValid (keysWith config (novelFindings config findings)) := by
  obtain ⟨-,each,nodup⟩ := boundedUniqueValues_iff.mp keysValid
  refine latestKeys_valid ?_ (foldlRecOn _ _ nodup fun _ nodup _ _ => nodup_pushNew nodup)
  intro key here
  rcases mem_foldl_pushNew.mp here with old | new
  · exact each key old
  · obtain ⟨finding,novel,rfl⟩ := mem_map.mp new
    exact (finding_isValid_iff.mp (valid finding (mem_of_mem_filter novel))).key

theorem mem_pendingFrom (here : pending ∈ pendingFrom config novel ended) :
    ∃ finding ∈ novel, finding.trimmed.asPending config.generation ended = pending :=
      by
  rw [pendingFrom] at here
  split at here
  · exact mem_map.mp here
  · cases here

theorem completed_findings_iff {findings : List RoutineFinding} (sound : Sound config)
    (checked : findingsAreInvalid store config ended [] [] findings = false)
    (room : config.pendingRoutineFindings.length + (pendingFrom config (novelFindings
      config findings) ended).length ≤ routinePendingFindingsMax)
    (fresh : ∀ pending ∈ config.pendingRoutineFindings, ∀ finding ∈ findings,
      finding.id ≠ pending.id) :
    Findings config.generation (config.pendingRoutineFindings
        ++ pendingFrom config (novelFindings config findings) ended) ↔
      ¬ Clashes config findings := by
  obtain ⟨each,apart⟩ := findings_checked checked
  have kept : ∀ finding ∈ novelFindings config findings, finding ∈ findings :=
    fun finding novel => mem_of_mem_filter novel
  have newApart : (pendingFrom config (novelFindings config findings)
      ended).Pairwise fun a b => b.id ≠ a.id ∧ b.sourceKey ≠ a.sourceKey := by
    rw [pendingFrom]
    split
    · exact pairwise_map.mpr (apart.sublist filter_sublist)
    · exact .nil
  have newValid : ∀ new ∈ pendingFrom config (novelFindings config findings)
      ended, new.isValid ∧ new.routineGeneration = config.generation := by
    intro new here
    obtain ⟨finding,novel,rfl⟩ := mem_pendingFrom here
    exact ⟨trimmed_valid (each finding (kept finding novel)).1,rfl⟩
  rw [findings_append_iff sound.findings room ?_ newApart]
  · constructor
    · rintro ⟨-,keys⟩ ⟨scheduled,finding,novel,pending,here,same⟩
      have acts : config.actionHandling ≠ .off := by
        intro off
        rw [sound.quiet off] at here
        cases here
      have new : finding.trimmed.asPending config.generation ended ∈
          pendingFrom config (novelFindings config findings) ended := by
        rw [pendingFrom, if_pos (by simp [scheduled, acts])]
        exact mem_map_of_mem novel
      exact keys pending here _ new same.symm
    · intro free
      refine ⟨newValid,fun old pre new here same => free ?_⟩
      have scheduled : config.triggerMode.isScheduled := by
        by_contra demand
        rw [pendingFrom, if_neg (by simp [demand])] at here
        cases here
      obtain ⟨finding,novel,rfl⟩ := mem_pendingFrom here
      exact ⟨scheduled,finding,novel,old,pre,same.symm⟩
  · intro old pre new here
    obtain ⟨finding,novel,rfl⟩ := mem_pendingFrom here
    exact fresh old pre finding (kept finding novel)

theorem completed_sound_iff (sound : Sound config)
    (context : routineContextIsInvalid store config update = false)
    (checked : findingsAreInvalid store config ended [] [] update.findings = false)
    (room : config.pendingRoutineFindings.length + (pendingFrom config (novelFindings
      config update.findings) ended).length ≤ routinePendingFindingsMax)
    (fresh : ∀ pending ∈ config.pendingRoutineFindings, ∀ finding ∈ update.findings,
      finding.id ≠ pending.id) (positive : 0 < revision) :
    Sound (completedConfiguration config cap update
        (novelFindings config update.findings) ended revision) ↔
      ¬ Clashes config update.findings := by
  rw [← completed_findings_iff sound checked room fresh]
  simp only [routineContextIsInvalid, Bool.or_eq_false_iff, decide_eq_false_iff_not, Nat.not_lt,
    Bool.not_eq_false'] at context
  obtain ⟨⟨⟨⟨markdown,-⟩,-⟩,tasks⟩,-⟩ := context
  rw [completedConfiguration]
  constructor
  · exact (·.findings)
  · intro findings
    have keys := keysWith_valid sound.keys fun finding here =>
      ((findings_checked checked).1 finding here).1
    refine
      { settings := sound.settings, context := ?_, revision := positive, keys := ?_, tasks := tasks
        findings := findings, quiet := ?_ }
    · dsimp only
      split
      · exact markdown
      · exact sound.context
    · dsimp only
      exact keys
    · intro off
      dsimp only at off ⊢
      rw [sound.quiet off, pendingFrom, off]
      simp

end Complete
section Problem
variable {sourceKey : String} {report : TrackerReport}

theorem rewritten_sound_iff (sound : Sound config) (keys : List String)
    (findings : List PendingRoutineFinding) (started attempted succeeded : Option Nat) (now : Nat) :
    Sound { config with
        recentSourceKeys := keys, pendingRoutineFindings := findings, lastCheckStartedAt := started,
        lastAttemptAt := attempted, lastSuccessfulReportAt := succeeded, updatedAt := now } ↔
      KeysValid keys ∧ Findings config.generation findings ∧
        (config.actionHandling = .off → findings = []) := by
  constructor
  · exact fun after => ⟨after.keys,after.findings,after.quiet⟩
  · rintro ⟨keysValid,findingsValid,quiet⟩
    exact
      { settings := sound.settings, context := sound.context, revision := sound.revision
        keys := keysValid, tasks := sound.tasks, findings := findingsValid, quiet := quiet }

/-- The Routine acts on findings and has met this key neither lately nor in one that waits. -/
def Unseen (configuration : TrackerConfiguration) (sourceKey : String) : Prop :=
  configuration.actionHandling ≠ .off ∧
    (∀ finding ∈ configuration.pendingRoutineFindings, finding.sourceKey ≠ sourceKey) ∧
    sourceKey ∉ configuration.recentSourceKeys

variable (configuration : TrackerConfiguration) (sourceKey : String) (report : TrackerReport)
  (completedAt : Nat) in
inductive ProblemNoted : List String → List PendingRoutineFinding → Prop where
  | seen (known : ¬ Unseen configuration sourceKey) :
      ProblemNoted configuration.recentSourceKeys configuration.pendingRoutineFindings
  | replaced {keys : List String} {found : PendingRoutineFinding}
      (unseen : Unseen configuration sourceKey)
      (about : configuration.pendingRoutineFindings.find?
        (concernsTask report.relatedTaskIds) = some found)
      (marked : keys = configuration.recentSourceKeys ∨
        keys = configuration.recentSourceKeys ++ [sourceKey]) :
      ProblemNoted keys
        (updateFirst (concernsTask report.relatedTaskIds)
          (fun finding => problemFinding configuration finding.id sourceKey report.message
            report.sourceReferences report.relatedTaskIds completedAt)
          configuration.pendingRoutineFindings)
  | added (unseen : Unseen configuration sourceKey)
      (other : ∀ finding ∈ configuration.pendingRoutineFindings,
        concernsTask report.relatedTaskIds finding = false)
      (room : configuration.pendingRoutineFindings.length < routinePendingFindingsMax) :
      ProblemNoted (configuration.recentSourceKeys ++ [sourceKey])
        (configuration.pendingRoutineFindings ++
          [problemFinding configuration report.id sourceKey report.message
            report.sourceReferences report.relatedTaskIds completedAt])
  | full (unseen : Unseen configuration sourceKey)
      (other : ∀ finding ∈ configuration.pendingRoutineFindings,
        concernsTask report.relatedTaskIds finding = false)
      (full : routinePendingFindingsMax ≤ configuration.pendingRoutineFindings.length) :
      ProblemNoted configuration.recentSourceKeys configuration.pendingRoutineFindings

theorem noteNewProblem_noted (unseen : Unseen config sourceKey) :
    ∃ keys findings, ProblemNoted config sourceKey report ended keys findings ∧
      (noteNewProblem hasProposal config sourceKey report ended).configuration =
        { config with recentSourceKeys := keys, pendingRoutineFindings := findings } := by
  dsimp only [noteNewProblem]
  by_cases about : config.pendingRoutineFindings.any (concernsTask report.relatedTaskIds)
  · obtain ⟨found,hit⟩ := Option.isSome_iff_exists.mp
      ((find?_isSome).mpr (any_eq_true.mp about))
    rw [if_pos about]
    cases hasProposal config.projectId with
    | false => exact ⟨_,_,.replaced unseen hit (.inr rfl),rfl⟩
    | true => exact ⟨_,_,.replaced unseen hit (.inl rfl),rfl⟩
  · have other : ∀ finding ∈ config.pendingRoutineFindings,
        concernsTask report.relatedTaskIds finding = false := by
      intro finding here
      rw [Bool.not_eq_true, any_eq_false] at about
      exact Bool.eq_false_iff.mpr (about finding here)
    rw [if_neg about]
    by_cases room : config.pendingRoutineFindings.length < routinePendingFindingsMax
    · rw [if_pos room]
      exact ⟨_,_,.added unseen other room,rfl⟩
    · rw [if_neg room]
      exact ⟨_,_,.full unseen other (Nat.not_lt.mp room),rfl⟩

theorem noteProblem_noted :
    ∃ keys findings, ProblemNoted config sourceKey report ended keys findings ∧
      (noteProblem hasProposal config sourceKey report ended).configuration =
        { config with recentSourceKeys := keys, pendingRoutineFindings := findings } := by
  rw [noteProblem]
  split
  case isTrue off =>
    exact ⟨_,_,.seen fun unseen => unseen.1 (beq_iff_eq.mp off),rfl⟩
  case isFalse acts =>
    split
    case isTrue pending =>
      obtain ⟨finding,here,same⟩ := any_eq_true.mp pending
      exact ⟨_,_,.seen fun unseen => unseen.2.1 finding here (beq_iff_eq.mp same),rfl⟩
    case isFalse unasked =>
      split
      case isTrue known =>
        exact ⟨_,_,.seen fun unseen => unseen.2.2 (contains_iff_mem.mp known),rfl⟩
      case isFalse new =>
        refine noteNewProblem_noted ⟨?_,?_,?_⟩
        · exact fun off => acts (beq_iff_eq.mpr off)
        · intro finding here same
          exact unasked (any_eq_true.mpr ⟨finding,here,beq_iff_eq.mpr same⟩)
        · exact fun known => new (contains_iff_mem.mpr known)

/-- A problem finding is reported after the epoch, under a short id when it is new. -/
def ProblemFits (configuration : TrackerConfiguration) (sourceKey : String)
    (report : TrackerReport) (completedAt : Nat) : Prop :=
  Unseen configuration sourceKey →
    ((∃ finding ∈ configuration.pendingRoutineFindings,
      concernsTask report.relatedTaskIds finding = true) → 0 < completedAt) ∧
    ((∀ finding ∈ configuration.pendingRoutineFindings,
      concernsTask report.relatedTaskIds finding = false) →
      configuration.pendingRoutineFindings.length < routinePendingFindingsMax →
      0 < completedAt ∧ report.id.utf8ByteSize ≤ companionIdMaxBytes)

theorem problemFinding_valid_iff {id : String} (sound : Sound config)
    (key : KeyValid sourceKey) (reported : report.isValid)
    (msg : report.message = trim text) (nonblank : isBlank id = false) :
    ((problemFinding config id sourceKey report.message report.sourceReferences
        report.relatedTaskIds ended).isValid) ↔
      0 < ended ∧ id.utf8ByteSize ≤ companionIdMaxBytes := by
  simp only [TrackerReport.isValid, Bool.and_eq_true, Bool.not_eq_true', decide_eq_true_eq]
    at reported
  obtain ⟨⟨⟨⟨-,words⟩,-⟩,tasks⟩,references⟩ := reported
  obtain ⟨-,-,name,nameSize,-,-,-,-,-,generation⟩ := sound.settings
  rw [finding_isValid_iff]
  constructor
  · exact fun valid => ⟨valid.time,valid.id.2⟩
  · rintro ⟨time,size⟩
    refine
      { id := ⟨nonblank,size⟩, key := key, generation := generation, summary := ⟨?_,?_⟩
        evidence := ⟨?_,truncateUtf8_size⟩, references := references, tasks := tasks, time := time }
    · rw [problemFinding, isBlank_append, name, Bool.false_and]
    · rw [problemFinding, String.utf8ByteSize_append]
      have short : " could not complete its evidence check.".utf8ByteSize ≤ 100 := by decide
      simp only [trackerNameMaxBytes, routineFindingSummaryMaxBytes] at nameSize ⊢
      omega
    · have room : 4 ≤ routineFindingEvidenceMaxBytes := by decide
      dsimp only [problemFinding]
      rw [msg] at words ⊢
      exact truncateUtf8_nonblank room words

theorem none_found {l : List α} {wanted : α → Bool} (other : ∀ x ∈ l, wanted x = false) :
    ¬ ∃ x ∈ l, wanted x := by
  simpa using other

theorem unseen_append_valid (sound : Sound config) (key : KeyValid sourceKey)
    (new : sourceKey ∉ config.recentSourceKeys) :
    KeysValid (latestKeys (config.recentSourceKeys ++ [sourceKey])) :=
  (latestKeys_append_iff sound.keys key).mpr fun kept => new (mem_of_mem_drop kept)

theorem problem_noted_iff (noted : ProblemNoted config sourceKey report ended keys findings)
    (sound : Sound config) (key : KeyValid sourceKey) (reported : report.isValid)
    (msg : report.message = trim text)
    (fresh : ∀ pending ∈ config.pendingRoutineFindings, report.id ≠ pending.id) :
    (KeysValid (latestKeys keys) ∧ Findings config.generation findings ∧
        (config.actionHandling = .off → findings = [])) ↔
      ProblemFits config sourceKey report ended := by
  have idle : KeysValid (latestKeys config.recentSourceKeys) := by
    rw [latestKeys_self sound.keys]
    exact sound.keys
  have named : isBlank report.id = false := by
    simp only [TrackerReport.isValid, Bool.and_eq_true, Bool.not_eq_true'] at reported
    exact reported.1.1.1.1.1.1.1.1
  cases noted with
  | seen known =>
    exact ⟨fun _ unseen => absurd unseen known,fun _ => ⟨idle,sound.findings,sound.quiet⟩⟩
  | @replaced _ hit unseen about marked =>
    have here := mem_of_find?_eq_some about
    have concerned := find?_some about
    have old := finding_isValid_iff.mp (sound.findings.valid hit here).1
    have keysValid : KeysValid (latestKeys keys) := by
      rcases marked with rfl | rfl
      · exact idle
      · exact unseen_append_valid sound key unseen.2.2
    rw [findings_replace_iff sound.findings about rfl unseen.2.1,
      problemFinding_valid_iff sound key reported msg old.id.1]
    constructor
    · rintro ⟨-,⟨⟨time,-⟩,-⟩,-⟩ -
      exact ⟨fun _ => time,fun other => absurd ⟨hit,here,concerned⟩ (none_found other)⟩
    · intro fits
      have time := (fits unseen).1 ⟨hit,here,concerned⟩
      exact ⟨keysValid,⟨⟨time,old.id.2⟩,rfl⟩,fun off => absurd off unseen.1⟩
  | added unseen other room =>
    have single : config.pendingRoutineFindings.length +
        [problemFinding config report.id sourceKey report.message report.sourceReferences
          report.relatedTaskIds ended].length ≤ routinePendingFindingsMax := room
    rw [findings_append_iff sound.findings single ?_ (pairwise_singleton _ _)]
    · simp only [forall_mem_singleton, problemFinding_valid_iff sound key reported msg named]
      constructor
      · rintro ⟨-,⟨⟨⟨time,size⟩,-⟩,-⟩,-⟩ -
        refine ⟨fun _ => time,fun _ _ => ⟨time,size⟩⟩
      · intro fits
        refine ⟨unseen_append_valid sound key unseen.2.2,⟨⟨?_,rfl⟩,?_⟩,?_⟩
        · exact (fits unseen).2 other room
        · exact fun old here same => unseen.2.1 old here same.symm
        · exact fun off => absurd off unseen.1
    · intro old here new added
      rw [mem_singleton.mp added]
      exact fresh old here
  | full unseen other full =>
    refine ⟨fun _ _ => ⟨fun some => absurd some (none_found other),fun _ room => ?_⟩,
      fun _ => ⟨idle,sound.findings,sound.quiet⟩⟩
    exact absurd room (Nat.not_lt.mpr full)

end Problem
section Verdicts
variable {sourceKey rid : String}

def NotPending (configuration : TrackerConfiguration) (sourceKey : String) : Prop :=
  ∀ finding ∈ configuration.pendingRoutineFindings, finding.sourceKey ≠ sourceKey

variable (configuration : TrackerConfiguration) (sourceKey reportId : String)
  (assignment : PlaybookStepAssignment) (answer : PlaybookStepProgress) (completedAt : Nat) in
inductive WaitingNoted : List String → List PendingRoutineFinding → Prop where
  | pending (waits : ¬ NotPending configuration sourceKey) :
      WaitingNoted
        (pushNew configuration.recentSourceKeys sourceKey) configuration.pendingRoutineFindings
  | off (unasked : NotPending configuration sourceKey)
      (off : configuration.actionHandling = .off) :
      WaitingNoted
        (configuration.recentSourceKeys ++ [sourceKey]) configuration.pendingRoutineFindings
  | refreshed {found : PendingRoutineFinding} (unasked : NotPending configuration sourceKey)
      (acts : configuration.actionHandling ≠ .off)
      (about : configuration.pendingRoutineFindings.find? (concerns answer.taskId) = some found) :
      WaitingNoted (pushNew configuration.recentSourceKeys sourceKey)
        (updateFirst (concerns answer.taskId)
          (refreshFinding sourceKey assignment answer completedAt)
          configuration.pendingRoutineFindings)
  | unchanged (unasked : NotPending configuration sourceKey)
      (acts : configuration.actionHandling ≠ .off)
      (other : ∀ finding ∈ configuration.pendingRoutineFindings,
        concerns answer.taskId finding = false)
      (settled : sourceKey ∈ configuration.recentSourceKeys ∨
        routinePendingFindingsMax ≤ configuration.pendingRoutineFindings.length) :
      WaitingNoted configuration.recentSourceKeys configuration.pendingRoutineFindings
  | added (unasked : NotPending configuration sourceKey)
      (acts : configuration.actionHandling ≠ .off)
      (other : ∀ finding ∈ configuration.pendingRoutineFindings,
        concerns answer.taskId finding = false)
      (new : sourceKey ∉ configuration.recentSourceKeys)
      (room : configuration.pendingRoutineFindings.length < routinePendingFindingsMax) :
      WaitingNoted (configuration.recentSourceKeys ++ [sourceKey])
        (configuration.pendingRoutineFindings ++
          [waitingFinding configuration (reportId ++ "-" ++ toString 0) sourceKey assignment answer
            completedAt])

variable (configuration : TrackerConfiguration) (sourceKey reportId : String)
  (assignment : PlaybookStepAssignment) (answer : PlaybookStepProgress) (completedAt : Nat) in
inductive AnswerNoted : List String → List PendingRoutineFinding → Prop where
  | passed (passed : answer.verdict = .passed) :
      AnswerNoted configuration.recentSourceKeys
        (configuration.pendingRoutineFindings.filter fun finding =>
          !concerns answer.taskId finding)
  | waiting {keys : List String} {findings : List PendingRoutineFinding}
      (waiting : answer.verdict ≠ .passed)
      (noted : WaitingNoted configuration sourceKey reportId assignment answer completedAt keys
        findings) :
      AnswerNoted keys findings

theorem noteWaiting_noted (unasked : NotPending config sourceKey) :
    ∃ keys findings, WaitingNoted config sourceKey rid step answer ended keys findings ∧
      Review.settled (noteWaiting hasProposal step rid ended
          { configuration := config } 0 answer sourceKey) =
        { config with recentSourceKeys := keys, pendingRoutineFindings := findings } := by
  dsimp only [noteWaiting]
  by_cases off : config.actionHandling = .off
  · rw [if_pos (beq_iff_eq.mpr off)]
    refine ⟨_,_,.off unasked off,?_⟩
    rw [Review.settled, append_nil]
  rw [if_neg fun same => off (beq_iff_eq.mp same)]
  by_cases about : config.pendingRoutineFindings.any (concerns answer.taskId)
  · obtain ⟨found,hit⟩ := Option.isSome_iff_exists.mp
      ((find?_isSome).mpr (any_eq_true.mp about))
    rw [if_pos about]
    refine ⟨_,_,.refreshed unasked off hit,?_⟩
    rw [Review.settled, append_nil]
  · have other : ∀ finding ∈ config.pendingRoutineFindings,
        concerns answer.taskId finding = false := by
      intro finding here
      rw [Bool.not_eq_true, any_eq_false] at about
      exact Bool.eq_false_iff.mpr (about finding here)
    rw [if_neg about]
    by_cases known : sourceKey ∈ config.recentSourceKeys
    · rw [if_pos (contains_iff_mem.mpr known)]
      refine ⟨_,_,.unchanged unasked off other (.inl known),?_⟩
      rw [Review.settled, append_nil]
    · rw [if_neg fun same => known (contains_iff_mem.mp same)]
      by_cases full : routinePendingFindingsMax ≤ config.pendingRoutineFindings.length
      · rw [if_pos (by simpa using full)]
        refine ⟨_,_,.unchanged unasked off other (.inr full),?_⟩
        rw [Review.settled, append_nil]
      · rw [if_neg (by simpa using full)]
        exact ⟨_,_,.added unasked off other known (Nat.not_le.mp full),rfl⟩

/-- Under `off` the key is not among those that stay; a finding is written after the epoch,
    with a summary, an id and a Task id of bounded length. -/
def WaitingFits (configuration : TrackerConfiguration) (sourceKey reportId : String)
    (assignment : PlaybookStepAssignment) (answer : PlaybookStepProgress) (completedAt : Nat) :
    Prop :=
  NotPending configuration sourceKey →
    (configuration.actionHandling = .off → sourceKey ∉ keptKeys configuration.recentSourceKeys) ∧
    (configuration.actionHandling ≠ .off →
      ((∃ finding ∈ configuration.pendingRoutineFindings, concerns answer.taskId finding = true) →
        0 < completedAt ∧
          (waitingSummary assignment answer).utf8ByteSize ≤ routineFindingSummaryMaxBytes) ∧
      ((∀ finding ∈ configuration.pendingRoutineFindings, concerns answer.taskId finding = false) →
        sourceKey ∉ configuration.recentSourceKeys →
        configuration.pendingRoutineFindings.length < routinePendingFindingsMax →
        0 < completedAt ∧
          (waitingSummary assignment answer).utf8ByteSize ≤ routineFindingSummaryMaxBytes ∧
          reportId.utf8ByteSize + 2 ≤ companionIdMaxBytes ∧
          isBlank answer.taskId = false ∧ answer.taskId.utf8ByteSize ≤ companionIdMaxBytes))

theorem waitingSummary_nonblank : isBlank (waitingSummary step answer) = false := by
  have closing : isBlank "”." = false := by decide
  rw [waitingSummary, isBlank_append, closing, Bool.and_false]

section Fitting
variable (key : KeyValid sourceKey) (evidence : isBlank answer.evidence = false)
  (evidenceSize : answer.evidence.utf8ByteSize ≤ playbookEvidenceMaxBytes)
include key evidence evidenceSize

theorem refreshFinding_valid_iff (old : hit.isValid) :
    (refreshFinding sourceKey step answer ended hit).isValid ↔
      0 < ended ∧
        (waitingSummary step answer).utf8ByteSize ≤ routineFindingSummaryMaxBytes := by
  have pre := finding_isValid_iff.mp old
  rw [finding_isValid_iff]
  constructor
  · exact fun valid => ⟨valid.time,valid.summary.2⟩
  · rintro ⟨time,size⟩
    exact
      { id := pre.id, key := key, generation := pre.generation
        summary := ⟨waitingSummary_nonblank,size⟩
        evidence := ⟨evidence,evidenceSize.trans (by decide)⟩
        references := rfl, tasks := pre.tasks, time := time }

variable (sound : Sound config)
include sound

theorem waitingFinding_valid_iff :
    (waitingFinding config (rid ++ "-" ++ toString 0) sourceKey step answer ended).isValid ↔
      0 < ended ∧
        (waitingSummary step answer).utf8ByteSize ≤ routineFindingSummaryMaxBytes ∧
        rid.utf8ByteSize + 2 ≤ companionIdMaxBytes ∧
        isBlank answer.taskId = false ∧ answer.taskId.utf8ByteSize ≤ companionIdMaxBytes := by
  have idSize : (rid ++ "-" ++ toString 0).utf8ByteSize = rid.utf8ByteSize + 2 := by
    rw [String.utf8ByteSize_append, String.utf8ByteSize_append]
    rfl
  have idNonblank : isBlank (rid ++ "-" ++ toString 0) = false := by
    have closing : isBlank (toString 0) = false := by decide
    rw [isBlank_append, closing, Bool.and_false]
  have one : 1 ≤ routineRelatedTasksMax := by decide
  rw [finding_isValid_iff]
  constructor
  · intro valid
    have task := (boundedUniqueValues_iff.mp valid.tasks).2.1 answer.taskId (mem_singleton_self _)
    exact ⟨valid.time,valid.summary.2,idSize ▸ valid.id.2,task⟩
  · rintro ⟨time,size,short,task⟩
    exact
      { id := ⟨idNonblank,idSize ▸ short⟩, key := key
        generation := sound.settings.2.2.2.2.2.2.2.2.2, summary := ⟨waitingSummary_nonblank,size⟩
        evidence := ⟨evidence,evidenceSize.trans (by decide)⟩
        references := rfl
        tasks := boundedUniqueValues_iff.mpr ⟨one,forall_mem_singleton.mpr task,nodup_singleton _⟩
        time := time }

variable
  (fresh : ∀ pending ∈ config.pendingRoutineFindings, rid ++ "-" ++ toString 0 ≠ pending.id)
include fresh

theorem waiting_noted_iff
    (noted : WaitingNoted config sourceKey rid step answer ended keys findings) :
    (KeysValid (latestKeys keys) ∧ Findings config.generation findings ∧
        (config.actionHandling = .off → findings = [])) ↔
      WaitingFits config sourceKey rid step answer ended := by
  have pushed := latestKeys_pushNew sound.keys key
  cases noted with
  | pending waits =>
    exact ⟨fun _ unasked => absurd unasked waits,fun _ => ⟨pushed,sound.findings,sound.quiet⟩⟩
  | off unasked off =>
    rw [latestKeys_append_iff sound.keys key]
    constructor
    · rintro ⟨kept,-⟩ -
      exact ⟨fun _ => kept,fun acts => absurd off acts⟩
    · exact fun fits => ⟨(fits unasked).1 off,sound.findings,sound.quiet⟩
  | @refreshed hit unasked acts about =>
    have here := mem_of_find?_eq_some about
    have concerned := find?_some about
    obtain ⟨valid,generation⟩ := sound.findings.valid hit here
    have sameId : (refreshFinding sourceKey step answer ended hit).id = hit.id := rfl
    rw [findings_replace_iff sound.findings about sameId unasked,
      refreshFinding_valid_iff key evidence evidenceSize valid]
    constructor
    · rintro ⟨-,⟨saved,-⟩,-⟩ -
      refine ⟨fun off => absurd off acts,fun _ => ⟨fun _ => saved,fun other => ?_⟩⟩
      exact absurd ⟨hit,here,concerned⟩ (none_found other)
    · intro fits
      have saved := ((fits unasked).2 acts).1 ⟨hit,here,concerned⟩
      exact ⟨pushed,⟨saved,generation⟩,fun off => absurd off acts⟩
  | unchanged unasked acts other settled =>
    constructor
    · rintro - -
      refine ⟨fun off => absurd off acts,fun _ =>
        ⟨fun some => absurd some (none_found other),fun _ new room => ?_⟩⟩
      rcases settled with known | full
      · exact absurd known new
      · exact absurd room (Nat.not_lt.mpr full)
    · intro _
      rw [latestKeys_self sound.keys]
      exact ⟨sound.keys,sound.findings,sound.quiet⟩
  | added unasked acts other new room =>
    have single : config.pendingRoutineFindings.length +
        [waitingFinding config (rid ++ "-" ++ toString 0) sourceKey step answer
          ended].length ≤ routinePendingFindingsMax := room
    rw [findings_append_iff sound.findings single ?_ (pairwise_singleton _ _)]
    · simp only [forall_mem_singleton, waitingFinding_valid_iff key evidence evidenceSize sound]
      constructor
      · rintro ⟨-,⟨⟨saved,-⟩,-⟩,-⟩ -
        exact ⟨fun off => absurd off acts,fun _ =>
          ⟨fun some => absurd some (none_found other),fun _ _ _ => saved⟩⟩
      · intro fits
        refine ⟨unseen_append_valid sound key new,⟨⟨?_,rfl⟩,?_⟩,fun off => absurd off acts⟩
        · exact ((fits unasked).2 acts).2 other new room
        · exact fun old here same => unasked old here same.symm
    · intro old here added isNew
      rw [mem_singleton.mp isNew]
      exact fresh old here

theorem answer_noted_iff
    (noted : AnswerNoted config sourceKey rid step answer ended keys findings) :
    (KeysValid (latestKeys keys) ∧ Findings config.generation findings ∧
        (config.actionHandling = .off → findings = [])) ↔
      (answer.verdict ≠ .passed →
        WaitingFits config sourceKey rid step answer ended) := by
  cases noted with
  | passed passed =>
    refine ⟨fun _ waiting => absurd passed waiting,fun _ => ⟨?_,?_,?_⟩⟩
    · rw [latestKeys_self sound.keys]
      exact sound.keys
    · exact findings_sublist sound.findings filter_sublist
    · intro off
      rw [sound.quiet off]
      rfl
  | waiting waiting noted =>
    rw [waiting_noted_iff key evidence evidenceSize sound fresh noted]
    exact ⟨fun fits _ => fits,fun fits => fits waiting⟩

end Fitting
end Verdicts
section Calls
variable {digest : Digest} {hasProposal : String → Bool} {store : RoutineStore}
variable {rt : TrackerRuntimeState} {cap : TrackerCheckCapability}
variable {rid : String}

theorem validated_routine (cur : validateCurrentCheck store rt cap ended = .ok config) :
    store.routine? cap.trackerId = some config := by
  rw [validateCurrentCheck] at cur
  split at cur
  · next hit _ =>
    cases (guard_passed cur).2
    exact hit
  · cases cur

theorem digestKey_valid (visible : isBlank label = false)
    (short : label.utf8ByteSize ≤ 100) : KeyValid (label ++ digest.hex parts) := by
  constructor
  · rw [isBlank_append, visible, Bool.false_and]
  · rw [String.utf8ByteSize_append, digest.size, routineSourceKeyMaxBytes]
    omega

theorem completion_prepared (accepted : prepareCompletion store rt cap update rid ended =
      .ok prepared) :
    ∃ config revision, store.routine? cap.trackerId = some config ∧
      routineContextIsInvalid store config update = false ∧
      findingsAreInvalid store config ended [] [] update.findings = false ∧
      config.pendingRoutineFindings.length
        + (pendingFrom config (novelFindings config update.findings)
          ended).length ≤ routinePendingFindingsMax ∧
      config.contextRevision ≤ revision ∧
      prepared.configuration = completedConfiguration config cap update
        (novelFindings config update.findings) ended revision := by
  rw [prepareCompletion] at accepted
  split at accepted
  · cases accepted
  next config validated =>
    dsimp only at accepted
    obtain ⟨-,accepted⟩ := guard_passed accepted
    obtain ⟨context,accepted⟩ := guard_passed accepted
    obtain ⟨checked,accepted⟩ := guard_passed accepted
    obtain ⟨room,accepted⟩ := guard_passed accepted
    obtain ⟨-,accepted⟩ := guard_passed accepted
    cases (guard_passed accepted).2
    refine ⟨config,_,validated_routine validated,Bool.eq_false_iff.mpr context,
      Bool.eq_false_iff.mpr checked,Nat.not_lt.mp room,?_,rfl⟩
    split
    · exact Nat.le_succ _
    · exact Nat.le_refl _

theorem completion_valid_iff (accepted : prepareCompletion store rt cap update rid ended =
      .ok prepared) (stored : store.routine? cap.trackerId = some config) (sound : Sound config)
    (fresh : ∀ pending ∈ config.pendingRoutineFindings, ∀ finding ∈ update.findings,
      finding.id ≠ pending.id) :
    prepared.configuration.isValid ↔ ¬ Clashes config update.findings := by
  obtain ⟨cur,revision,hit,context,checked,room,grown,handed⟩ :=
    completion_prepared accepted
  rw [stored] at hit
  cases hit
  rw [handed, isValid_iff]
  exact completed_sound_iff sound context checked room fresh (sound.revision.trans_le grown)

section
variable (accepted : prepareProblem digest hasProposal store rt cap msg sourceReferences rid ended =
  .ok prepared)
include accepted

theorem problem_prepared : ∃ config keys findings, store.routine? cap.trackerId = some config ∧
      prepared.report = problemReport cap (trim msg) sourceReferences
        (problemTaskIds store rt cap config) rid ended ∧
      prepared.report.isValid ∧
      ProblemNoted config (problemKey digest config prepared.report) prepared.report
        ended keys findings ∧
      prepared.configuration =
        { config with
          recentSourceKeys := latestKeys keys, pendingRoutineFindings := findings
          lastCheckStartedAt := some cap.claimedAt, lastAttemptAt := some ended
          updatedAt := ended } := by
  rw [prepareProblem] at accepted
  split at accepted
  · cases accepted
  next config validated =>
    dsimp only at accepted
    obtain ⟨reported,accepted⟩ := guard_passed accepted
    cases accepted
    rw [Bool.not_eq_true, Bool.not_eq_false'] at reported
    obtain ⟨keys,findings,noted,shape⟩ := noteProblem_noted
    refine ⟨config,keys,findings,validated_routine validated,rfl,reported,noted,?_⟩
    dsimp only
    rw [shape]

theorem problem_valid_iff (stored : store.routine? cap.trackerId = some config)
    (sound : Sound config) (fresh : ∀ pending ∈ config.pendingRoutineFindings, rid ≠ pending.id) :
    prepared.configuration.isValid ↔
      ProblemFits config (problemKey digest config prepared.report) prepared.report ended := by
  obtain ⟨cur,keys,findings,hit,words,reported,noted,handed⟩ :=
    problem_prepared accepted
  rw [stored] at hit
  cases hit
  rw [handed, isValid_iff, rewritten_sound_iff sound]
  rw [words] at noted reported ⊢
  exact problem_noted_iff noted sound (digestKey_valid (by decide) (by decide)) reported rfl fresh

end

theorem stepAnswers_single (single : verdicts.length = 1)
    (answered : stepAnswers step evaluation ended [] verdicts = .ok answers) :
    ∃ verdict, verdicts = [verdict] ∧
      answers = [stepAnswer step evaluation ended verdict] ∧
      step.waiting.taskId = verdict.taskId ∧ isBlank (trim verdict.evidence) = false ∧
      (trim verdict.evidence).utf8ByteSize ≤ playbookEvidenceMaxBytes := by
  obtain ⟨verdict,rfl⟩ := length_eq_one_iff.mp single
  obtain ⟨valid,done⟩ := guard_passed answered
  cases done
  simp only [verdictIsInvalid, Bool.not_eq_true, Bool.or_eq_false_iff, decide_eq_false_iff_not,
    Nat.not_lt, bne_eq_false_iff_eq] at valid
  obtain ⟨⟨⟨kept,size⟩,focused⟩,-⟩ := valid
  exact ⟨verdict,rfl,rfl,focused,trim_nonblank kept,size⟩

theorem passed_noted (passed : answer.verdict = .passed) :
    Review.settled (noteAnswers digest hasProposal step rid ended config [answer]) =
      { config with
        pendingRoutineFindings := config.pendingRoutineFindings.filter fun finding =>
          !concerns answer.taskId finding } := by
  have hit : (answer.verdict == PlaybookStepVerdict.passed) := beq_iff_eq.mpr passed
  simp only [noteAnswers, zipIdx_singleton, foldl_cons, foldl_nil, noteAnswer, hit,
    if_true, Review.settled, append_nil]

theorem waiting_noted (waiting : answer.verdict ≠ .passed) : ∃ keys findings, WaitingNoted config
        (stepWaitingSourceKey digest step.milestone.id answer.taskId answer.evidence)
        rid step answer ended keys findings ∧
      Review.settled (noteAnswers digest hasProposal step rid ended config [answer]) =
        { config with recentSourceKeys := keys, pendingRoutineFindings := findings } := by
  have miss : ¬ (answer.verdict == PlaybookStepVerdict.passed) :=
    fun same => waiting (beq_iff_eq.mp same)
  rw [noteAnswers, zipIdx_singleton, foldl_cons, foldl_nil, noteAnswer]
  dsimp only
  rw [if_neg miss]
  split
  case isTrue pending =>
    obtain ⟨finding,here,same⟩ := any_eq_true.mp pending
    refine ⟨_,_,.pending fun unasked => unasked finding here (beq_iff_eq.mp same),?_⟩
    rw [Review.settled, append_nil]
  case isFalse unasked =>
    refine noteWaiting_noted fun finding here same => unasked ?_
    exact any_eq_true.mpr ⟨finding,here,beq_iff_eq.mpr same⟩

theorem verdicts_prepared (accepted : prepareVerdicts digest hasProposal store rt cap verdicts rid
      ended = .ok prepared) :
    ∃ config step verdict keys findings, store.routine? cap.trackerId = some config ∧
      config.triggerMode.isScheduled = false ∧
      claimedAssignment store rt cap = some step ∧
      prepared.assignment = step ∧
      verdicts = [verdict] ∧ step.waiting.taskId = verdict.taskId ∧
      isBlank (trim verdict.evidence) = false ∧
      (trim verdict.evidence).utf8ByteSize ≤ playbookEvidenceMaxBytes ∧
      prepared.answers = [stepAnswer step (rt.claimedStepEvaluation cap) ended verdict] ∧
      AnswerNoted config (stepWaitingSourceKey digest step.milestone.id verdict.taskId
          (trim verdict.evidence))
        rid step
        (stepAnswer step (rt.claimedStepEvaluation cap) ended verdict)
        ended keys findings ∧
      prepared.configuration =
        { config with
          recentSourceKeys := latestKeys keys, pendingRoutineFindings := findings
          lastCheckStartedAt := some cap.claimedAt, lastAttemptAt := some ended
          lastSuccessfulReportAt := some ended
          updatedAt := ended } := by
  rw [prepareVerdicts] at accepted
  split at accepted
  · cases accepted
  next config validated =>
    obtain ⟨demand,accepted⟩ := guard_passed accepted
    split at accepted
    · cases accepted
    next step claimed =>
      obtain ⟨single,accepted⟩ := guard_passed accepted
      split at accepted
      · cases accepted
      next answers answered =>
        cases (guard_passed accepted).2
        rw [bne_iff_ne, not_not] at single
        obtain ⟨verdict,rfl,rfl,focused,evidence,size⟩ := stepAnswers_single single answered
        by_cases passed : (stepAnswer step (rt.claimedStepEvaluation cap)
            ended verdict).verdict = .passed
        · refine ⟨config,step,verdict,_,_,validated_routine validated,
            Bool.eq_false_iff.mpr demand,claimed,rfl,rfl,focused,evidence,size,rfl,
            .passed passed,?_⟩
          dsimp only
          rw [passed_noted passed]
        · obtain ⟨keys,findings,noted,shape⟩ := waiting_noted passed
          refine ⟨config,step,verdict,keys,findings,validated_routine validated,
            Bool.eq_false_iff.mpr demand,claimed,rfl,rfl,focused,evidence,size,rfl,
            .waiting passed noted,?_⟩
          dsimp only
          rw [shape]

end Calls
end TermloopStorable

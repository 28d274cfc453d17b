import Mathlib.Data.List.Induction
import Termloop.AgentRuntime.DeliveryRegistry

/-!
Every sequence of registry operations from the empty registry, with what its
records were told on the way: the ids they were created with and the provider
observations they received.
-/
namespace TermloopDelivery
open TermloopSaturating TermloopKeyed GeneratedInputDelivery GeneratedInputDeliveryRuntime List

variable {Submission : Type}

structure History (Submission : Type) where
  runtime : GeneratedInputDeliveryRuntime Submission
  created : List Nat
  observations : List Observation

def freshRecords (rt rt' : GeneratedInputDeliveryRuntime Submission) : List Nat :=
  (rt'.deliveries.entries.filter fun entry => decide (rt.cells.length ≤ entry.2.cancelSubmit)).map
    (·.2.id)

def trace (h : History Submission) (op : Operation Submission) : History Submission where
  runtime := perform h.runtime op
  created := h.created ++ freshRecords h.runtime (perform h.runtime op)
  observations := h.observations ++ (observe h.runtime op).toList

def history (ops : List (Operation Submission)) : History Submission :=
  ops.foldl trace ⟨default, [], []⟩

def seenIn (observations : List Observation) (record epoch sequence : Nat) : Prop :=
  ⟨record, epoch, sequence⟩ ∈ observations

structure Registered (rt : GeneratedInputDeliveryRuntime Submission) : Prop where
  orderNodup : rt.order.Nodup
  orderKeys : ∀ sessionId, sessionId ∈ rt.order ↔ sessionId ∈ rt.deliveries
  bounded : rt.deliveries.keys.length ≤ maxRuntimeDeliveries
  allocated : ∀ sessionId d, rt.deliveries.lookup sessionId = some d →
    d.cancelSubmit < rt.cells.length
  layout : ∀ sessionId d, rt.deliveries.lookup sessionId = some d →
    d.pasteStarted = d.cancelSubmit + 1
  sound : ∀ sessionId d, rt.deliveries.lookup sessionId = some d → d.Sound

variable {rt rt' : GeneratedInputDeliveryRuntime Submission} {sid : String}
  {d : GeneratedInputDelivery Submission} {seen : Nat → Nat → Nat → Prop} {target : Option String}
  {h : History Submission}

theorem default_registered : Registered (default : GeneratedInputDeliveryRuntime Submission) where
  orderNodup := nodup_nil
  orderKeys := by simp [GeneratedInputDeliveryRuntime.default]
  bounded := by simp [GeneratedInputDeliveryRuntime.default]
  allocated := by simp [GeneratedInputDeliveryRuntime.default]
  layout := by simp [GeneratedInputDeliveryRuntime.default]
  sound := by simp [GeneratedInputDeliveryRuntime.default]

theorem lookup_forget (hit : (rt.forget victim).deliveries.lookup sid = some d) :
    rt.deliveries.lookup sid = some d := by
  cases victim with
  | none => exact hit
  | some other => exact (lookup_erase_some hit).2

theorem effect_lookup (effect : Effect seen target rt rt')
    (hit : rt'.deliveries.lookup sid = some new) :
    (∃ d, rt.deliveries.lookup sid = some d ∧ Evolution (seen d.cancelSubmit) d new) ∨
      FreshIn rt new ∧ rt'.cells.length = rt.cells.length + 3 := by
  cases effect with
  | kept deliveries =>
    exact .inl ⟨new,deliveries ▸ hit,Evolution.refl new⟩
  | evolved other d edited pre evolution deliveries =>
    rw [deliveries] at hit
    rcases lookup_insert_cases hit with ⟨rfl,rfl⟩ | ⟨-,hit⟩
    · exact .inl ⟨d,pre,evolution⟩
    · exact .inl ⟨new,hit,Evolution.refl new⟩
  | created other victim record _ _ _ _ deliveries _ fresh _ cells =>
    rw [deliveries] at hit
    rcases lookup_insert_cases hit with ⟨-,rfl⟩ | ⟨-,hit⟩
    · exact .inr ⟨fresh,cells⟩
    · exact .inl ⟨new,lookup_forget hit,Evolution.refl new⟩

theorem effect_cells (effect : Effect seen target rt rt') : rt.cells.length ≤ rt'.cells.length := by
  cases effect with
  | kept _ _ _ cells => omega
  | evolved _ _ _ _ _ _ _ _ cells => omega
  | created _ _ _ _ _ _ _ _ _ _ _ cells => omega

theorem nodup_filter_ne_append {order : List String} (nodup : order.Nodup) :
    ((order.filter fun candidate => candidate ≠ sid) ++ [sid]).Nodup := by
  rw [nodup_append]
  refine ⟨nodup.filter _,by simp,?_⟩
  intro a member b last
  simp only [mem_filter, decide_eq_true_eq, mem_singleton] at member last
  exact last ▸ member.2

theorem forget_registered (inv : Registered rt) : (rt.forget victim).order.Nodup ∧
      (∀ sid, sid ∈ (rt.forget victim).order ↔ sid ∈ (rt.forget victim).deliveries) := by
  cases victim with
  | none => exact ⟨inv.orderNodup,inv.orderKeys⟩
  | some other =>
    constructor
    · exact inv.orderNodup.erase other
    · intro sid
      simp only [forget, inv.orderNodup.mem_erase_iff, AList.mem_erase, inv.orderKeys]

theorem insert_bounded {deliveries : AList fun _ : String => GeneratedInputDelivery Submission}
    (bounded : deliveries.keys.length ≤ maxRuntimeDeliveries)
    (room : sid ∈ deliveries ∨ deliveries.keys.length < maxRuntimeDeliveries) :
    (deliveries.insert sid record).keys.length ≤ maxRuntimeDeliveries := by
  rw [AList.keys_insert, length_cons]
  rcases room with here | room
  · have member := AList.mem_keys.mp here
    have positive := length_pos_of_mem member
    rw [length_erase_of_mem member]
    omega
  · have shorter := length_erase_le (a := sid) (l := deliveries.keys)
    omega

theorem forget_bounded (inv : Registered rt) :
    (rt.forget victim).deliveries.keys.length ≤ maxRuntimeDeliveries := by
  cases victim with
  | none => exact inv.bounded
  | some other =>
    have shorter := length_erase_le (a := other) (l := rt.deliveries.keys)
    have bounded := inv.bounded
    simp only [forget, AList.keys_erase]
    omega

theorem mem_forget (here : sid ∈ rt.deliveries)
    (other : ∀ chosen, victim = some chosen → chosen ≠ sid) :
    sid ∈ (rt.forget victim).deliveries := by
  cases victim with
  | none => exact here
  | some chosen => exact AList.mem_erase.mpr ⟨(other chosen rfl).symm,here⟩

theorem effect_registered (inv : Registered rt) (effect : Effect seen target rt rt') :
    Registered rt' := by
  have grown := effect_cells effect
  have allocated : ∀ sid d, rt'.deliveries.lookup sid = some d →
      d.cancelSubmit < rt'.cells.length := by
    intro sid d hit
    rcases effect_lookup effect hit with ⟨pre,old,evolution⟩ | ⟨fresh,cells⟩
    · have below := inv.allocated sid pre old
      have same : d.cancelSubmit = pre.cancelSubmit := evolution.same
      omega
    · have address := fresh.cancelSubmit
      omega
  have layout : ∀ sid d, rt'.deliveries.lookup sid = some d →
      d.pasteStarted = d.cancelSubmit + 1 := by
    intro sid d hit
    rcases effect_lookup effect hit with ⟨pre,old,evolution⟩ | ⟨fresh,_⟩
    · have same : d.cancelSubmit = pre.cancelSubmit := evolution.same
      rw [evolution.pasteStarted, same]
      exact inv.layout sid pre old
    · rw [fresh.pasteStarted, fresh.cancelSubmit]
  have sound : ∀ sid d, rt'.deliveries.lookup sid = some d → d.Sound := by
    intro sid d hit
    rcases effect_lookup effect hit with ⟨pre,old,evolution⟩ | ⟨fresh,_⟩
    · exact evolution.sound (inv.sound sid pre old)
    · exact fresh.sound
  cases effect with
  | kept deliveries order =>
    refine ⟨order ▸ inv.orderNodup,?_,deliveries ▸ inv.bounded,allocated,layout,sound⟩
    rw [order, deliveries]
    exact inv.orderKeys
  | evolved sid d next hit evolution deliveries order =>
    have here := mem_of_lookup hit
    refine ⟨order ▸ inv.orderNodup,?_,?_,allocated,layout,sound⟩
    · intro other
      rw [order, deliveries, AList.mem_insert, inv.orderKeys]
      constructor
      · exact .inr
      · rintro (rfl | member)
        · exact here
        · exact member
    · rw [deliveries]
      exact insert_bounded inv.bounded (.inl here)
  | created sid victim record _ idle evicted room deliveries order =>
    obtain ⟨nodup,keys⟩ := forget_registered inv
    refine ⟨?_,?_,?_,allocated,layout,sound⟩
    · rw [order]
      exact nodup_filter_ne_append nodup
    · intro other
      rw [order, deliveries, AList.mem_insert, ← keys]
      by_cases same : other = sid <;> simp [same]
    · rw [deliveries]
      refine insert_bounded (forget_bounded inv) ?_
      rcases room with here | room
      · exact .inl (mem_forget here fun chosen h => (evicted chosen h).2)
      · exact .inr room

theorem lookup_removed (hit : (rt.removeSession removed).deliveries.lookup sid = some d) :
    rt.deliveries.lookup sid = some d := by
  exact (lookup_erase_some hit).2

theorem removeSession_cells (rt : GeneratedInputDeliveryRuntime Submission) (removed : String) :
    (rt.removeSession removed).cells.length = rt.cells.length := by
  simp only [removeSession]
  split <;> simp

theorem removeSession_registered (inv : Registered rt) (removed : String) :
    Registered (rt.removeSession removed) where
  orderNodup := inv.orderNodup.filter _
  orderKeys := by
    intro sid
    simp [removeSession, inv.orderKeys, and_comm]
  bounded := by
    have shorter := length_erase_le (a := removed) (l := rt.deliveries.keys)
    have bounded := inv.bounded
    simp only [removeSession, AList.keys_erase]
    omega
  allocated := by
    intro sid d hit
    rw [removeSession_cells]
    exact inv.allocated sid d (lookup_removed hit)
  layout := fun sid d hit => inv.layout sid d (lookup_removed hit)
  sound := fun sid d hit => inv.sound sid d (lookup_removed hit)

theorem freshRecords_old (old : ∀ sid d, rt'.deliveries.lookup sid = some d →
      d.cancelSubmit < rt.cells.length)
    : freshRecords rt rt' = [] := by
  simp only [freshRecords, map_eq_nil_iff, filter_eq_nil_iff, decide_eq_true_eq]
  rintro ⟨sid,d⟩ member
  have below := old sid d (AList.mem_lookup_iff.mpr member)
  simp only
  omega

theorem freshRecords_insert {base : AList fun _ : String => GeneratedInputDelivery Submission}
    (old : ∀ other d, base.lookup other = some d → d.cancelSubmit < rt.cells.length)
    (fresh : FreshIn rt record) (deliveries : rt'.deliveries = base.insert sid record) :
    freshRecords rt rt' = [rt.nextId] := by
  have rest : ((base.erase sid).entries.filter fun entry =>
      decide (rt.cells.length ≤ entry.2.cancelSubmit)) = [] := by
    simp only [filter_eq_nil_iff, decide_eq_true_eq]
    rintro ⟨other,d⟩ member
    have hit : (base.erase sid).lookup other = some d := AList.mem_lookup_iff.mpr member
    have below := old other d (lookup_erase_some hit).2
    simp only
    omega
  have first : decide (rt.cells.length ≤ record.cancelSubmit) := by
    simp [fresh.cancelSubmit]
  have entries : rt'.deliveries.entries = ⟨sid,record⟩ :: (base.erase sid).entries := by
    rw [deliveries]
    rfl
  simp only [freshRecords, entries, filter_cons, first, ↓reduceIte, rest, map_cons,
    map_nil, fresh.id]

structure Sane (h : History Submission) : Prop where
  registered : Registered h.runtime
  witnessed : ∀ sessionId d, h.runtime.deliveries.lookup sessionId = some d →
    d.Witnessed (seenIn h.observations d.cancelSubmit)
  nextId : h.runtime.nextId ≤ u64Max
  issued : ∀ id ∈ h.created, id < h.runtime.nextId ∨ id = u64Max
  distinct : h.created.Pairwise fun a b => a < u64Max → a ≠ b

theorem witnessed_more (kept : d.Witnessed (seenIn observations d.cancelSubmit)) :
    d.Witnessed (seenIn (observations ++ more) d.cancelSubmit) := by
  intro seq activity held
  obtain ⟨past,received⟩ := kept seq activity held
  exact ⟨past,mem_append_left more received⟩

theorem trace_effect (inv : Sane h) (op : Operation Submission) : (∃ sid, op = .removeSession sid) ∨
      Effect (seenIn (trace h op).observations) op.inserts h.runtime (trace h op).runtime := by
  refine perform_effect h.runtime op inv.registered.bounded ?_
  intro o observed
  simp [seenIn, trace, observed]

theorem created_sane {nextId : Nat} (below : nextId ≤ u64Max)
    (issued : ∀ id ∈ created, id < nextId ∨ id = u64Max)
    (nodup : created.Pairwise fun a b => a < u64Max → a ≠ b) :
    (∀ id ∈ created ++ [nextId], id < saturatingAdd nextId 1 ∨ id = u64Max) ∧
      (created ++ [nextId]).Pairwise fun a b => a < u64Max → a ≠ b := by
  constructor
  · intro id member
    simp only [saturatingAdd]
    rcases mem_append.mp member with old | new
    · have := issued id old
      omega
    · have := mem_singleton.mp new
      omega
  · rw [pairwise_append]
    refine ⟨nodup,by simp,?_⟩
    intro a old b new small
    have := issued a old
    have := mem_singleton.mp new
    omega

theorem trace_sane (inv : Sane h) (op : Operation Submission) : Sane (trace h op) := by
  rcases trace_effect inv op with ⟨removed,rfl⟩ | effect
  · have old : freshRecords h.runtime (h.runtime.removeSession removed) = [] :=
      freshRecords_old fun sid d hit =>
        inv.registered.allocated sid d (lookup_removed hit)
    refine ⟨removeSession_registered inv.registered removed,?_,inv.nextId,?_,?_⟩
    · intro sid d hit
      exact witnessed_more (inv.witnessed sid d (lookup_removed hit))
    · have same : (h.runtime.removeSession removed).nextId = h.runtime.nextId := rfl
      simpa [trace, perform, old, same] using inv.issued
    · simpa [trace, perform, old] using inv.distinct
  · have known := effect_registered inv.registered effect
    have witnessed : ∀ sid d, (trace h op).runtime.deliveries.lookup sid = some d →
        d.Witnessed (seenIn (trace h op).observations d.cancelSubmit) := by
      intro sid d hit
      rcases effect_lookup effect hit with ⟨pre,old,evolution⟩ | ⟨fresh,_⟩
      · have same : d.cancelSubmit = pre.cancelSubmit := evolution.same
        rw [same]
        exact evolution.witnessed (witnessed_more (inv.witnessed sid pre old))
      · intro seq activity held
        rw [fresh.nothingKept] at held
        cases held
    -- Without a new flag there is no new record and no new id.
    have unissued : (trace h op).runtime.nextId = h.runtime.nextId →
        (trace h op).runtime.cells.length = h.runtime.cells.length → Sane (trace h op) := by
      intro nextId cells
      have old : freshRecords h.runtime (perform h.runtime op) = [] := by
        refine freshRecords_old fun sid d hit => ?_
        have below := known.allocated sid d hit
        omega
      refine ⟨known,witnessed,nextId ▸ inv.nextId,?_,?_⟩
      · rw [nextId]
        simpa [trace, old] using inv.issued
      · simpa [trace, old] using inv.distinct
    cases effect with
    | kept _ _ nextId cells => exact unissued nextId cells
    | evolved _ _ _ _ _ _ _ nextId cells => exact unissued nextId cells
    | created sid victim record _ idle evicted room deliveries order fresh nextId cells =>
      have new : freshRecords h.runtime (perform h.runtime op) = [h.runtime.nextId] :=
        freshRecords_insert
          (fun other d hit => inv.registered.allocated other d (lookup_forget hit)) fresh deliveries
      obtain ⟨issued,nodup⟩ := created_sane inv.nextId inv.issued inv.distinct
      refine ⟨known,witnessed,?_,?_,?_⟩
      · rw [nextId]
        exact saturatingAdd_le _ _
      · rw [nextId]
        simpa [trace, new] using issued
      · simpa [trace, new] using nodup

theorem history_sane (ops : List (Operation Submission)) : Sane (history ops) := by
  have start : Sane (⟨default,[],[]⟩ : History Submission) :=
    ⟨default_registered,by simp [GeneratedInputDeliveryRuntime.default],
      by simp [GeneratedInputDeliveryRuntime.default, u64Max],by simp,by simp⟩
  exact foldlRecOn ops trace start fun h inv op _ => trace_sane inv op

theorem effect_fate (effect : Effect seen target rt rt') (hit : rt.deliveries.lookup sid = some d) :
    (∃ next, rt'.deliveries.lookup sid = some next ∧ Evolution (seen d.cancelSubmit) d next) ∨
      d.state.isActive = false ∧
        (target = some sid ∧
            (∃ next, rt'.deliveries.lookup sid = some next ∧ FreshIn rt next) ∨
          ∃ other, other ≠ sid ∧ target = some other ∧ rt'.deliveries.lookup sid = none) := by
  cases effect with
  | kept deliveries => exact .inl ⟨d,by rw [deliveries, hit],Evolution.refl d⟩
  | evolved other e next pre evolution deliveries =>
    left
    by_cases same : sid = other
    · subst same
      have unique : e = d := Option.some.inj (pre.symm.trans hit)
      subst unique
      exact ⟨next,by rw [deliveries, AList.lookup_insert],evolution⟩
    · exact ⟨d,by rw [deliveries, AList.lookup_insert_ne same, hit],Evolution.refl d⟩
  | created other victim record inserts idle evicted room deliveries order fresh =>
    by_cases same : sid = other
    · subst same
      exact .inr ⟨idle d hit,.inl ⟨inserts,record,by rw [deliveries, AList.lookup_insert],fresh⟩⟩
    rw [deliveries, AList.lookup_insert_ne same]
    cases victim with
    | none => exact .inl ⟨d,hit,Evolution.refl d⟩
    | some chosen =>
      by_cases evictee : sid = chosen
      · subst evictee
        obtain ⟨e,here,inactive⟩ := evictable_spec (evicted sid rfl).1
        have unique : e = d := Option.some.inj (here.symm.trans hit)
        subst unique
        exact .inr ⟨inactive,.inr ⟨other,Ne.symm same,inserts,by simp [forget]⟩⟩
      · exact .inl ⟨d,by simpa [forget, AList.lookup_erase_ne evictee] using hit,Evolution.refl d⟩

theorem lookup_after_removal (other : sid ≠ removed) (hit : rt.deliveries.lookup sid = some d) :
    (rt.removeSession removed).deliveries.lookup sid = some d := by
  simpa [removeSession, AList.lookup_erase_ne other] using hit

structure RecordRules (h : History Submission) (op : Operation Submission) : Prop where
  original : ∀ sessionId d next, h.runtime.deliveries.lookup sessionId = some d →
    (trace h op).runtime.deliveries.lookup sessionId = some next → next.SameRecord d →
    ∀ failure, d.originalFailure = some failure → next.originalFailure = some failure
  confirmed : ∀ sessionId d, h.runtime.deliveries.lookup sessionId = some d →
    d.state = .confirmed →
    (∃ next, (trace h op).runtime.deliveries.lookup sessionId = some next ∧ next.SameRecord d ∧
      next.state = .confirmed) ∨
    op = .removeSession sessionId ∨
    (op.inserts = some sessionId ∧ ∃ next,
      (trace h op).runtime.deliveries.lookup sessionId = some next ∧ ¬ next.SameRecord d) ∨
    ∃ other, other ≠ sessionId ∧ op.inserts = some other ∧
      (trace h op).runtime.deliveries.lookup sessionId = none
  becomes : ∀ sessionId next, (trace h op).runtime.deliveries.lookup sessionId = some next →
    next.state.isConfirmation = true →
    (∀ d, h.runtime.deliveries.lookup sessionId = some d → next.SameRecord d →
      d.state ≠ next.state) →
    ∃ o ∈ (trace h op).observations, o.record = next.cancelSubmit ∧
      o.epoch = next.runtimeEpoch ∧ o.sequence > next.providerSequenceBaseline

theorem fresh_not_same (inv : Registered rt)
    (hit : rt.deliveries.lookup sid = some d) (fresh : FreshIn rt new) :
    ¬ new.SameRecord d := by
  intro same
  have below := inv.allocated sid d hit
  have address := fresh.cancelSubmit
  have equal : new.cancelSubmit = d.cancelSubmit := same
  omega

theorem removal_rules (removed : String) : RecordRules h (.removeSession removed) where
  original := by
    intro sid d next hit after _ failure first
    have unique := Option.some.inj (hit.symm.trans (lookup_removed after))
    exact unique ▸ first
  confirmed := by
    intro sid d hit confirmed
    by_cases other : sid = removed
    · exact .inr (.inl (by rw [other]))
    · exact .inl ⟨d,lookup_after_removal other hit,rfl,confirmed⟩
  becomes := by
    intro sid next after _ edited
    exact absurd rfl (edited next (lookup_removed after) rfl)

theorem record_rules (inv : Sane h) (op : Operation Submission) : RecordRules h op := by
  rcases trace_effect inv op with ⟨removed,rfl⟩ | effect
  · exact removal_rules removed
  constructor
  · intro sid d next hit after same failure first
    rcases effect_lookup effect after with ⟨pre,old,evolution⟩ | ⟨fresh,_⟩
    · have unique := Option.some.inj (hit.symm.trans old)
      exact evolution.original failure (unique ▸ first)
    · exact absurd same (fresh_not_same inv.registered hit fresh)
  · intro sid d hit confirmed
    rcases effect_fate effect hit with ⟨next,after,evolution⟩ | ⟨_,replaced | evicted⟩
    · exact .inl ⟨next,after,evolution.same,evolution.confirmed confirmed⟩
    · obtain ⟨inserts,next,after,fresh⟩ := replaced
      exact .inr (.inr (.inl ⟨inserts,next,after,fresh_not_same inv.registered hit fresh⟩))
    · exact .inr (.inr (.inr evicted))
  · intro sid next after confirmation edited
    rcases effect_lookup effect after with ⟨pre,old,evolution⟩ | ⟨fresh,_⟩
    · obtain ⟨seq,past,received⟩ := evolution.confirms
        (witnessed_more (inv.witnessed sid pre old)) confirmation
        (edited pre old evolution.same).symm
      have same : next.cancelSubmit = pre.cancelSubmit := evolution.same
      exact ⟨⟨pre.cancelSubmit,next.runtimeEpoch,seq⟩,received,same.symm,rfl,past⟩
    · rw [fresh.unconfirmed] at confirmation
      cases confirmation

theorem history_carries (ops more : List (Operation Submission)) :
    (history ops).runtime.cells.length ≤ (history (ops ++ more)).runtime.cells.length ∧
    ∀ sid next, (history (ops ++ more)).runtime.deliveries.lookup sid = some next →
      next.cancelSubmit < (history ops).runtime.cells.length →
      ∃ d, (history ops).runtime.deliveries.lookup sid = some d ∧ next.SameRecord d ∧
        (∀ failure, d.originalFailure = some failure → next.originalFailure = some failure) ∧
        (d.state = .confirmed → next.state = .confirmed) := by
  induction more using List.reverseRecOn with
  | nil =>
    rw [append_nil]
    exact ⟨Nat.le_refl _,fun sid next hit _ => ⟨next,hit,rfl,fun _ h => h,fun h => h⟩⟩
  | append_singleton more op ih =>
    obtain ⟨grown,carried⟩ := ih
    have inv := history_sane (ops ++ more)
    have last : history (ops ++ (more ++ [op])) = trace (history (ops ++ more)) op := by
      simp [history, ← append_assoc]
    rw [last]
    rcases trace_effect inv op with ⟨removed,rfl⟩ | effect
    · constructor
      · simpa only [trace, perform, removeSession_cells] using grown
      · intro sid next hit below
        exact carried sid next (lookup_removed hit) below
    · have larger := effect_cells effect
      constructor
      · omega
      · intro sid next hit below
        rcases effect_lookup effect hit with ⟨pre,old,evolution⟩ | ⟨fresh,_⟩
        · have same : next.cancelSubmit = pre.cancelSubmit := evolution.same
          obtain ⟨d,first,identity,original,confirmed⟩ := carried sid pre old (by omega)
          exact ⟨d,first,same.trans identity,
            fun failure h => evolution.original failure (original failure h),
            fun h => evolution.confirmed (confirmed h)⟩
        · have address := fresh.cancelSubmit
          omega

/-- The delivery state machine after any operations, for the next one and across later ones.
    -/
theorem delivery_state_machine (ops : List (Operation Submission)) :
    (∀ sessionId d, (history ops).runtime.deliveries.lookup sessionId = some d → d.Sound) ∧
    (∀ op, RecordRules (history ops) op) ∧
    ∀ more sessionId d next, (history ops).runtime.deliveries.lookup sessionId = some d →
      (history (ops ++ more)).runtime.deliveries.lookup sessionId = some next →
      next.SameRecord d →
      (∀ failure, d.originalFailure = some failure → next.originalFailure = some failure) ∧
        (d.state = .confirmed → next.state = .confirmed) := by
  have inv := history_sane ops
  refine ⟨inv.registered.sound,record_rules inv,?_⟩
  intro more sessionId d next found later same
  have below := inv.registered.allocated sessionId d found
  have identity : next.cancelSubmit = d.cancelSubmit := same
  obtain ⟨old,first,_,kept⟩ := (history_carries ops more).2 sessionId next later (by omega)
  have unique : old = d := Option.some.inj (first.symm.trans found)
  exact unique ▸ kept

/-- The registry after any operations, its active records and stale events under the next
    one. -/
theorem delivery_registry (ops : List (Operation Submission)) :
    (history ops).runtime.order.Nodup ∧ (∀ sessionId, sessionId ∈ (history ops).runtime.order ↔
      sessionId ∈ (history ops).runtime.deliveries) ∧
    (history ops).runtime.deliveries.keys.length ≤ maxRuntimeDeliveries ∧
    ((history ops).created.Pairwise fun a b => a < u64Max → a ≠ b) ∧
    (∀ op sessionId d, (history ops).runtime.deliveries.lookup sessionId = some d →
      d.state.isActive = true → op ≠ .removeSession sessionId →
      ∃ next, (perform (history ops).runtime op).deliveries.lookup sessionId = some next ∧
        next.SameRecord d ∧ next.id = d.id) ∧
    ∀ event : GeneratedInputRuntimeEvent,
      (∀ d, (history ops).runtime.deliveries.lookup event.sessionId = some d →
        d.id ≠ event.deliveryId ∨ d.runtimeEpoch ≠ event.runtimeEpoch) →
      (history ops).runtime.applyTransportEvent event = ((history ops).runtime, false) := by
  have inv := history_sane ops
  refine ⟨inv.registered.orderNodup,inv.registered.orderKeys,inv.registered.bounded,inv.distinct,
    ?_,?_⟩
  · intro op sessionId d found active other
    rcases trace_effect inv op with ⟨removed,rfl⟩ | effect
    · have kept : sessionId ≠ removed := fun same => other (by rw [same])
      exact ⟨d,lookup_after_removal kept found,rfl,rfl⟩
    · rcases effect_fate effect found with ⟨next,after,evolution⟩ | ⟨idle,_⟩
      · exact ⟨next,after,evolution.same,evolution.id⟩
      · rw [active] at idle
        cases idle
  · intro event stale
    unfold applyTransportEvent
    split
    · rfl
    rename_i d found
    rw [if_pos (stale d found)]

end TermloopDelivery

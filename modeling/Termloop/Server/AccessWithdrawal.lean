import Mathlib.Data.List.Perm.Subperm
import Termloop.Server.AccessEffects

/-!
Remote access ends when it is withdrawn. What a connection has still to hear grows with
every broadcast and shrinks only by what does not concern it, so a withdrawal that finds a
connection is heard by it. A device that was revoked stays revoked under its id. An
invitation is in the table, in an exchange or in one recorded device, and never in two of
these places.
-/
namespace TermloopAccess
open TermloopRuns TermloopRecordLists TermloopKeyed List
variable {dev digest publicKey : String} {hs : Handshake} {index now : Nat}
  {answer : Except String Bool} {exchange : Exchange} {later : List Action}
  {keyValid : String → Bool} {pre after plane : AccessPlane} {action : Action} {enabled : Bool}
  {port : Nat} {devices : List AccessDeviceRecord} {exchanges : Except String Unit}
  {records : Except String AccessDeviceRecord}

section Hearing
variable {revoked : String} {next : Handshake}

def Belongs (deviceId : String) : Stage → Prop
  | .authenticated id _ _ | .handedOver id _ _ => id = deviceId
  | .refused _ | .closed => True
  | .subscribed | .checked => False

def Passed : Stage → Prop
  | .checked | .authenticated _ _ _ | .handedOver _ _ _ => True
  | .subscribed | .refused _ | .closed => False

/-- Something that ends the connections of the device is among what is still to be heard. -/
def Heard (deviceId : String) (plane : AccessPlane) (handshake : Handshake) : Prop :=
  ∃ revoked ∈ plane.pending handshake, revoked = deviceId ∨ revoked = "*"

theorem wait_returns (ends : revoked = dev ∨ revoked = "*") :
    ∀ {pending : List String}, revoked ∈ pending → wait dev pending := by
  intro pending
  induction pending with
  | nil => exact nofun
  | cons first rest ih =>
    intro waiting
    rw [wait]
    split
    · rfl
    split
    · rfl
    next other =>
    rcases mem_cons.mp waiting with same | later
    · exact absurd (same ▸ ends) other
    · exact ih later

theorem pending_grown (grown : after.revocations = pre.revocations ++ more)
    (waiting : revoked ∈ pre.pending hs) : revoked ∈ after.pending hs := by
  rw [AccessPlane.pending, grown, drop_append]
  exact mem_append_left _ waiting

theorem heard_now (behind : hs.received ≤ pre.revocations.length)
    (sent : after.revocations = pre.revocations ++ [revoked])
    (ends : revoked = dev ∨ revoked = "*") : Heard dev after hs := by
  refine ⟨revoked,?_,ends⟩
  rw [AccessPlane.pending, sent, drop_append_of_le_length behind]
  exact mem_append_right _ mem_cons_self

theorem stageMove_belongs (moved : StageMove plane hs next) (belongs : Belongs dev hs.stage) :
    Belongs dev next.stage := by
  cases moved with
  | refuse => trivial
  | check subscribed =>
    rw [subscribed] at belongs
    exact belongs.elim
  | authenticate _ _ checked =>
    rw [checked] at belongs
    exact belongs.elim
  | handOver authenticated => rwa [authenticated] at belongs
  | hear => exact belongs
  | close => trivial

theorem stageMove_heard (moved : StageMove plane hs next) (belongs : Belongs dev hs.stage)
    (heard : Passed hs.stage → Heard dev plane hs) (passed : Passed next.stage) :
    Heard dev plane next := by
  cases moved with
  | refuse => exact passed.elim
  | check subscribed =>
    rw [subscribed] at belongs
    exact belongs.elim
  | authenticate _ _ checked =>
    rw [checked] at belongs
    exact belongs.elim
  | handOver authenticated => exact heard (authenticated ▸ trivial)
  | hear connected pending other single =>
    obtain ⟨revoked,waiting,ends⟩ := heard passed
    refine ⟨revoked,?_,ends⟩
    rw [pending] at waiting
    have rest := congrArg List.tail pending
    rw [AccessPlane.pending, tail_drop, tail_cons] at rest
    rcases mem_cons.mp waiting with same | later
    · rw [connected] at belongs
      rcases ends with own | all
      · exact absurd (same ▸ own.trans belongs.symm) other
      · exact absurd (same ▸ all) single
    · rw [AccessPlane.pending, rest]
      exact later
  | close => exact passed.elim

/-- The connection at a place ends: it is of the device, and what ends it waits for it. -/
def Ends (deviceId : String) (index : Nat) (plane : AccessPlane) : Prop :=
  ∃ handshake, plane.handshakes[index]? = some handshake ∧ Belongs deviceId handshake.stage ∧
    (Passed handshake.stage → Heard deviceId plane handshake)

def Connected (deviceId : String) (index : Nat) (plane : AccessPlane) : Prop :=
  ∃ handshake, plane.handshakes[index]? = some handshake ∧ Belongs deviceId handshake.stage

variable (listening : Listening pre after)
include listening

theorem listening_grows : ∃ more, after.revocations = pre.revocations ++ more := by
  cases listening with
  | elsewhere more _ grown => exact ⟨more,grown⟩
  | subscribe _ silent | move _ _ _ _ _ _ silent => exact ⟨[],silent.trans (append_nil _).symm⟩

theorem listening_at (hit : pre.handshakes[index]? = some hs) :
    ∃ next, after.handshakes[index]? = some next ∧ (next = hs ∨ StageMove pre hs next) := by
  have inside : index < pre.handshakes.length := (List.getElem?_eq_some_iff.mp hit).1
  cases listening with
  | elsewhere more same => exact ⟨hs,same ▸ hit,.inl rfl⟩
  | subscribe added =>
    exact ⟨hs,by rw [added, getElem?_append_left inside, hit],.inl rfl⟩
  | move place own next known moved set =>
    by_cases same : place = index
    · subst same
      cases known.symm.trans hit
      exact ⟨next,by rw [set, getElem?_set_self inside],.inr moved⟩
    · exact ⟨hs,by rw [set, getElem?_set_ne same, hit],.inl rfl⟩

theorem listening_from (here : hs ∈ after.handshakes) :
    hs ∈ pre.handshakes ∨ hs = ⟨pre.revocations.length, .subscribed⟩ ∨
      ∃ own ∈ pre.handshakes, StageMove pre own hs := by
  cases listening with
  | elsewhere more same => exact .inl (same ▸ here)
  | subscribe added =>
    rw [added] at here
    exact (mem_append.mp here).imp id fun new => .inl (mem_singleton.mp new)
  | move index own next hit moved set =>
    rw [set] at here
    rcases mem_or_eq_of_mem_set here with old | new
    · exact .inl old
    · exact .inr (.inr ⟨own,mem_of_getElem? hit,new ▸ moved⟩)

theorem ends_kept (ends : Ends dev index pre) : Ends dev index after := by
  obtain ⟨hs,hit,belongs,heard⟩ := ends
  obtain ⟨more,grown⟩ := listening_grows listening
  have still : ∀ hs, Heard dev pre hs → Heard dev after hs :=
    fun _ ⟨revoked,waiting,own⟩ => ⟨revoked,pending_grown grown waiting,own⟩
  obtain ⟨next,there,same | moved⟩ := listening_at listening hit
  · subst same
    exact ⟨next,there,belongs,fun passed => still _ (heard passed)⟩
  · exact ⟨next,there,stageMove_belongs moved belongs,
      fun passed => still _ (stageMove_heard moved belongs heard passed)⟩

theorem connected_kept (connected : Connected dev index pre) : Connected dev index after := by
  obtain ⟨hs,hit,belongs⟩ := connected
  obtain ⟨next,there,same | moved⟩ := listening_at listening hit
  · exact ⟨next,there,same ▸ belongs⟩
  · exact ⟨next,there,stageMove_belongs moved belongs⟩

end Hearing

/-- While access is being disabled the switch is off, and once broadcast, every connection
    that passed the switch has it to hear. -/
structure Switched (plane : AccessPlane) : Prop where
  behind : ∀ handshake ∈ plane.handshakes, handshake.received ≤ plane.revocations.length
  off : ∀ announced, plane.management = some (.disabling announced) → plane.enabled = false
  told : plane.management = some (.disabling true) → ∀ handshake ∈ plane.handshakes,
    Passed handshake.stage → "*" ∈ plane.pending handshake

theorem opened_switched : Switched (.opened enabled port devices) where
  behind := nofun
  off := nofun
  told := nofun

theorem Revoked.switching (revoked : Revoked pre dev now answer after) : Switching pre after := by
  cases revoked <;> exact .same rfl rfl

theorem Exchanged.switching (exchanged : Exchanged pre digest publicKey dev now exchanges after) :
    Switching pre after := by
  cases exchanged <;> exact .same rfl rfl

theorem Recorded.switching (recorded : Recorded pre exchange records after) : Switching pre after := by
  cases recorded <;> exact .same rfl rfl

theorem step_switching (step : Step keyValid pre action after) : Switching pre after := by
  cases step_effect step with
  | connection => exact .same rfl rfl
  | revoked revoked => exact revoked.switching
  | exchanged _ _ exchanged => exact exchanged.switching
  | recorded _ recorded => exact recorded.switching
  | enrolled => exact .same rfl rfl
  | served _ switching => exact switching
  | disabled => exact .off rfl rfl
  | inserted digest name scope now =>
    obtain ⟨invitations,issued,frame⟩ := @insertInvitation_frame pre digest name scope now
    rw [frame]
    exact .away fun announced => nofun

theorem listening_behind (listening : Listening pre after)
    (behind : ∀ hs ∈ pre.handshakes, hs.received ≤ pre.revocations.length) :
    ∀ hs ∈ after.handshakes, hs.received ≤ after.revocations.length := by
  intro hs present
  obtain ⟨more,grown⟩ := listening_grows listening
  rw [grown, length_append]
  apply Nat.le_add_right_of_le
  rcases listening_from listening present with old | new | ⟨own,here,moved⟩
  · exact behind hs old
  · rw [new]
  have before_ := behind own here
  cases moved with
  | hear connected pending =>
    have more : (pre.revocations.drop own.received).length = _ := congrArg List.length pending
    rw [length_drop, length_cons] at more
    dsimp only
    omega
  | refuse | check | authenticate | handOver | close => exact before_

theorem listening_told (listening : Listening pre after) (off : pre.enabled = false)
    (told : ∀ hs ∈ pre.handshakes, Passed hs.stage → "*" ∈ pre.pending hs) :
    ∀ hs ∈ after.handshakes, Passed hs.stage → "*" ∈ after.pending hs := by
  intro hs present passed
  obtain ⟨more,grown⟩ := listening_grows listening
  apply pending_grown grown
  rcases listening_from listening present with old | new | ⟨own,here,moved⟩
  · exact told hs old passed
  · rw [new] at passed
    exact passed.elim
  have heard := told own here
  cases moved with
  | refuse | close => exact passed.elim
  | check _ enabled => exact absurd (off.symm.trans enabled) nofun
  | authenticate _ _ checked => exact heard (checked ▸ trivial)
  | handOver authenticated => exact heard (authenticated ▸ trivial)
  | hear connected pending _ single =>
    have waiting := heard (connected ▸ trivial)
    have rest := congrArg List.tail pending
    rw [AccessPlane.pending, tail_drop, tail_cons] at rest
    rw [pending] at waiting
    rw [AccessPlane.pending, rest]
    exact (mem_cons.mp waiting).resolve_left (Ne.symm single)

theorem step_switched (step : Step keyValid pre action after) (switched : Switched pre) :
    Switched after := by
  have listening := step_listening step
  refine ⟨listening_behind listening switched.behind,?_,?_⟩
  · intro announced disabling
    cases step_switching step with
    | same enabled management =>
      rw [enabled]
      exact switched.off announced (management ▸ disabling)
    | away away => exact absurd disabling (away announced)
    | off enabled => exact enabled
    | announced earlier announces =>
      rw [announces]
      exact switched.off false earlier
  · intro disabling
    cases step_switching step with
    | same enabled management =>
      rw [management] at disabling
      exact listening_told listening (switched.off true disabling) (switched.told disabling)
    | away away => exact absurd disabling (away true)
    | off _ management =>
      rw [management] at disabling
      cases disabling
    | announced _ announces =>
      subst announces
      intro hs here _
      have behind := switched.behind hs here
      rw [AccessPlane.pending, AccessPlane.announceDisable, drop_append_of_le_length behind]
      exact mem_append_right _ mem_cons_self

structure Registered (plane : AccessPlane) : Prop where
  distinct : plane.ids.Nodup
  reserved : ∀ exchange, plane.exchanging = some exchange → exchange.device.deviceId ∉ plane.ids

/-- Where a device comes in no exchange is left, and a new exchange has drawn a new id. -/
inductive Reserves (before after : AccessPlane) (added : Option String) : Prop where
  | none (free : after.exchanging = none)
  | same (nobody : added = none) (exchanging : after.exchanging = before.exchanging)
  | drawn (nobody : added = none) (exchange : Exchange) (held : after.exchanging = some exchange)
      (fresh : exchange.device.deviceId ∉ before.ids)

theorem Revoked.follows (revoked : Revoked pre dev now answer after) :
    DevicesFollow none pre after ∧ Reserves pre after none := by
  cases revoked with
  | nothing => exact ⟨follow_same rfl,.same rfl rfl⟩
  | done =>
    refine ⟨follow_update ?_ ?_ rfl,.same rfl rfl⟩
    · exact fun _ => rfl
    · exact fun _ _ => rfl

theorem Exchanged.follows (fresh : dev ∉ pre.ids)
    (exchanged : Exchanged pre digest publicKey dev now exchanges after) :
    DevicesFollow none pre after ∧ Reserves pre after none := by
  cases exchanged with
  | refused => exact ⟨follow_same rfl,.same rfl rfl⟩
  | expired => exact ⟨follow_same rfl,.same rfl rfl⟩
  | taken => exact ⟨follow_same rfl,.drawn rfl _ rfl fresh⟩

theorem Recorded.follows (fresh : exchange.device.deviceId ∉ pre.ids)
    (recorded : Recorded pre exchange records after) :
    ∃ added, DevicesFollow added pre after ∧ Reserves pre after added := by
  cases recorded with
  | dropped => exact ⟨none,follow_same rfl,.none rfl⟩
  | done => exact ⟨_,follow_append fresh rfl,.none rfl⟩

theorem step_follows (step : Step keyValid pre action after) (known : Registered pre) :
    ∃ added, DevicesFollow added pre after ∧ Reserves pre after added := by
  cases step_effect step with
  | connection _ follows => exact ⟨none,follows,.same rfl rfl⟩
  | revoked revoked => exact ⟨none,revoked.follows⟩
  | exchanged _ fresh exchanged => exact ⟨none,exchanged.follows fresh⟩
  | recorded held recorded => exact recorded.follows (known.reserved _ held)
  | enrolled free follows => exact ⟨_,follows,.none free⟩
  | served served => exact ⟨none,follow_same served.devices,.same rfl served.exchanging⟩
  | disabled => exact ⟨none,follow_same rfl,.same rfl rfl⟩
  | inserted digest name scope now =>
    obtain ⟨invitations,issued,frame⟩ := @insertInvitation_frame pre digest name scope now
    rw [frame]
    exact ⟨none,follow_same rfl,.same rfl rfl⟩

theorem step_registered (step : Step keyValid pre action after)
    (known : Registered pre) : Registered after := by
  obtain ⟨added,follows,reserves⟩ := step_follows step known
  constructor
  · rw [follows.ids]
    cases added with
    | none => rw [Option.toList_none, append_nil]; exact known.distinct
    | some id =>
      rw [Option.toList_some, ← concat_eq_append]
      exact List.Nodup.concat (follows.fresh id rfl) known.distinct
  · intro exchange held
    cases reserves with
    | none free => exact absurd (free.symm.trans held) nofun
    | same nobody exchanging =>
      rw [follows.ids, nobody, Option.toList_none, append_nil]
      exact known.reserved exchange (exchanging ▸ held)
    | drawn nobody drawn now fresh =>
      rw [follows.ids, nobody, Option.toList_none, append_nil]
      rw [now] at held
      cases held
      exact fresh

theorem validateFrom_distinct (valid : validateFrom keyValid seen devices) :
    (devices.map AccessDeviceRecord.deviceId).Nodup ∧
      ∀ device ∈ devices, device.deviceId ∉ seen := by
  induction devices generalizing seen with
  | nil => exact ⟨nodup_nil,nofun⟩
  | cons device rest ih =>
    rw [validateFrom] at valid
    split at valid
    · cases valid
    next fine =>
    obtain ⟨nodup,unseen⟩ := ih valid
    simp only [Bool.or_eq_true, not_or, contains_iff_mem] at fine
    refine ⟨nodup_cons.mpr ⟨fun again => ?_,nodup⟩,fun other here => ?_⟩
    · obtain ⟨other,here,same⟩ := mem_map.mp again
      exact unseen other here (same ▸ mem_cons_self)
    · rcases mem_cons.mp here with same | later
      · exact same ▸ fine.2
      · exact fun earlier => unseen other later (mem_cons_of_mem _ earlier)

theorem opened_registered (valid : validateDevices keyValid devices) :
    Registered (.opened enabled port devices) := by
  rw [validateDevices, Bool.and_eq_true] at valid
  exact ⟨(validateFrom_distinct valid.2).1,nofun⟩

structure Withdrawn (deviceId : String) (plane : AccessPlane) : Prop where
  registered : Registered plane
  known : deviceId ∈ plane.ids
  revoked : ∀ device ∈ plane.devices, device.deviceId = deviceId →
    device.revokedAtEpochMs.isSome = true

theorem step_withdrawn (step : Step keyValid pre action after)
    (withdrawn : Withdrawn dev pre) : Withdrawn dev after := by
  obtain ⟨added,follows,-⟩ := step_follows step withdrawn.registered
  refine ⟨step_registered step withdrawn.registered,?_,fun device present same => ?_⟩
  · rw [follows.ids]
    exact mem_append_left _ withdrawn.known
  · rcases follows.known device present with fresh | ⟨old,here,sameId,stays⟩
    · exact absurd withdrawn.known (same ▸ fresh)
    · exact stays (withdrawn.revoked old here (sameId.trans same))

theorem withdrawn_refuses {answer : Except String (AccessScope × String)}
    (step : Step keyValid pre (.authenticate index dev answer) after)
    (withdrawn : Withdrawn dev pre) : ∀ granted, answer ≠ .ok granted := by
  intro granted same
  cases step with
  | authenticate _ hs _ proof now persist token =>
    obtain ⟨device,here,named,live⟩ :=
      authenticate_follows.2 granted same
    have revoked := withdrawn.revoked device here named
    rw [live] at revoked
    cases revoked

theorem Revoked.withdraws (revoked : Revoked pre dev now (.ok true) after)
    (registered : Registered pre) (next : Registered after) :
    Withdrawn dev after ∧ after.revocations = pre.revocations ++ [dev] ∧
      after.handshakes = pre.handshakes := by
  have ids := revoked.follows.1.ids
  cases revoked with
  | nothing none => exact absurd rfl none
  | done known =>
    refine ⟨⟨next,?_,fun device here same => ?_⟩,rfl,rfl⟩
    · rw [ids]
      exact mem_append_left _ known
    · have apart : pre.devices.Pairwise fun a b => b.deviceId ≠ a.deviceId :=
        (pairwise_map.mp registered.distinct).imp Ne.symm
      rcases mem_updateFirst_key apart here with ⟨-,other⟩ | ⟨old,-,new⟩
      · exact absurd same other
      · exact new ▸ rfl

def AccessPlane.openInvitations (plane : AccessPlane) : List PairingInvitation :=
  gather (fun _ invitation => [invitation]) plane.invitations

def AccessPlane.outstanding (plane : AccessPlane) : List PairingInvitation :=
  (plane.exchanging.map Exchange.invitation).toList ++ plane.openInvitations

/-- The device carries what the invitation says and was made while it was valid. -/
def Redeems (device : AccessDeviceRecord) (invitation : PairingInvitation) : Prop :=
  device.name = invitation.name ∧ device.scope = invitation.scope ∧
    device.createdAtEpochMs ≤ invitation.expiresAtEpochMs

structure Ledger (plane : AccessPlane) : Prop where
  once : (plane.paired.map Pairing.invitation ++ plane.outstanding).Nodup
  issued : ∀ invitation ∈ plane.paired.map Pairing.invitation ++ plane.outstanding,
    plane.issued[invitation.serial]? = some invitation
  current : ∀ invitation ∈ plane.outstanding, invitation.era = plane.disables
  exchange : ∀ exchange, plane.exchanging = some exchange →
    Redeems exchange.device exchange.invitation
  paired : ∀ pairing ∈ plane.paired,
    Redeems pairing.device pairing.invitation ∧ pairing.invitation.era = pairing.era

theorem opened_ledger : Ledger (.opened enabled port devices) where
  once := nodup_nil
  issued := nofun
  current := nofun
  exchange := nofun
  paired := nofun

theorem ledger_of_fewer (ledger : Ledger pre) (paired : after.paired = pre.paired)
    (issued : after.issued = pre.issued) (fewer : after.outstanding.Subperm pre.outstanding)
    (era : after.outstanding ≠ [] → after.disables = pre.disables)
    (exchanging : ∀ exchange, after.exchanging = some exchange →
      Redeems exchange.device exchange.invitation) : Ledger after := by
  have subperm : (after.paired.map Pairing.invitation ++ after.outstanding).Subperm
      (pre.paired.map Pairing.invitation ++ pre.outstanding) := by
    rw [paired]
    exact (subperm_append_left _).mpr fewer
  refine ⟨?_,?_,?_,exchanging,?_⟩
  · obtain ⟨order,same,inside⟩ := subperm
    exact same.nodup_iff.mp (ledger.once.sublist inside)
  · intro invitation held
    rw [issued]
    exact ledger.issued invitation (List.Subperm.subset subperm held)
  · intro invitation held
    rw [era (ne_nil_of_mem held)]
    exact ledger.current invitation (List.Subperm.subset fewer held)
  · rw [paired]
    exact ledger.paired

theorem ledger_of_same (ledger : Ledger pre) (paired : after.paired = pre.paired)
    (issued : after.issued = pre.issued) (exchanging : after.exchanging = pre.exchanging)
    (invitations : after.invitations = pre.invitations)
    (era : after.disables = pre.disables) : Ledger after := by
  have same : after.outstanding = pre.outstanding := by
    rw [AccessPlane.outstanding, exchanging, AccessPlane.openInvitations, invitations,
      AccessPlane.outstanding, AccessPlane.openInvitations]
  refine ledger_of_fewer ledger paired issued (same ▸ List.Subperm.refl _) (fun _ => era) ?_
  rw [exchanging]
  exact ledger.exchange

theorem Revoked.ledger (revoked : Revoked pre dev now answer after) (ledger : Ledger pre) :
    Ledger after := by
  cases revoked <;> exact ledger_of_same ledger rfl rfl rfl rfl rfl

theorem Exchanged.takes (exchanged : Exchanged pre digest publicKey dev now (.ok ()) after) :
    ∃ exchange, after.exchanging = some exchange ∧
      Redeems exchange.device exchange.invitation ∧
      pre.openInvitations.Perm (exchange.invitation :: after.openInvitations) ∧
      after.paired = pre.paired ∧ after.issued = pre.issued ∧
      after.disables = pre.disables := by
  cases exchanged with
  | taken attempts invitation here unexpired =>
    exact ⟨_,rfl,⟨rfl,rfl,unexpired⟩,gather_perm here,rfl,rfl,rfl⟩

theorem Exchanged.ledger (exchanged : Exchanged pre digest publicKey dev now exchanges after)
    (free : pre.exchanging = none) (ledger : Ledger pre) : Ledger after := by
  have outstanding : pre.outstanding = pre.openInvitations := by
    rw [AccessPlane.outstanding, free]
    rfl
  cases exchanges with
  | ok done =>
    obtain ⟨exchange,held,redeems,moved,paired,issued,era⟩ := exchanged.takes
    refine ledger_of_fewer ledger paired issued ?_ (fun _ => era) ?_
    · rw [AccessPlane.outstanding, held, outstanding]
      exact moved.symm.subperm
    · intro other same
      rw [held] at same
      cases same
      exact redeems
  | error error =>
    cases exchanged with
    | refused => exact ledger_of_same ledger rfl rfl rfl rfl rfl
    | expired =>
      refine ledger_of_fewer ledger rfl rfl ?_ (fun _ => rfl) ledger.exchange
      exact ((gather_erase_sublist _ _ _).append_left _).subperm

theorem Recorded.ledger (recorded : Recorded pre exchange records after) (held : pre.exchanging = some exchange)
    (ledger : Ledger pre) : Ledger after := by
  have outstanding : pre.outstanding = exchange.invitation :: pre.openInvitations := by
    rw [AccessPlane.outstanding, held]
    rfl
  cases recorded with
  | dropped error =>
    refine ledger_of_fewer ledger rfl rfl ?_ (fun _ => rfl) nofun
    rw [outstanding]
    exact (sublist_cons_self _ _).subperm
  | done =>
    -- The invitation goes from the exchange to the device.
    have places : pre.paired.map Pairing.invitation ++ pre.outstanding = List.map Pairing.invitation
          (pre.paired ++ [⟨exchange.device,exchange.invitation,pre.disables⟩]) ++
          pre.openInvitations := by
      rw [outstanding, map_append, append_assoc]
      rfl
    have once := ledger.once
    have issued := ledger.issued
    rw [places] at once issued
    refine ⟨once,issued,fun invitation here => ?_,nofun,fun pairing here => ?_⟩
    · exact ledger.current invitation (outstanding ▸ mem_cons_of_mem _ here)
    · rcases mem_append.mp here with old | new
      · exact ledger.paired pairing old
      · rw [mem_singleton.mp new]
        exact ⟨ledger.exchange exchange held,ledger.current _ (outstanding ▸ mem_cons_self)⟩

theorem insertInvitation_ledger
    (ledger : Ledger pre) : Ledger (pre.insertInvitation digest name scope now).2 := by
  have retained : (gather (fun _ invitation => [invitation])
      (retain (fun _ invitation => decide (invitation.expiresAtEpochMs ≥ now))
        pre.invitations)).Sublist pre.openInvitations :=
    gather_retain_sublist _ _ _
  unfold AccessPlane.insertInvitation
  dsimp only
  split
  · refine ledger_of_fewer ledger rfl rfl ?_ (fun _ => rfl) ledger.exchange
    exact (retained.append_left _).subperm
  -- The new invitation is behind all issued ones, and what it may replace is dropped.
  let table := retain (fun _ invitation => decide (invitation.expiresAtEpochMs ≥ now))
    pre.invitations
  let invitation : PairingInvitation :=
    ⟨name,scope,now + pairingTtlMs,pre.issued.length,pre.disables⟩
  let rest := gather (fun _ invitation => [invitation]) (table.erase digest)
  have kept : rest.Sublist pre.openInvitations :=
    (gather_erase_sublist _ table digest).trans retained
  have shape : gather (fun _ invitation => [invitation]) (table.insert digest invitation) =
      invitation :: rest := gather_insert _ table digest invitation
  have places : (pre.paired.map Pairing.invitation ++
      ((pre.exchanging.map Exchange.invitation).toList ++ invitation :: rest)).Perm
        (invitation :: (pre.paired.map Pairing.invitation ++
          ((pre.exchanging.map Exchange.invitation).toList ++ rest))) := by
    rw [← append_assoc, ← append_assoc]
    exact perm_middle
  have older : (pre.paired.map Pairing.invitation ++
      ((pre.exchanging.map Exchange.invitation).toList ++ rest)).Sublist
        (pre.paired.map Pairing.invitation ++ pre.outstanding) :=
    (kept.append_left _).append_left _
  have early : ∀ held ∈ pre.paired.map Pairing.invitation ++
      ((pre.exchanging.map Exchange.invitation).toList ++ rest),
      pre.issued[held.serial]? = some held :=
    fun held here => ledger.issued held (older.subset here)
  refine ⟨?_,?_,?_,ledger.exchange,ledger.paired⟩
  · rw [AccessPlane.outstanding, AccessPlane.openInvitations, shape]
    refine places.nodup_iff.mpr (nodup_cons.mpr ⟨fun again => ?_,ledger.once.sublist older⟩)
    have known := (List.getElem?_eq_some_iff.mp (early invitation again)).1
    exact absurd known (Nat.lt_irrefl _)
  · intro held here
    rw [AccessPlane.outstanding, AccessPlane.openInvitations, shape] at here
    rcases mem_cons.mp (places.subset here) with new | old
    · rw [new]
      exact getElem?_concat_length
    · have known := early held old
      have inside := (List.getElem?_eq_some_iff.mp known).1
      rw [getElem?_append_left inside, known]
  · intro held here
    rw [AccessPlane.outstanding, AccessPlane.openInvitations, shape] at here
    rcases mem_append.mp here with mine | open_
    · exact ledger.current held (mem_append_left _ mine)
    · rcases mem_cons.mp open_ with new | old
      · rw [new]
      · exact ledger.current held (mem_append_right _ (kept.subset old))

theorem Served.ledger (served : Served pre after) (ledger : Ledger pre) : Ledger after :=
  ledger_of_same ledger served.paired served.issued served.exchanging served.invitations
    served.disables

theorem disabled_ledger (free : pre.exchanging = none) (ledger : Ledger pre) :
    Ledger (pre.disable (.ok ())).2 := by
  have nothing : (pre.disable (.ok ())).2.outstanding = [] := by
    rw [AccessPlane.outstanding, AccessPlane.disable, free]
    rfl
  refine ledger_of_fewer ledger rfl rfl ?_ (fun left => absurd nothing left) ledger.exchange
  rw [nothing]
  exact nil_subperm

theorem step_ledger (step : Step keyValid pre action after) (ledger : Ledger pre) :
    Ledger after := by
  cases step_effect step with
  | connection => exact ledger_of_same ledger rfl rfl rfl rfl rfl
  | revoked revoked => exact revoked.ledger ledger
  | exchanged free _ exchanged => exact exchanged.ledger free ledger
  | recorded held recorded => exact recorded.ledger held ledger
  | enrolled => exact ledger_of_same ledger rfl rfl rfl rfl rfl
  | served served => exact served.ledger ledger
  | disabled free => exact disabled_ledger free ledger
  | inserted digest name scope now => exact insertInvitation_ledger ledger

theorem Recorded.paired (recorded : Recorded pre exchange records after) :
    after.paired.map Pairing.device =
      pre.paired.map Pairing.device ++ (recordedDevice (.recordExchange records)).toList := by
  cases recorded with
  | dropped => exact (append_nil _).symm
  | done => exact map_append

theorem Revoked.paired (revoked : Revoked pre dev now answer after) :
    after.paired = pre.paired := by
  cases revoked <;> rfl

theorem Exchanged.paired (exchanged : Exchanged pre digest publicKey dev now exchanges after) :
    after.paired = pre.paired := by
  cases exchanged <;> rfl

theorem step_paired (step : Step keyValid pre action after) : after.paired.map Pairing.device =
      pre.paired.map Pairing.device ++ (recordedDevice action).toList := by
  have same : after.paired = pre.paired → recordedDevice action = none →
      after.paired.map Pairing.device =
        pre.paired.map Pairing.device ++ (recordedDevice action).toList := by
    intro same nothing
    rw [same, nothing, Option.toList_none, append_nil]
  cases step_effect step with
  | connection _ _ nothing => exact same rfl nothing
  | revoked revoked => exact same revoked.paired rfl
  | exchanged _ _ exchanged => exact same exchanged.paired rfl
  | recorded _ recorded => exact recorded.paired
  | enrolled => exact same rfl rfl
  | served served _ nothing => exact same served.paired nothing
  | disabled => exact same rfl rfl
  | inserted digest name scope now =>
    obtain ⟨invitations,issued,frame⟩ := @insertInvitation_frame pre digest name scope now
    exact same (by rw [frame]) rfl

section Runs
variable {past : List Action}

structure Sound (past : List Action) (plane : AccessPlane) : Prop where
  registered : Registered plane
  switched : Switched plane
  ledger : Ledger plane
  paired : plane.paired.map Pairing.device = past.filterMap recordedDevice
  connected : ∀ index deviceId granted,
    Action.authenticate index deviceId (.ok granted) ∈ past → Connected deviceId index plane

theorem authenticated_connected
    (step : Step keyValid pre (.authenticate index dev (.ok granted)) after) :
    Connected dev index after := by
  generalize answered : Except.ok granted = answer at step
  cases step with
  | authenticate _ hs _ proof now persist token hit checked =>
    obtain ⟨⟨devices,frame,-⟩,-⟩ :=
      @authenticate_follows proof pre dev token now persist
    have inside : index < pre.handshakes.length := (List.getElem?_eq_some_iff.mp hit).1
    rw [frame, ← answered]
    exact ⟨_,getElem?_set_self inside,rfl⟩

theorem run_sound (valid : validateDevices keyValid devices)
    (run : Run (Step keyValid) (.opened enabled port devices) past plane) : Sound past plane := by
  have start : Sound [] (.opened enabled port devices) :=
    ⟨opened_registered valid,opened_switched,opened_ledger,rfl,nofun⟩
  have keeps {past pre action after} (sound : Sound past pre)
      (step : Step keyValid pre action after) : Sound (past ++ [action]) after := by
    refine ⟨step_registered step sound.registered,step_switched step sound.switched,
      step_ledger step sound.ledger,?_,fun index dev granted member => ?_⟩
    · rw [step_paired step, sound.paired, filterMap_append]
      cases made : recordedDevice action with
      | none => rw [filterMap_cons_none made]; rfl
      | some device => rw [filterMap_cons_some made]; rfl
    · rcases mem_append.mp member with earlier | now
      · exact connected_kept (step_listening step) (sound.connected index dev granted earlier)
      · cases mem_singleton.mp now
        exact authenticated_connected step
  exact run_history_invariant Sound keeps run [] start

/-- The connection is over, or its device's revocation is there to be read. -/
def AccessEnds (deviceId : String) (index : Nat) (plane : AccessPlane) : Prop :=
  ∃ handshake, plane.handshakes[index]? = some handshake ∧
    (handshake.stage = .closed ∨ (∃ error, handshake.stage = .refused error) ∨
      (∃ scope token, handshake.stage = .authenticated deviceId scope token ∨
        handshake.stage = .handedOver deviceId scope token) ∧
      wait deviceId (plane.pending handshake) = true)

theorem accessEnds_of_ends (ends : Ends dev index plane) : AccessEnds dev index plane := by
  obtain ⟨hs,hit,belongs,heard⟩ := ends
  refine ⟨hs,hit,?_⟩
  have returns : Passed hs.stage → wait dev (plane.pending hs) := by
    intro passed
    obtain ⟨revoked,waiting,own⟩ := heard passed
    exact wait_returns own waiting
  cases stage : hs.stage with
  | subscribed | checked =>
    rw [stage] at belongs
    exact belongs.elim
  | authenticated id scope token =>
    rw [stage] at belongs returns
    cases belongs
    exact .inr (.inr ⟨⟨scope,token,.inl rfl⟩,returns trivial⟩)
  | handedOver id scope token =>
    rw [stage] at belongs returns
    cases belongs
    exact .inr (.inr ⟨⟨scope,token,.inr rfl⟩,returns trivial⟩)
  | refused error => exact .inr (.inl ⟨error,rfl⟩)
  | closed => exact .inl rfl

theorem run_ends (run : Run (Step keyValid) pre later after)
    (ends : Ends dev index pre) : Ends dev index after :=
  run_invariant (Ends dev index) (fun ends step => ends_kept (step_listening step) ends) run ends

theorem revoked_access_ends (valid : validateDevices keyValid devices) {earlier : List Action}
    (run : Run (Step keyValid) (.opened enabled port devices) (earlier ++ .revoke dev (.ok
      true) :: later) plane) :
    (∀ index granted, Action.authenticate index dev (.ok granted) ∉ later) ∧
      ∀ index granted, Action.authenticate index dev (.ok granted) ∈ earlier →
        AccessEnds dev index plane := by
  obtain ⟨pre,first,rest⟩ := run_split run
  have sound := run_sound valid first
  cases rest with
  | cons step tail =>
    next after =>
    have revoked : ∃ now, Revoked pre dev now (.ok true) after := by
      generalize answered : Except.ok true = answer at step
      cases step with
      | revoke _ now persist => exact ⟨now,revoke_cases⟩
    obtain ⟨now,revoked⟩ := revoked
    obtain ⟨withdrawn,sent,same⟩ :=
      revoked.withdraws sound.registered (step_registered step sound.registered)
    constructor
    · intro index granted member
      have refuses : ∀ pre action after, Withdrawn dev pre → Step keyValid pre action after →
          Withdrawn dev after ∧ action ≠ .authenticate index dev (.ok granted) := by
        intro pre action after withdrawn step
        refine ⟨step_withdrawn step withdrawn,fun same => ?_⟩
        subst same
        exact withdrawn_refuses step withdrawn granted rfl
      exact run_actions refuses tail withdrawn _ member rfl
    · intro index granted member
      obtain ⟨hs,hit,belongs⟩ := sound.connected index dev granted member
      have behind := sound.switched.behind hs (mem_of_getElem? hit)
      have ends : Ends dev index after :=
        ⟨hs,same ▸ hit,belongs,fun _ => heard_now behind sent (.inl rfl)⟩
      exact accessEnds_of_ends (run_ends tail ends)

theorem disabled_access_ends (valid : validateDevices keyValid devices)
    (run : Run (Step keyValid) (.opened enabled port devices) (earlier ++ .finishDisable :: later)
      plane) :
    ∀ index dev granted, Action.authenticate index dev (.ok granted) ∈ earlier →
      AccessEnds dev index plane := by
  intro index dev granted member
  obtain ⟨pre,first,rest⟩ := run_split run
  have sound := run_sound valid first
  cases rest with
  | cons step tail =>
    obtain ⟨hs,hit,belongs⟩ := sound.connected index dev granted member
    have told : pre.management = some (.disabling true) := by
      cases step with
      | finishDisable disabling => exact disabling
    have ends : Ends dev index pre :=
      ⟨hs,hit,belongs,fun passed =>
        ⟨"*",sound.switched.told told hs (mem_of_getElem? hit) passed,.inr rfl⟩⟩
    exact accessEnds_of_ends (run_ends tail (ends_kept (step_listening step) ends))

/-- A paired device has used up an invitation of its own, issued since access was last
    disabled. -/
def PairedOnce (past : List Action) (plane : AccessPlane) : Prop :=
  plane.paired.map Pairing.device = past.filterMap recordedDevice ∧
    (plane.paired.map Pairing.invitation).Nodup ∧
    ∀ pairing ∈ plane.paired,
      pairing.invitation ∈ plane.issued ∧ pairing.invitation ∉ plane.openInvitations ∧
        pairing.invitation.era = pairing.era ∧
        pairing.device.scope = pairing.invitation.scope ∧
        pairing.device.createdAtEpochMs ≤ pairing.invitation.expiresAtEpochMs

theorem sound_paired (sound : Sound past plane) : PairedOnce past plane := by
  obtain ⟨once,-,apart⟩ := nodup_append.mp sound.ledger.once
  refine ⟨sound.paired,once,fun pairing here => ?_⟩
  have mem : pairing.invitation ∈ plane.paired.map Pairing.invitation :=
    mem_map_of_mem here
  obtain ⟨⟨-,scope,unexpired⟩,era⟩ := sound.ledger.paired pairing here
  have issued := sound.ledger.issued _ (mem_append_left _ mem)
  refine ⟨mem_of_getElem? issued,fun still => ?_,era,scope,unexpired⟩
  exact apart _ mem _ (mem_append_right _ still) rfl

end Runs

/-- Remote access ends when it is withdrawn, and an invitation makes one device. -/
theorem withdrawn_access_ends (keyValid : String → Bool) {enabled : Bool} {port : Nat}
    {devices : List AccessDeviceRecord} (valid : validateDevices keyValid devices = true)
    {past : List Action} {plane : AccessPlane}
    (run : Run (Step keyValid) (.opened enabled port devices) past plane) :
    (∀ earlier later deviceId, past = earlier ++ .revoke deviceId (.ok true) :: later →
      (∀ index granted, Action.authenticate index deviceId (.ok granted) ∉ later) ∧
        ∀ index granted, Action.authenticate index deviceId (.ok granted) ∈ earlier →
          AccessEnds deviceId index plane) ∧
      (∀ earlier later, past = earlier ++ .finishDisable :: later →
        ∀ index deviceId granted, Action.authenticate index deviceId (.ok granted) ∈ earlier →
          AccessEnds deviceId index plane) ∧
      PairedOnce past plane ∧
      ∀ next, Step keyValid plane (.exchange (.ok ())) next →
        ∃ exchange, next.exchanging = some exchange ∧
          plane.openInvitations.Perm (exchange.invitation :: next.openInvitations) := by
  refine ⟨?_,?_,sound_paired (run_sound valid run),?_⟩
  · intro earlier later deviceId shape
    subst shape
    exact revoked_access_ends valid run
  · intro earlier later shape
    subst shape
    exact disabled_access_ends valid run
  · intro next step
    generalize answered : Except.ok () = answer at step
    cases step with
    | exchange digest publicKey deviceId now =>
      have exchanged := @exchange_cases keyValid plane digest publicKey deviceId now
      rw [← answered] at exchanged
      obtain ⟨exchange,held,-,moved,-⟩ := exchanged.takes
      exact ⟨exchange,held,moved⟩

theorem revoked_connection_ends :
    ∃ (past : List Action) (plane : AccessPlane) (devices : List AccessDeviceRecord)
      (deviceId : String),
      Run (Step fun _ => true) (.opened true 43717 devices) past plane ∧
        (∃ index granted, Action.authenticate index deviceId (.ok granted) ∈ past) ∧
        Action.revoke deviceId (.ok true) ∈ past ∧ AccessEnds deviceId 0 plane := by
  let deviceId := "0123456789abcdef0123456789abcdef"
  let device : AccessDeviceRecord := ⟨deviceId,"Laptop",.full,"key",1,some 1,none⟩
  let start := AccessPlane.opened true 43717 [device]
  let listening := { start with handshakes := [⟨0,.subscribed⟩] }
  let checked := { start with handshakes := [⟨0,.checked⟩] }
  let connected := { start with handshakes := [⟨0,.authenticated deviceId .full "token"⟩] }
  have listens : Step (fun _ => true) start .subscribe listening := .subscribe start
  have check : Step (fun _ => true) listening (.check 0) checked :=
    .check listening 0 ⟨0,.subscribed⟩ rfl rfl rfl
  have authenticate : Step (fun _ => true) checked
      (.authenticate 0 deviceId (.ok (.full, "token"))) connected :=
    .authenticate checked 0 ⟨0,.checked⟩ deviceId (fun _ => true) 2 (.ok ()) "token" rfl rfl
  have revoke : Step (fun _ => true) connected (.revoke deviceId (.ok true))
      (connected.revoke deviceId 3 (.ok ())).2 := .revoke connected deviceId 3 (.ok ())
  have run := Run.cons listens (.cons check (.cons authenticate (run_single revoke)))
  have valid : validateDevices (fun _ => true) [device] = true := by decide +kernel
  have ends := (withdrawn_access_ends (fun _ => true) valid run).1
    [.subscribe, .check 0, .authenticate 0 deviceId (.ok (.full, "token"))] [] deviceId rfl
  refine ⟨_,_,[device],deviceId,run,⟨0,(.full, "token"),?_⟩,?_,ends.2 0 (.full, "token") ?_⟩
  · exact mem_cons_of_mem _ (mem_cons_of_mem _ mem_cons_self)
  · exact mem_cons_of_mem _ (mem_cons_of_mem _ (mem_cons_of_mem _ mem_cons_self))
  · exact mem_cons_of_mem _ (mem_cons_of_mem _ mem_cons_self)

end TermloopAccess

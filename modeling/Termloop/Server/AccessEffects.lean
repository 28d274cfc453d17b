import Termloop.Server.RemoteAccess

/-!
What the steps of remote access do, said once: to the connections and the broadcast, to
the device file, to the switch and to the invitations. Everything that holds over a run is
derived from these.
-/
namespace TermloopAccess
open TermloopRecordLists List

variable (plane : AccessPlane) (handshake : Handshake) in
inductive StageMove : Handshake → Prop where
  | refuse (error : String) : StageMove { handshake with stage := .refused error }
  | check (subscribed : handshake.stage = .subscribed) (enabled : plane.enabled = true) :
      StageMove { handshake with stage := .checked }
  | authenticate {deviceId : String} (scope : AccessScope) (token : String)
      (checked : handshake.stage = .checked) :
      StageMove { handshake with stage := .authenticated deviceId scope token }
  | handOver {deviceId : String} {scope : AccessScope} {token : String}
      (authenticated : handshake.stage = .authenticated deviceId scope token) :
      StageMove { handshake with stage := .handedOver deviceId scope token }
  | hear {deviceId : String} {scope : AccessScope} {token revoked : String} {rest : List String}
      (connected : handshake.stage = .handedOver deviceId scope token)
      (pending : plane.pending handshake = revoked :: rest) (other : revoked ≠ deviceId)
      (single : revoked ≠ "*") :
      StageMove { handshake with received := handshake.received + 1 }
  | close : StageMove { handshake with stage := .closed }

inductive Listening (before after : AccessPlane) : Prop where
  | elsewhere (more : List String) (same : after.handshakes = before.handshakes)
      (grown : after.revocations = before.revocations ++ more)
  | subscribe
      (added : after.handshakes =
        before.handshakes ++ [⟨before.revocations.length, .subscribed⟩])
      (silent : after.revocations = before.revocations)
      (switch : after.enabled = before.enabled ∧ after.management = before.management)
  | move (index : Nat) (handshake next : Handshake)
      (found : before.handshakes[index]? = some handshake)
      (moved : StageMove before handshake next)
      (set : after.handshakes = before.handshakes.set index next)
      (silent : after.revocations = before.revocations)
      (switch : after.enabled = before.enabled ∧ after.management = before.management)

variable {keyValid proof : String → Bool} {pre after plane : AccessPlane} {action : Action}
  {digest name publicKey dev token : String} {scope : AccessScope} {index now port : Nat}
  {finished : Bool} {bound persist restored : Except String Unit} {requestedPort : Option Nat}
  {exchange : Exchange} {handshake : Handshake}

theorem listening_same (same : after.handshakes = pre.handshakes)
    (silent : after.revocations = pre.revocations) : Listening pre after :=
  .elsewhere [] same (by rw [silent, append_nil])

theorem attempt_frame :
    ∃ attempts, (plane.deviceRegistrationAttemptAllowed now).2 = { plane with attempts } := by
  unfold AccessPlane.deviceRegistrationAttemptAllowed
  dsimp only
  split <;> exact ⟨_,rfl⟩

variable (plane : AccessPlane) (digest publicKey deviceId : String) (now : Nat) in
/-- An exchange may take one invitation out, and holds the configuration exactly when that
    was valid. -/
inductive Exchanged : Except String Unit → AccessPlane → Prop where
  | refused (error : String) (attempts : List Nat) :
      Exchanged (.error error) { plane with attempts }
  | expired (error : String) (attempts : List Nat) :
      Exchanged (.error error)
        { plane with attempts, invitations := plane.invitations.erase digest }
  | taken (attempts : List Nat) (invitation : PairingInvitation)
      (present : plane.invitations.lookup digest = some invitation)
      (unexpired : now ≤ invitation.expiresAtEpochMs) :
      Exchanged (.ok ())
        { plane with
          attempts
          invitations := plane.invitations.erase digest
          exchanging := some
            ⟨⟨deviceId, invitation.name, invitation.scope, publicKey, now, none, none⟩,
              invitation⟩ }

theorem exchange_cases : Exchanged plane digest publicKey dev now
      (plane.exchangePairing keyValid digest publicKey dev now).1
      (plane.exchangePairing keyValid digest publicKey dev now).2 := by
  obtain ⟨attempts,frame⟩ := @attempt_frame plane now
  unfold AccessPlane.exchangePairing
  split
  · exact .refused _ plane.attempts
  split
  · next limited =>
    rw [limited] at frame
    subst frame
    exact .refused _ attempts
  · next allowed =>
    rw [allowed] at frame
    subst frame
    dsimp only
    iterate 2 (split; · exact .refused _ attempts)
    next invitation here =>
    split
    · exact .expired _ attempts
    · next unexpired => exact .taken attempts invitation here (Nat.not_lt.mp unexpired)

/-- What an operation of the owner leaves alone, unless it is about the invitations. -/
structure Served (before after : AccessPlane) : Prop where
  devices : after.devices = before.devices
  handshakes : after.handshakes = before.handshakes
  exchanging : after.exchanging = before.exchanging
  paired : after.paired = before.paired
  issued : after.issued = before.issued
  invitations : after.invitations = before.invitations
  disables : after.disables = before.disables
  revocations : ∃ more, after.revocations = before.revocations ++ more

theorem Served.refl : Served plane plane :=
  ⟨rfl,rfl,rfl,rfl,rfl,rfl,rfl,[],(append_nil _).symm⟩

theorem Served.turned (served : Served pre after) :
    Served pre { after with enabled, port, listener, listening, management } :=
  ⟨served.devices,served.handshakes,served.exchanging,served.paired,served.issued,
    served.invitations,served.disables,served.revocations⟩

theorem Served.of_stopped (served : Served pre.stopListener after) : Served pre after :=
  ⟨served.devices,served.handshakes,served.exchanging,served.paired,served.issued,
    served.invitations,served.disables,served.revocations⟩

theorem startListener_served : Served plane (plane.startListener port finished bound).2 := by
  unfold AccessPlane.startListener
  split
  · exact Served.refl.turned
  split
  · exact .refl
  refine ⟨rfl,rfl,rfl,rfl,rfl,rfl,rfl,?_⟩
  dsimp only
  split
  · exact ⟨["*"],rfl⟩
  · exact ⟨[],(append_nil _).symm⟩

theorem enable_served : Served plane (plane.enable requestedPort finished bound).2 := by
  have started := @startListener_served plane (requestedPort.getD plane.port) finished bound
  unfold AccessPlane.enable
  dsimp only
  split
  · exact .refl
  split
  · next failed => rwa [failed] at started
  next done =>
  rw [done] at started
  exact started.turned

theorem finishEnable_served : Served plane (plane.finishEnable port persist restored).2 := by
  have restarted := (@startListener_served plane.stopListener plane.stopListener.port false
    restored).of_stopped
  unfold AccessPlane.finishEnable
  split
  · exact Served.refl.turned
  dsimp only
  split
  · split
    all_goals
      rename_i done
      rw [done] at restarted
      exact restarted.turned
  · exact Served.refl.turned

theorem insertInvitation_frame :
    ∃ invitations issued, (plane.insertInvitation digest name scope now).2 =
      { plane with invitations, issued, management := none } := by
  unfold AccessPlane.insertInvitation
  dsimp only
  split <;> exact ⟨_,_,rfl⟩

def AccessPlane.ids (plane : AccessPlane) : List String :=
  plane.devices.map AccessDeviceRecord.deviceId

/-- Known devices keep their ids and stay revoked, and at most one new id comes in. -/
structure DevicesFollow (added : Option String) (before after : AccessPlane) : Prop where
  ids : after.ids = before.ids ++ added.toList
  fresh : ∀ id, added = some id → id ∉ before.ids
  known : ∀ device ∈ after.devices, device.deviceId ∉ before.ids ∨
    ∃ old ∈ before.devices, old.deviceId = device.deviceId ∧
      (old.revokedAtEpochMs.isSome = true → device.revokedAtEpochMs.isSome = true)

theorem follow_same (same : after.devices = pre.devices) : DevicesFollow none pre after := by
  refine ⟨?_,nofun,fun device here => ?_⟩
  · rw [AccessPlane.ids, same, Option.toList_none, append_nil, AccessPlane.ids]
  · exact .inr ⟨device,same ▸ here,rfl,id⟩

theorem follow_update (sameId : ∀ device, (change device).deviceId = device.deviceId)
    (stays : ∀ device, device.revokedAtEpochMs.isSome →
      (change device).revokedAtEpochMs.isSome)
    (updated : after.devices = updateFirst wanted change pre.devices) :
    DevicesFollow none pre after := by
  refine ⟨?_,nofun,fun device here => ?_⟩
  · rw [AccessPlane.ids, updated, map_updateFirst sameId, Option.toList_none, append_nil,
      AccessPlane.ids]
  · rw [updated] at here
    rcases mem_updateFirst here with old | ⟨old,hit,new⟩
    · exact .inr ⟨device,old,rfl,id⟩
    · exact .inr ⟨old,mem_of_find?_eq_some hit,(new ▸ sameId old).symm,
        fun revoked => new ▸ stays old revoked⟩

theorem follow_append (fresh : device.deviceId ∉ pre.ids)
    (added : after.devices = pre.devices ++ [device]) :
    DevicesFollow (some device.deviceId) pre after := by
  refine ⟨?_,?_,fun other here => ?_⟩
  · rw [AccessPlane.ids, added, map_append, AccessPlane.ids]
    rfl
  · intro id same
    cases same
    exact fresh
  · rw [added] at here
    rcases mem_append.mp here with old | new
    · exact .inr ⟨other,old,rfl,id⟩
    · exact .inl (mem_singleton.mp new ▸ fresh)

theorem authenticate_follows : (∃ devices, (plane.authenticate dev proof now persist token).2 =
        { plane with devices } ∧ DevicesFollow none plane { plane with devices }) ∧
      ∀ ans, (plane.authenticate dev proof now persist token).1 = .ok ans →
        ∃ device ∈ plane.devices, device.deviceId = dev ∧ device.revokedAtEpochMs = none := by
  unfold AccessPlane.authenticate
  dsimp only
  split
  · exact ⟨⟨_,rfl,follow_same rfl⟩,nofun⟩
  next device hit =>
  have known : ∃ device ∈ plane.devices, device.deviceId = dev ∧
      device.revokedAtEpochMs = none := by
    have wanted := find?_some hit
    rw [Bool.and_eq_true, beq_iff_eq, Option.isNone_iff_eq_none] at wanted
    exact ⟨device,mem_of_find?_eq_some hit,wanted⟩
  split
  · exact ⟨⟨_,rfl,follow_same rfl⟩,nofun⟩
  split
  · split
    · exact ⟨⟨_,rfl,follow_same rfl⟩,nofun⟩
    refine ⟨⟨_,rfl,?_⟩,fun _ _ => known⟩
    refine follow_update ?_ ?_ rfl
    · exact fun _ => rfl
    · exact fun _ revoked => revoked
  · exact ⟨⟨_,rfl,follow_same rfl⟩,fun _ _ => known⟩

inductive Revoked (plane : AccessPlane) (deviceId : String) (now : Nat) :
    Except String Bool → AccessPlane → Prop where
  | nothing {answer : Except String Bool} (none : answer ≠ .ok true) :
      Revoked plane deviceId now answer plane
  | done (known : deviceId ∈ plane.ids) :
      Revoked plane deviceId now (.ok true)
        { plane with
          devices := updateFirst (·.deviceId == deviceId)
            (fun device => { device with revokedAtEpochMs := some now }) plane.devices
          revocations := plane.revocations ++ [deviceId] }

theorem revoke_cases :
    Revoked plane dev now (plane.revoke dev now persist).1 (plane.revoke dev now persist).2 := by
  unfold AccessPlane.revoke
  split
  · exact .nothing nofun
  next device hit =>
  iterate 2 (split; · exact .nothing nofun)
  have wanted := find?_some hit
  rw [beq_iff_eq] at wanted
  exact .done (mem_map.mpr ⟨device,mem_of_find?_eq_some hit,wanted⟩)

/-- What `recordExchange` does: the exchange ends, with a device or without one. -/
inductive Recorded (plane : AccessPlane) (exchange : Exchange) :
    Except String AccessDeviceRecord → AccessPlane → Prop where
  | dropped (error : String) :
      Recorded plane exchange (.error error) { plane with exchanging := none }
  | done :
      Recorded plane exchange (.ok exchange.device)
        { plane with
          devices := plane.devices ++ [exchange.device], exchanging := none
          paired := plane.paired ++ [⟨exchange.device, exchange.invitation, plane.disables⟩] }

theorem Revoked.listening (revoked : Revoked pre dev now ans after) : Listening pre after := by
  cases revoked with
  | nothing => exact listening_same rfl rfl
  | done => exact .elsewhere [dev] rfl rfl

theorem Exchanged.listening (exchanged : Exchanged pre digest publicKey dev now persist after) :
    Listening pre after := by
  cases exchanged <;> exact listening_same rfl rfl

theorem Recorded.listening (recorded : Recorded pre exchange ans after) : Listening pre after := by
  cases recorded <;> exact listening_same rfl rfl

theorem enroll_follows (fresh : dev ∉ plane.ids) :
    ∃ attempts devices added, (plane.enrollDevice keyValid name publicKey dev now persist).2 =
        { plane with attempts, devices } ∧
      DevicesFollow added plane { plane with attempts, devices } := by
  obtain ⟨attempts,frame⟩ := @attempt_frame plane now
  unfold AccessPlane.enrollDevice
  split
  · exact ⟨plane.attempts,plane.devices,none,rfl,follow_same rfl⟩
  split
  · next limited =>
    rw [limited] at frame
    exact ⟨attempts,plane.devices,none,frame,follow_same rfl⟩
  next allowed =>
  rw [allowed] at frame
  subst frame
  dsimp only
  have same : ∃ next devices added,
      { plane with attempts } = { plane with attempts := next, devices } ∧
        DevicesFollow added plane { plane with attempts := next, devices } :=
    ⟨attempts,plane.devices,none,rfl,follow_same rfl⟩
  iterate 2 (split; · exact same)
  split
  · split <;> exact same
  iterate 2 (split; · exact same)
  · exact ⟨attempts,_,_,rfl,follow_append fresh rfl⟩

theorem startListener_switch :
    (plane.startListener port finished bound).2.management = plane.management := by
  unfold AccessPlane.startListener
  split
  · rfl
  · split <;> rfl

theorem enable_switch (idle : plane.management = none) :
    (plane.enable requestedPort finished bound).2.management ≠ some (.disabling announced) := by
  have started := @startListener_switch plane (requestedPort.getD plane.port) finished bound
  unfold AccessPlane.enable
  dsimp only
  split
  · rw [idle]
    nofun
  · split
    · next failed =>
      rw [failed] at started
      rw [started, idle]
      nofun
    · nofun

theorem finishEnable_switch : (plane.finishEnable port persist restored).2.management = none := by
  unfold AccessPlane.finishEnable
  split
  · rfl
  dsimp only
  split
  · split <;> rfl
  · rfl

/-- As before, no longer being turned off, just turned off, or turned off and broadcast. -/
inductive Switching (before after : AccessPlane) : Prop where
  | same (enabled : after.enabled = before.enabled)
      (management : after.management = before.management)
  | away (away : ∀ announced, after.management ≠ some (.disabling announced))
  | off (enabled : after.enabled = false) (management : after.management = some (.disabling false))
  | announced (disabling : before.management = some (.disabling false))
      (announces : after = before.announceDisable)

def recordedDevice : Action → Option AccessDeviceRecord
  | .recordExchange (.ok device) => some device
  | _ => none

/-- Steps of a connection touch connections and when devices were seen; an owner's operation
    that neither makes nor drops invitations touches the listener, the switch and the broadcast.
    -/
inductive Effect (before : AccessPlane) : Action → AccessPlane → Prop where
  | connection {action : Action} {handshakes : List Handshake} {devices : List AccessDeviceRecord}
      (listening : Listening before { before with handshakes, devices })
      (follows : DevicesFollow none before { before with handshakes, devices })
      (nothing : recordedDevice action = none) :
      Effect before action { before with handshakes, devices }
  | revoked {deviceId : String} {now : Nat} {answer : Except String Bool} {after : AccessPlane}
      (revoked : Revoked before deviceId now answer after) :
      Effect before (.revoke deviceId answer) after
  | exchanged {digest publicKey deviceId : String} {now : Nat} {answer : Except String Unit}
      {after : AccessPlane} (free : before.exchanging = none) (fresh : deviceId ∉ before.ids)
      (exchanged : Exchanged before digest publicKey deviceId now answer after) :
      Effect before (.exchange answer) after
  | recorded {exchange : Exchange} {answer : Except String AccessDeviceRecord}
      {after : AccessPlane} (held : before.exchanging = some exchange)
      (recorded : Recorded before exchange answer after) :
      Effect before (.recordExchange answer) after
  | enrolled {attempts : List Nat} {devices : List AccessDeviceRecord} {added : Option String}
      {answer : Except String AccessDeviceRecord} (free : before.exchanging = none)
      (follows : DevicesFollow added before { before with attempts, devices }) :
      Effect before (.enroll answer) { before with attempts, devices }
  | served {action : Action} {after : AccessPlane} (served : Served before after)
      (switching : Switching before after) (nothing : recordedDevice action = none) :
      Effect before action after
  | disabled {answer : Except String Unit} (free : before.exchanging = none) :
      Effect before (.disable answer) (before.disable (.ok ())).2
  | inserted {answer : Except String Unit} (digest name : String) (scope : AccessScope)
      (now : Nat) :
      Effect before (.insertInvitation answer) (before.insertInvitation digest name scope now).2

theorem authenticate_effect (hit : pre.handshakes[index]? = some handshake) (checked : handshake.stage = .checked) :
    Effect pre (.authenticate index dev (pre.authenticate dev proof now persist token).1)
      ((pre.authenticate dev proof now persist token).2.setStage index handshake
        (AccessPlane.stageOf dev (pre.authenticate dev proof now persist token).1)) := by
  obtain ⟨⟨devices,frame,follows⟩,-⟩ :=
    @authenticate_follows proof pre dev token now persist
  rw [frame]
  refine .connection ?_ ⟨follows.ids,follows.fresh,follows.known⟩ rfl
  refine .move index handshake _ hit ?_ rfl rfl ⟨rfl,rfl⟩
  cases (pre.authenticate dev proof now persist token).1 with
  | ok ans => exact .authenticate ans.1 ans.2 checked
  | error error => exact .refuse error

theorem receive_effect (hit : pre.handshakes[index]? = some handshake)
    (connected : handshake.stage = .handedOver dev scope token) :
    Effect pre (.receive index) (pre.receive index handshake dev) := by
  have closes : Effect pre (.receive index) (pre.setStage index handshake .closed) :=
    .connection (.move index handshake _ hit .close rfl rfl ⟨rfl,rfl⟩) (follow_same rfl) rfl
  unfold AccessPlane.receive
  split
  · exact .connection (listening_same rfl rfl) (follow_same rfl) rfl
  next revoked rest pending =>
  iterate 2 (split; · exact closes)
  next other =>
  rw [not_or] at other
  refine .connection ?_ (follow_same rfl) rfl
  exact .move index handshake _ hit (.hear connected pending other.1 other.2) rfl rfl ⟨rfl,rfl⟩

theorem step_effect (step : Step keyValid pre action after) : Effect pre action after := by
  have moves : ∀ action index handshake stage, pre.handshakes[index]? = some handshake →
      StageMove pre handshake { handshake with stage } → recordedDevice action = none →
      Effect pre action (pre.setStage index handshake stage) :=
    fun action index handshake stage hit moved nothing =>
      .connection (.move index handshake _ hit moved rfl rfl ⟨rfl,rfl⟩) (follow_same rfl) nothing
  cases step with
  | subscribe => exact .connection (.subscribe rfl rfl ⟨rfl,rfl⟩) (follow_same rfl) rfl
  | check index handshake hit subscribed =>
    cases enabled : pre.enabled with
    | true => exact moves _ index handshake _ hit (.check subscribed enabled) rfl
    | false => exact moves _ index handshake _ hit (.refuse _) rfl
  | authenticate index handshake dev proof now persist token hit checked =>
    exact authenticate_effect hit checked
  | giveUp index handshake error hit =>
    exact moves _ index handshake _ hit (.refuse error) rfl
  | handOver index handshake dev scope token hit authenticated =>
    exact moves _ index handshake _ hit (.handOver authenticated) rfl
  | receive index handshake dev scope token hit connected =>
    exact receive_effect hit connected
  | close index handshake dev scope token hit =>
    exact moves _ index handshake _ hit .close rfl
  | revoke dev now persist => exact .revoked revoke_cases
  | exchange digest publicKey dev now free fresh =>
    exact .exchanged free fresh exchange_cases
  | recordExchange exchange persist held =>
    refine .recorded held ?_
    unfold AccessPlane.recordExchange
    iterate 2 (split; · exact .dropped _)
    · exact .done
  | enroll deviceName publicKey dev now persist free fresh =>
    obtain ⟨attempts,devices,added,frame,follows⟩ := enroll_follows fresh
    rw [frame]
    exact .enrolled free follows
  | enable requestedPort finished bound _ idle =>
    refine .served enable_served ?_ rfl
    exact .away fun announced => enable_switch idle
  | finishEnable port persist restored =>
    refine .served finishEnable_served ?_ rfl
    refine .away fun announced => ?_
    rw [finishEnable_switch]
    nofun
  | disable persist free =>
    cases persist with
    | error => exact .served .refl (.same rfl rfl) rfl
    | ok => exact .disabled free
  | announceDisable disabling =>
    have served : Served pre pre.announceDisable :=
      ⟨rfl,rfl,rfl,rfl,rfl,rfl,rfl,["*"],rfl⟩
    exact .served served (.announced disabling rfl) rfl
  | finishDisable => exact .served Served.refl.turned (.away fun announced => nofun) rfl
  | createPairing =>
    unfold AccessPlane.createPairing
    split
    · exact .served Served.refl.turned (.away fun announced => nofun) rfl
    · exact .served .refl (.same rfl rfl) rfl
  | insertInvitation digest name scope now => exact .inserted digest name scope now
  | listenerTask => exact .served Served.refl.turned (.same rfl rfl) rfl

theorem step_listening (step : Step keyValid pre action after) : Listening pre after := by
  cases step_effect step with
  | connection listening => exact listening
  | revoked revoked => exact revoked.listening
  | exchanged _ _ exchanged => exact exchanged.listening
  | recorded _ recorded => exact recorded.listening
  | enrolled => exact listening_same rfl rfl
  | served served =>
    obtain ⟨more,grown⟩ := served.revocations
    exact .elsewhere more served.handshakes grown
  | disabled => exact listening_same rfl rfl
  | inserted digest name scope now =>
    obtain ⟨invitations,issued,frame⟩ := @insertInvitation_frame pre digest name scope now
    rw [frame]
    exact listening_same rfl rfl

end TermloopAccess

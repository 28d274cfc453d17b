import Termloop.Core.WorkflowSteps
import Termloop.Lib.Runs

/-!
Remote access of one daemon: devices that were paired or enrolled, invitations to pair,
and connections that prove to be one of the devices. The switch, the invitations and the
device file have locks of their own, and what a connection hears of a withdrawal is a
broadcast. A connection listens before it looks at the switch and at the device file; an
exchange of an invitation holds the lock of the switch until the device is recorded; what
an owner does to the switch or the invitations is done one at a time.
-/
namespace TermloopAccess
open TermloopRuns TermloopRecordLists TermloopOutcome

def pairingTtlMs : Nat := 120000
def maxDeviceRegistrationAttemptsPerMinute : Nat := 60
def maxActivePairingInvitations : Nat := 128
def maxPairedDevices : Nat := 1024
def lastSeenPersistIntervalMs : Nat := 60000
def revocationCapacity : Nat := 128

inductive AccessScope where
  | full | readOnly

structure AccessDeviceRecord where
  (deviceId name : String)
  scope : AccessScope
  publicKey : String
  createdAtEpochMs : Nat
  (lastSeenAtEpochMs revokedAtEpochMs : Option Nat)

/-- With its place among all invitations, and how often access had been disabled before. -/
structure PairingInvitation where
  name : String
  scope : AccessScope
  (expiresAtEpochMs serial era : Nat)

/-- An exchange between the removal of its invitation and the record of its device. -/
structure Exchange where
  device : AccessDeviceRecord
  invitation : PairingInvitation

structure Pairing where
  device : AccessDeviceRecord
  invitation : PairingInvitation
  era : Nat

/-- The operations that hold the management lock, where they can be interrupted. -/
inductive Managing where
  | enabling (port : Nat)
  | disabling (announced : Bool)
  | pairing

inductive Stage where
  | subscribed | checked
  | authenticated (deviceId : String) (scope : AccessScope) (token : String)
  | handedOver (deviceId : String) (scope : AccessScope) (token : String)
  | refused (error : String)
  | closed

def Stage.handshaking : Stage → Bool
  | .subscribed | .checked | .authenticated _ _ _ => true
  | .handedOver _ _ _ | .refused _ | .closed => false

structure Handshake where
  received : Nat
  stage : Stage

structure AccessPlane where
  enabled : Bool
  port : Nat
  devices : List AccessDeviceRecord
  invitations : AList fun _ : String => PairingInvitation
  attempts : List Nat
  revocations : List String
  listener : Option Nat
  listening : Bool
  management : Option Managing
  exchanging : Option Exchange
  handshakes : List Handshake
  issued : List PairingInvitation
  disables : Nat
  paired : List Pairing

/-- `RemoteRevocation::wait`; `false` waits for more. A receiver left behind ends the
    connection as well. -/
def wait (deviceId : String) : List String → Bool
  | [] => false
  | revoked :: rest =>
    if rest.length + 1 > revocationCapacity then true
    else if revoked = deviceId ∨ revoked = "*" then true
    else wait deviceId rest

section Opening

variable (keyValid : String → Bool)

def isAsciiHexdigit (c : Char) : Bool :=
  decide ('0' ≤ c ∧ c ≤ '9') || decide ('a' ≤ c ∧ c ≤ 'f') || decide ('A' ≤ c ∧ c ≤ 'F')

def validateFrom : List String → List AccessDeviceRecord → Bool
  | _, [] => true
  | seen, device :: rest =>
    if decide (device.deviceId.utf8ByteSize ≠ 32) || !device.deviceId.toList.all isAsciiHexdigit ||
        device.name.isEmpty || decide (device.name.length > 80) || !keyValid device.publicKey ||
        seen.contains device.deviceId then
      false
    else validateFrom (device.deviceId :: seen) rest

def validateDevices (devices : List AccessDeviceRecord) : Bool :=
  decide (devices.length ≤ maxPairedDevices) && validateFrom keyValid [] devices

end Opening

namespace AccessPlane

def opened (enabled : Bool) (port : Nat) (devices : List AccessDeviceRecord) : AccessPlane where
  enabled := enabled
  port := port
  devices := devices
  invitations := ∅
  attempts := []
  revocations := []
  listener := none
  listening := false
  management := none
  exchanging := none
  handshakes := []
  issued := []
  disables := 0
  paired := []

def pending (plane : AccessPlane) (handshake : Handshake) : List String :=
  plane.revocations.drop handshake.received

section Devices

variable (keyValid : String → Bool) (plane : AccessPlane)

def revoke (deviceId : String) (now : Nat) (persist : Except String Unit) :
    Outcome String AccessPlane Bool :=
  match plane.devices.find? (·.deviceId == deviceId) with
  | none => (.ok false, plane)
  | some device =>
    if device.revokedAtEpochMs.isSome then (.ok false, plane)
    else
      match persist with
      | .error error => (.error error, plane)
      | .ok () =>
        (.ok true,
          { plane with
            devices := updateFirst (·.deviceId == deviceId)
              (fun device => { device with revokedAtEpochMs := some now }) plane.devices
            revocations := plane.revocations ++ [deviceId] })

def deviceRegistrationAttemptAllowed (now : Nat) : Bool × AccessPlane :=
  let attempts := plane.attempts.dropWhile fun timestamp => decide (now - timestamp ≥ 60000)
  if attempts.length ≥ maxDeviceRegistrationAttemptsPerMinute then
    (false, { plane with attempts })
  else (true, { plane with attempts := attempts ++ [now] })

def exchangePairing (digest publicKey deviceId : String) (now : Nat) :
    Outcome String AccessPlane Unit :=
  if !plane.enabled then (.error "access plane is disabled", plane)
  else
    match plane.deviceRegistrationAttemptAllowed now with
    | (false, plane) => (.error "pairing attempt limit exceeded", plane)
    | (true, plane) =>
      if !keyValid publicKey then (.error "device public key is invalid", plane)
      else
        match plane.invitations.lookup digest with
        | none => (.error "pairing invitation is invalid or expired", plane)
        | some invitation =>
          let plane := { plane with invitations := plane.invitations.erase digest }
          if invitation.expiresAtEpochMs < now then
            (.error "pairing invitation is invalid or expired", plane)
          else
            let device : AccessDeviceRecord :=
              ⟨deviceId, invitation.name, invitation.scope, publicKey, now, none, none⟩
            (.ok (), { plane with exchanging := some ⟨device, invitation⟩ })

def recordExchange (exchange : Exchange) (persist : Except String Unit) :
    Outcome String AccessPlane AccessDeviceRecord :=
  if plane.devices.length ≥ maxPairedDevices then
    (.error "paired device limit exceeded", { plane with exchanging := none })
  else
    match persist with
    | .error error => (.error error, { plane with exchanging := none })
    | .ok () =>
      (.ok exchange.device,
        { plane with
          devices := plane.devices ++ [exchange.device], exchanging := none
          paired := plane.paired ++ [⟨exchange.device, exchange.invitation, plane.disables⟩] })

def enrollDevice (deviceName publicKey deviceId : String) (now : Nat)
    (persist : Except String Unit) : Outcome String AccessPlane AccessDeviceRecord :=
  if !plane.enabled then (.error "access plane is disabled", plane)
  else
    match plane.deviceRegistrationAttemptAllowed now with
    | (false, plane) => (.error "device enrollment attempt limit exceeded", plane)
    | (true, plane) =>
      let deviceName := TermloopText.trim deviceName
      if deviceName.isEmpty || decide (deviceName.length > 80) then
        (.error "device name is invalid", plane)
      else if !keyValid publicKey then (.error "device public key is invalid", plane)
      else
        match plane.devices.find? (·.publicKey == publicKey) with
        | some existing =>
          if existing.revokedAtEpochMs.isSome then (.error "device credential is revoked", plane)
          else (.ok existing, plane)
        | none =>
          if plane.devices.length ≥ maxPairedDevices then
            (.error "paired device limit exceeded", plane)
          else
            let device : AccessDeviceRecord :=
              ⟨deviceId, deviceName, .full, publicKey, now, none, none⟩
            match persist with
            | .error error => (.error error, plane)
            | .ok () => (.ok device, { plane with devices := plane.devices ++ [device] })

/-- The device is looked up, proved and noted as seen under the lock of the device file. -/
def authenticate (deviceId : String) (proof : String → Bool) (now : Nat) (persist : Except String Unit)
    (token : String) : Outcome String AccessPlane (AccessScope × String) :=
  let known := fun device : AccessDeviceRecord =>
    device.deviceId == deviceId && device.revokedAtEpochMs.isNone
  match plane.devices.find? known with
  | none => (.error "device is unknown or revoked", plane)
  | some device =>
    if !proof device.publicKey then (.error "device proof is invalid", plane)
    else if device.lastSeenAtEpochMs.all fun seen =>
        decide (now - seen ≥ lastSeenPersistIntervalMs) then
      match persist with
      | .error error => (.error error, plane)
      | .ok () =>
        (.ok (device.scope, token),
          { plane with
            devices := updateFirst known
              (fun device => { device with lastSeenAtEpochMs := some now }) plane.devices })
    else (.ok (device.scope, token), plane)

end Devices

section Management

variable (plane : AccessPlane)

/-- A listener on another port is replaced, and its connections hear of it. -/
def startListener (port : Nat) (finished : Bool) (bound : Except String Unit) :
    Outcome String AccessPlane Unit :=
  if plane.listener = some port ∧ finished = false then
    (.ok (), { plane with listening := true })
  else
    match bound with
    | .error error => (.error error, plane)
    | .ok () =>
      let revocations :=
        if plane.listener.any fun existing => decide (existing ≠ port) then
          plane.revocations ++ ["*"]
        else plane.revocations
      (.ok (), { plane with revocations, listener := some port, listening := true })

def enable (requestedPort : Option Nat) (finished : Bool) (bound : Except String Unit) :
    Outcome String AccessPlane Unit :=
  let port := requestedPort.getD plane.port
  if port < 1024 then (.error "access port must be between 1024 and 65535", plane)
  else
    match plane.startListener port finished bound with
    | (.error error, plane) => (.error error, plane)
    | (.ok (), plane) => (.ok (), { plane with management := some (.enabling port) })

def stopListener : AccessPlane := { plane with listener := none, listening := false }

def finishEnable (port : Nat) (persist restored : Except String Unit) :
    Outcome String AccessPlane Unit :=
  match persist with
  | .ok () => (.ok (), { plane with enabled := true, port, management := none })
  | .error error =>
    let plane := plane.stopListener
    if plane.enabled then
      match plane.startListener plane.port false restored with
      | (.ok (), plane) => (.error error, { plane with management := none })
      | (.error restore, plane) =>
        (.error (error ++ "; previous access listener could not be restored: " ++ restore),
          { plane with management := none })
    else (.error error, { plane with management := none })

def disable (persist : Except String Unit) : Outcome String AccessPlane Unit :=
  match persist with
  | .error error => (.error error, plane)
  | .ok () =>
    (.ok (),
      { plane with
        enabled := false, invitations := ∅, disables := plane.disables + 1
        management := some (.disabling false) })

def announceDisable : AccessPlane :=
  { plane with
    revocations := plane.revocations ++ ["*"], management := some (.disabling true) }

def finishDisable : AccessPlane := { plane.stopListener with management := none }

/-- `create_pairing` looks at the status and then at the invitations. -/
def createPairing : Outcome String AccessPlane Unit :=
  if plane.enabled && plane.listening then (.ok (), { plane with management := some .pairing })
  else (.error "access plane is not listening", plane)

def insertInvitation (digest name : String) (scope : AccessScope) (now : Nat) :
    Outcome String AccessPlane Unit :=
  let invitations := TermloopKeyed.retain
    (fun _ invitation => decide (invitation.expiresAtEpochMs ≥ now)) plane.invitations
  let invitation : PairingInvitation :=
    ⟨name, scope, now + pairingTtlMs, plane.issued.length, plane.disables⟩
  if invitations.entries.length ≥ maxActivePairingInvitations then
    (.error "too many pairing invitations are active",
      { plane with invitations, management := none })
  else
    (.ok (),
      { plane with
        invitations := invitations.insert digest invitation, issued := plane.issued ++ [invitation]
        management := none })

end Management

def setStage (plane : AccessPlane) (index : Nat) (handshake : Handshake) (stage : Stage) :
    AccessPlane :=
  { plane with handshakes := plane.handshakes.set index { handshake with stage } }

def stageOf (deviceId : String) : Except String (AccessScope × String) → Stage
  | .ok (scope, token) => .authenticated deviceId scope token
  | .error error => .refused error

def receive (plane : AccessPlane) (index : Nat) (handshake : Handshake) (deviceId : String) :
    AccessPlane :=
  match plane.pending handshake with
  | [] => plane
  | revoked :: rest =>
    if rest.length + 1 > revocationCapacity then plane.setStage index handshake .closed
    else if revoked = deviceId ∨ revoked = "*" then plane.setStage index handshake .closed
    else
      { plane with
        handshakes := plane.handshakes.set index
          { handshake with received := handshake.received + 1 } }

end AccessPlane

inductive Action where
  | subscribe
  | check (index : Nat)
  | authenticate (index : Nat) (deviceId : String) (answer : Except String (AccessScope × String))
  | giveUp (index : Nat)
  | handOver (index : Nat)
  | receive (index : Nat)
  | close (index : Nat)
  | revoke (deviceId : String) (answer : Except String Bool)
  | exchange (answer : Except String Unit)
  | recordExchange (answer : Except String AccessDeviceRecord)
  | enroll (answer : Except String AccessDeviceRecord)
  | enable (answer : Except String Unit)
  | finishEnable (answer : Except String Unit)
  | disable (answer : Except String Unit)
  | announceDisable | finishDisable
  | createPairing (answer : Except String Unit)
  | insertInvitation (answer : Except String Unit)
  | listenerTask (listening : Bool)

variable (keyValid : String → Bool) in
/-- Drawn ids are fresh. Locking the configuration waits for an exchange, and owners'
    operations for each other. -/
inductive Step : AccessPlane → Action → AccessPlane → Prop where
  | subscribe (plane : AccessPlane) :
      Step plane .subscribe
        { plane with handshakes := plane.handshakes ++ [⟨plane.revocations.length, .subscribed⟩] }
  | check (plane : AccessPlane) (index handshake)
      (found : plane.handshakes[index]? = some handshake)
      (subscribed : handshake.stage = .subscribed) (free : plane.exchanging = none) :
      Step plane (.check index)
        (plane.setStage index handshake
          (if plane.enabled then .checked else .refused "access plane is disabled"))
  | authenticate (plane : AccessPlane) (index handshake deviceId proof now persist token)
      (found : plane.handshakes[index]? = some handshake)
      (checked : handshake.stage = .checked) :
      Step plane
        (.authenticate index deviceId (plane.authenticate deviceId proof now persist token).1)
        ((plane.authenticate deviceId proof now persist token).2.setStage index handshake
          (AccessPlane.stageOf deviceId
            (plane.authenticate deviceId proof now persist token).1))
  | giveUp (plane : AccessPlane) (index handshake error)
      (found : plane.handshakes[index]? = some handshake)
      (handshaking : handshake.stage.handshaking = true) :
      Step plane (.giveUp index) (plane.setStage index handshake (.refused error))
  | handOver (plane : AccessPlane) (index handshake deviceId scope token)
      (found : plane.handshakes[index]? = some handshake)
      (authenticated : handshake.stage = .authenticated deviceId scope token) :
      Step plane (.handOver index)
        (plane.setStage index handshake (.handedOver deviceId scope token))
  | receive (plane : AccessPlane) (index handshake deviceId scope token)
      (found : plane.handshakes[index]? = some handshake)
      (connected : handshake.stage = .handedOver deviceId scope token) :
      Step plane (.receive index) (plane.receive index handshake deviceId)
  | close (plane : AccessPlane) (index handshake deviceId scope token)
      (found : plane.handshakes[index]? = some handshake)
      (connected : handshake.stage = .handedOver deviceId scope token) :
      Step plane (.close index) (plane.setStage index handshake .closed)
  | revoke (plane : AccessPlane) (deviceId now persist) :
      Step plane (.revoke deviceId (plane.revoke deviceId now persist).1)
        (plane.revoke deviceId now persist).2
  | exchange (plane : AccessPlane) (digest publicKey deviceId now)
      (free : plane.exchanging = none)
      (fresh : deviceId ∉ plane.devices.map AccessDeviceRecord.deviceId) :
      Step plane (.exchange (plane.exchangePairing keyValid digest publicKey deviceId now).1)
        (plane.exchangePairing keyValid digest publicKey deviceId now).2
  | recordExchange (plane : AccessPlane) (exchange persist)
      (held : plane.exchanging = some exchange) :
      Step plane (.recordExchange (plane.recordExchange exchange persist).1)
        (plane.recordExchange exchange persist).2
  | enroll (plane : AccessPlane) (deviceName publicKey deviceId now persist)
      (free : plane.exchanging = none)
      (fresh : deviceId ∉ plane.devices.map AccessDeviceRecord.deviceId) :
      Step plane (.enroll (plane.enrollDevice keyValid deviceName publicKey deviceId now persist).1)
        (plane.enrollDevice keyValid deviceName publicKey deviceId now persist).2
  | enable (plane : AccessPlane) (requestedPort finished bound) (free : plane.exchanging = none)
      (idle : plane.management = none) :
      Step plane (.enable (plane.enable requestedPort finished bound).1)
        (plane.enable requestedPort finished bound).2
  | finishEnable (plane : AccessPlane) (port persist restored)
      (enabling : plane.management = some (.enabling port))
      (free : persist = .ok () → plane.exchanging = none) :
      Step plane (.finishEnable (plane.finishEnable port persist restored).1)
        (plane.finishEnable port persist restored).2
  | disable (plane : AccessPlane) (persist) (free : plane.exchanging = none)
      (idle : plane.management = none) :
      Step plane (.disable (plane.disable persist).1) (plane.disable persist).2
  | announceDisable (plane : AccessPlane)
      (disabling : plane.management = some (.disabling false)) :
      Step plane .announceDisable plane.announceDisable
  | finishDisable (plane : AccessPlane) (disabling : plane.management = some (.disabling true))
      (free : plane.exchanging = none) :
      Step plane .finishDisable plane.finishDisable
  | createPairing (plane : AccessPlane) (free : plane.exchanging = none)
      (idle : plane.management = none) :
      Step plane (.createPairing plane.createPairing.1) plane.createPairing.2
  | insertInvitation (plane : AccessPlane) (digest name scope now)
      (pairing : plane.management = some .pairing) :
      Step plane (.insertInvitation (plane.insertInvitation digest name scope now).1)
        (plane.insertInvitation digest name scope now).2
  | listenerTask (plane : AccessPlane) (listening) :
      Step plane (.listenerTask listening) { plane with listening }

end TermloopAccess

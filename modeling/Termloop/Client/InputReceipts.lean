import Termloop.Lib.Runs
import Termloop.Server.OutboundBuffer

/-!
Terminal input with receipts, from the client's ledger to the PTY and back. The server
answers each input with an acknowledgement or an error. Acknowledgements overtake
queued errors and only the newest one is kept, and both clients read one as the receipt
of every input up to it.
-/
namespace TermloopReceipts
open TermloopRuns TermloopOutbound List

abbrev Pending (Entry : Type) := List (Nat × Entry)

namespace Pending
variable {Entry : Type}

def set (pending : Pending Entry) (sequence : Nat) (entry : Entry) : Pending Entry :=
  if pending.any (·.1 == sequence) then
    pending.map fun item => if item.1 == sequence then (sequence, entry) else item
  else pending ++ [(sequence, entry)]

def delete (pending : Pending Entry) (sequence : Nat) : Pending Entry :=
  pending.filter (·.1 != sequence)

def upTo (pending : Pending Entry) (sequence : Nat) : Pending Entry :=
  pending.filter fun item => decide (item.1 ≤ sequence)

def beyond (pending : Pending Entry) (sequence : Nat) : Pending Entry :=
  pending.filter fun item => decide (sequence < item.1)

def keys (pending : Pending Entry) : List Nat := pending.map (·.1)

end Pending

structure Settlement where
  bytes : Nat
  (confirmed waiting : Bool)

/-- The desktop's ledger: the bytes of every input without a receipt. -/
structure InputReceiptLedger where
  pending : Pending Nat

namespace InputReceiptLedger

def totalBytes (pending : Pending Nat) : Nat := pending.foldl (fun bytes item => bytes + item.2) 0

def expect (ledger : InputReceiptLedger) (sequence bytes : Nat) : InputReceiptLedger :=
  ⟨ledger.pending.set sequence bytes⟩

def expire (ledger : InputReceiptLedger) (sequence : Nat) : InputReceiptLedger × Option Settlement :=
  match ledger.pending.find? (·.1 == sequence) with
  | none => (ledger, none)
  | some item =>
    let left := ledger.pending.delete sequence
    (⟨left⟩, some { bytes := item.2, confirmed := false, waiting := !left.isEmpty })

def accept (ledger : InputReceiptLedger) (sequence : Nat) : InputReceiptLedger × Option Settlement :=
  let bytes := totalBytes (ledger.pending.upTo sequence)
  let left := ledger.pending.beyond sequence
  (⟨left⟩,
    if bytes = 0 then none
    else some { bytes := bytes, confirmed := true, waiting := !left.isEmpty })

def clear (ledger : InputReceiptLedger) : InputReceiptLedger × Option Settlement :=
  let bytes := totalBytes ledger.pending
  (⟨[]⟩, if bytes = 0 then none else some { bytes := bytes, confirmed := false, waiting := false })

end InputReceiptLedger

/-- The phone's ledger: one promise for every input without a receipt. -/
structure TerminalInputReceipts where
  pending : Pending Unit

namespace TerminalInputReceipts

def assertCapacity (receipts : TerminalInputReceipts) (frames : Nat) : Bool :=
  !decide (receipts.pending.length + frames > 128)

def expect (receipts : TerminalInputReceipts) (sequence : Nat) : Option TerminalInputReceipts :=
  if receipts.assertCapacity 1 then some ⟨receipts.pending.set sequence ()⟩ else none

def expire (receipts : TerminalInputReceipts) (sequence : Nat) : TerminalInputReceipts :=
  ⟨receipts.pending.delete sequence⟩

/-- The promises that resolve come with what is left. -/
def accept (receipts : TerminalInputReceipts) (sequence : Nat) :
    TerminalInputReceipts × List Nat :=
  (⟨receipts.pending.beyond sequence⟩, (receipts.pending.upTo sequence).keys)

def clear (_ : TerminalInputReceipts) : TerminalInputReceipts := ⟨[]⟩

end TerminalInputReceipts

/-- A client's ledger; `confirms` are the inputs that an acknowledgement settles. -/
structure ClientLedger where
  State : Type
  start : State
  pending : State → List Nat
  expect : State → Nat → Nat → Option State
  accept : State → Nat → State
  confirms : State → Nat → List Nat
  expire : State → Nat → State
  clear : State → State
  start_pending : pending start = []
  expect_pending : ∀ state sequence bytes after, expect state sequence bytes = some after →
    ∀ input ∈ pending after, input = sequence ∨ input ∈ pending state
  accept_pending : ∀ state sequence, ∀ input ∈ pending (accept state sequence),
    input ∈ pending state
  confirms_pending : ∀ state sequence, ∀ input ∈ confirms state sequence,
    input ∈ pending state ∧ input ≤ sequence
  expire_pending : ∀ state sequence, ∀ input ∈ pending (expire state sequence),
    input ∈ pending state
  clear_pending : ∀ state, pending (clear state) = []

section Ledgers
variable {Entry : Type} {pending : Pending Entry} {sequence input : Nat} {entry : Entry}

theorem mem_keys_set (here : input ∈ (pending.set sequence entry).keys) :
    input = sequence ∨ input ∈ pending.keys := by
  unfold Pending.set at here
  split at here
  · obtain ⟨item,mem,key⟩ := mem_map.mp here
    obtain ⟨old,hit,edited⟩ := mem_map.mp mem
    split at edited
    · exact .inl (key ▸ edited ▸ rfl)
    · exact .inr (mem_map.mpr ⟨old,hit,edited ▸ key⟩)
  · rw [Pending.keys, map_append] at here
    rcases mem_append.mp here with old | new
    · exact .inr old
    · exact .inl (mem_singleton.mp new)

theorem mem_keys_filter (here : input ∈ Pending.keys (pending.filter keep)) :
    input ∈ pending.keys := by
  obtain ⟨item,mem,key⟩ := mem_map.mp here
  exact mem_map.mpr ⟨item,(mem_filter.mp mem).1,key⟩

theorem mem_keys_upTo (here : input ∈ (pending.upTo sequence).keys) :
    input ∈ pending.keys ∧ input ≤ sequence := by
  obtain ⟨item,mem,key⟩ := mem_map.mp here
  have covered := of_decide_eq_true (mem_filter.mp mem).2
  exact ⟨mem_keys_filter here,key ▸ covered⟩

end Ledgers

def desktop : ClientLedger where
  State := InputReceiptLedger
  start := ⟨[]⟩
  pending ledger := ledger.pending.keys
  expect ledger sequence bytes := some (ledger.expect sequence bytes)
  accept ledger sequence := (ledger.accept sequence).1
  confirms ledger sequence := (ledger.pending.upTo sequence).keys
  expire ledger sequence := (ledger.expire sequence).1
  clear ledger := ledger.clear.1
  start_pending := rfl
  expect_pending := by
    intro ledger sequence bytes after done input here
    cases done
    exact mem_keys_set here
  accept_pending := fun _ _ _ => mem_keys_filter
  confirms_pending := fun _ _ _ => mem_keys_upTo
  expire_pending := by
    intro ledger sequence input here
    unfold InputReceiptLedger.expire at here
    split at here
    · exact here
    · exact mem_keys_filter here
  clear_pending := fun _ => rfl

def mobile : ClientLedger where
  State := TerminalInputReceipts
  start := ⟨[]⟩
  pending receipts := receipts.pending.keys
  expect receipts sequence _ := receipts.expect sequence
  accept receipts sequence := (receipts.accept sequence).1
  confirms receipts sequence := (receipts.accept sequence).2
  expire receipts sequence := receipts.expire sequence
  clear receipts := receipts.clear
  start_pending := rfl
  expect_pending := by
    intro receipts sequence bytes after done input here
    unfold TerminalInputReceipts.expect at done
    split at done
    · cases done
      exact mem_keys_set here
    · cases done
  accept_pending := fun _ _ _ => mem_keys_filter
  confirms_pending := fun _ _ _ => mem_keys_upTo
  expire_pending := fun _ _ _ => mem_keys_filter
  clear_pending := fun _ => rfl

structure Link (client : ClientLedger) where
  ledger : client.State
  sequence : Nat
  upstream : List TerminalFrame
  outbound : OutboundBuffer
  downstream : List TerminalFrame
  /-- Inputs whose receipt succeeded. -/
  written : List Nat
  /-- Inputs that the ledger has settled as confirmed. -/
  confirmed : List Nat

/-- The bytes of an input are written, or an error says why they may not be. -/
inductive InputReceipt where
  | written
  | failed (message : List UInt8)

inductive LinkAction where
  | input (payload : List UInt8)
  | skip
  | handle (receipt : InputReceipt)
  | publish (frame : TerminalFrame)
  | detach (sessionId : String)
  | pop | receive
  | expire (sequence : Nat)
  | clear

section Connection
variable (client : ClientLedger) (sessionId : String) (epoch : Nat)

def Link.start : Link client :=
  { ledger := client.start, sequence := 1, upstream := [], outbound := .empty, downstream := []
    written := [], confirmed := [] }

def acknowledges (frame : TerminalFrame) : Bool :=
  frame.kind == .inputAck && frame.sessionId == sessionId && frame.epoch == epoch

def inputAnswer (frame : TerminalFrame) : InputReceipt → TerminalFrame
  | .written => { frame with kind := .inputAck, payload := [] }
  | .failed message => { frame with kind := .error, payload := message }

def writtenBy (frame : TerminalFrame) : InputReceipt → List Nat
  | .written => [frame.sequence]
  | .failed _ => []

def Link.perform (link : Link client) : LinkAction → Option (Link client)
  | .input payload =>
    (client.expect link.ledger link.sequence payload.length).map fun ledger =>
      { link with
        ledger := ledger, sequence := link.sequence + 1
        upstream := link.upstream ++ [⟨sessionId, epoch, link.sequence, .input, payload⟩] }
  | .skip => some { link with sequence := link.sequence + 1 }
  | .handle receipt =>
    match link.upstream with
    | [] => none
    | frame :: rest =>
      some { link with
        upstream := rest, outbound := link.outbound.enqueue (inputAnswer frame receipt)
        written := link.written ++ writtenBy frame receipt }
  | .publish frame =>
    if acknowledges sessionId epoch frame then none
    else some { link with outbound := link.outbound.enqueue frame }
  | .detach other => some { link with outbound := link.outbound.detach other }
  | .pop =>
    match link.outbound.popFair with
    | (some frame, outbound) =>
      some { link with outbound := outbound, downstream := link.downstream ++ [frame] }
    | (none, outbound) => some { link with outbound := outbound }
  | .receive =>
    match link.downstream with
    | [] => none
    | frame :: rest =>
      if acknowledges sessionId epoch frame then
        some { link with
          downstream := rest, ledger := client.accept link.ledger frame.sequence
          confirmed := link.confirmed ++ client.confirms link.ledger frame.sequence }
      else some { link with downstream := rest }
  | .expire sequence => some { link with ledger := client.expire link.ledger sequence }
  | .clear => some { link with ledger := client.clear link.ledger }

def Link.Step : Link client → LinkAction → Link client → Prop :=
  Takes (Link.perform client sessionId epoch)

/-- A receipt succeeds only where every earlier input in the ledger was written. -/
def EarlierWritten (link : Link client) : LinkAction → Prop
  | .handle .written => ∀ frame rest, link.upstream = frame :: rest →
      ∀ input ∈ client.pending link.ledger, input < frame.sequence → input ∈ link.written
  | _ => True

end Connection

section Confirmed
variable {client : ClientLedger} {sid : String} {epoch : Nat} {link after : Link client}

def Link.Acks (link : Link client) (frame : TerminalFrame) : Prop :=
  link.outbound.Holds frame ∨ frame ∈ link.downstream

/-- Every acknowledgement that may still reach the ledger covers only written inputs
    there. -/
structure Truthful (sessionId : String) (epoch : Nat) (link : Link client) : Prop where
  confirmed : ∀ input ∈ link.confirmed, input ∈ link.written
  covered : ∀ frame, acknowledges sessionId epoch frame = true → link.Acks frame →
    ∀ input ∈ client.pending link.ledger, input ≤ frame.sequence → input ∈ link.written
  numbered : ∀ frame, acknowledges sessionId epoch frame = true → link.Acks frame →
    frame.sequence < link.sequence
  sent : ∀ frame ∈ link.upstream, frame.sequence < link.sequence

theorem start_truthful : Truthful sid epoch (Link.start client) := by
  have nothing : ∀ frame, ¬ (Link.start client).Acks frame := by
    rintro frame (held | here)
    · obtain ⟨id,queue,mem,-⟩ := held
      cases mem
    · cases here
  exact ⟨fun _ here => absurd here not_mem_nil, fun frame _ acks => absurd acks (nothing frame),
    fun frame _ acks => absurd acks (nothing frame),
    fun _ here => absurd here not_mem_nil⟩

section
variable (inv : Truthful sid epoch link)
include inv

theorem truthful_of_fewer (acks : ∀ frame, acknowledges sid epoch frame → after.Acks frame →
      link.Acks frame)
    (pending : ∀ input ∈ client.pending after.ledger, input ∈ client.pending link.ledger)
    (written : after.written = link.written) (confirmed : after.confirmed = link.confirmed)
    (upstream : after.upstream = link.upstream) (later : link.sequence ≤ after.sequence) :
    Truthful sid epoch after := by
  refine ⟨?_,?_,?_,?_⟩
  · rw [confirmed, written]
    exact inv.confirmed
  · intro frame own held input here below
    rw [written]
    exact inv.covered frame own (acks frame own held) input (pending input here) below
  · intro frame own held
    have below := inv.numbered frame own (acks frame own held)
    omega
  · intro frame here
    rw [upstream] at here
    have below := inv.sent frame here
    omega

theorem input_truthful
    (want : client.expect link.ledger link.sequence payload.length = some ledger) :
    Truthful sid epoch { link with
      ledger := ledger, sequence := link.sequence + 1
      upstream := link.upstream ++ [⟨sid, epoch, link.sequence, .input, payload⟩] } := by
  refine ⟨inv.confirmed,?_,?_,?_⟩
  · intro frame own held input here below
    have older := inv.numbered frame own held
    rcases client.expect_pending _ _ _ _ want input here with new | old
    · omega
    · exact inv.covered frame own held input old below
  · intro frame own held
    exact Nat.lt_succ_of_lt (inv.numbered frame own held)
  · intro frame here
    rcases mem_append.mp here with old | new
    · exact Nat.lt_succ_of_lt (inv.sent frame old)
    · cases mem_singleton.mp new
      exact Nat.lt_succ_self _

theorem handle_truthful
    (front : link.upstream = frame :: rest) (safe : EarlierWritten client link (.handle receipt)) :
    Truthful sid epoch { link with
      upstream := rest, outbound := link.outbound.enqueue (inputAnswer frame receipt)
      written := link.written ++ writtenBy frame receipt } := by
  have sent : ∀ other ∈ rest, other.sequence < link.sequence := by
    intro other here
    exact inv.sent other (front ▸ mem_cons_of_mem frame here)
  have older : frame.sequence < link.sequence := inv.sent frame (front ▸ mem_cons_self)
  have acks : ∀ other, (link.outbound.enqueue (inputAnswer frame receipt)).Holds other ∨
      other ∈ link.downstream → other = inputAnswer frame receipt ∨ link.Acks other := by
    rintro other (held | here)
    · exact (enqueue_holds held).imp_right .inl
    · exact .inr (.inr here)
  refine ⟨fun input here => mem_append_left _ (inv.confirmed input here),?_,?_,sent⟩
  · intro other own held input here below
    rcases acks other held with new | old
    · subst new
      cases receipt with
      | failed msg => cases own
      | written =>
        rcases Nat.lt_or_ge input frame.sequence with earlier | same
        · exact mem_append_left _ (safe frame rest front input here earlier)
        · have last : input = frame.sequence := Nat.le_antisymm below same
          exact mem_append_right _ (mem_singleton.mpr last)
    · exact mem_append_left _ (inv.covered other own old input here below)
  · intro other own held
    rcases acks other held with new | old
    · subst new
      cases receipt with
      | failed msg => cases own
      | written => exact older
    · exact inv.numbered other own old

theorem receive_truthful (front : link.downstream = frame :: rest)
    (own : acknowledges sid epoch frame) :
    Truthful sid epoch { link with
      downstream := rest, ledger := client.accept link.ledger frame.sequence
      confirmed := link.confirmed ++ client.confirms link.ledger frame.sequence } := by
  have here : link.Acks frame := Or.inr (front ▸ mem_cons_self)
  have acks : ∀ other, link.outbound.Holds other ∨ other ∈ rest → link.Acks other := by
    rintro other (held | later)
    · exact .inl held
    · exact .inr (front ▸ mem_cons_of_mem frame later)
  refine ⟨?_,?_,fun other mine held => inv.numbered other mine (acks other held),inv.sent⟩
  · intro input settled
    rcases mem_append.mp settled with old | new
    · exact inv.confirmed input old
    · obtain ⟨pending,below⟩ := client.confirms_pending _ _ input new
      exact inv.covered frame own here input pending below
  · intro other mine held input pending below
    exact inv.covered other mine (acks other held) input
      (client.accept_pending _ _ input pending) below

end

theorem step_truthful (inv : Truthful sid epoch link) (safe : EarlierWritten client link action)
    (step : Link.Step client sid epoch link action after) :
    Truthful sid epoch after := by
  have step : Link.perform client sid epoch link action = some after := step
  cases action with
  | input payload =>
    obtain ⟨ledger,want,done⟩ := Option.map_eq_some_iff.mp step
    subst done
    exact input_truthful inv want
  | skip =>
    cases step
    exact truthful_of_fewer inv (fun _ _ => id) (fun _ => id) rfl rfl rfl (Nat.le_succ _)
  | handle receipt =>
    simp only [Link.perform] at step
    split at step
    · cases step
    next front =>
    cases step
    exact handle_truthful inv front safe
  | publish frame =>
    simp only [Link.perform] at step
    split at step
    · cases step
    next foreign =>
    cases step
    refine truthful_of_fewer inv ?_ (fun _ => id) rfl rfl rfl le_rfl
    rintro other own (held | here)
    · rcases enqueue_holds held with new | old
      · exact absurd (new ▸ own) foreign
      · exact .inl old
    · exact .inr here
  | detach other =>
    cases step
    refine truthful_of_fewer inv ?_ (fun _ => id) rfl rfl rfl le_rfl
    exact fun frame _ acks => acks.imp_left fun ⟨id,queue,mem,carries⟩ =>
      ⟨id,queue,(TermloopKeyed.lookup_erase_some mem).2,carries⟩
  | pop =>
    simp only [Link.perform] at step
    split at step
    · next frame outbound popped =>
      cases step
      obtain ⟨taken,kept⟩ := popFair_holds popped
      refine truthful_of_fewer inv ?_ (fun _ => id) rfl rfl rfl le_rfl
      rintro other own (held | here)
      · exact .inl (kept other held)
      · rcases mem_append.mp here with old | new
        · exact .inr old
        cases mem_singleton.mp new
        rcases taken frame rfl with held | gap
        · exact .inl held
        · simp [acknowledges, gap] at own
    · next outbound popped =>
      cases step
      obtain ⟨-,kept⟩ := popFair_holds popped
      refine truthful_of_fewer inv ?_ (fun _ => id) rfl rfl rfl le_rfl
      exact fun frame _ acks => acks.imp_left (kept frame)
  | receive =>
    simp only [Link.perform] at step
    split at step
    · cases step
    next frame rest front =>
    split at step
    · next own =>
      cases step
      exact receive_truthful inv front own
    · cases step
      refine truthful_of_fewer inv ?_ (fun _ => id) rfl rfl rfl le_rfl
      exact fun other _ acks => acks.imp_right fun later =>
        front ▸ mem_cons_of_mem frame later
  | expire sequence =>
    cases step
    exact truthful_of_fewer inv (fun _ _ => id) (client.expire_pending _ _) rfl rfl rfl le_rfl
  | clear =>
    cases step
    refine truthful_of_fewer inv (fun _ _ => id) ?_ rfl rfl rfl le_rfl
    intro input here
    rw [client.clear_pending] at here
    cases here

theorem run_truthful (run : Run (Guarded (EarlierWritten client) (Link.Step client sid epoch))
      (Link.start client) actions link) : Truthful sid epoch link := by
  exact guarded_run_invariant (Truthful sid epoch) step_truthful run start_truthful

end Confirmed

/-- Where receipts succeed only after every earlier input still waited for was written,
    clients confirm written inputs only. -/
theorem confirmed_input_was_written (sessionId : String) (epoch : Nat) :
    (∀ actions link, Run (Guarded (EarlierWritten desktop) (Link.Step desktop sessionId epoch))
        (Link.start desktop) actions link → ∀ input ∈ link.confirmed, input ∈ link.written) ∧
    ∀ actions link, Run (Guarded (EarlierWritten mobile) (Link.Step mobile sessionId epoch))
        (Link.start mobile) actions link → ∀ input ∈ link.confirmed, input ∈ link.written :=
  ⟨fun _ _ run => (run_truthful run).confirmed,fun _ _ run => (run_truthful run).confirmed⟩

theorem coalesced_receipts_confirm :
    (∃ link, Run (Guarded (EarlierWritten desktop) (Link.Step desktop "session" 1))
        (Link.start desktop)
        [.input [65], .input [66], .handle .written, .handle .written, .pop, .receive] link ∧
      link.confirmed = [1, 2] ∧ ∀ input ∈ link.confirmed, input ∈ link.written) ∧
    ∃ link, Run (Guarded (EarlierWritten mobile) (Link.Step mobile "session" 1)) (Link.start mobile)
        [.input [65], .input [66], .handle .written, .handle .written, .pop, .receive] link ∧
      link.confirmed = [1, 2] ∧ ∀ input ∈ link.confirmed, input ∈ link.written := by
  have first : ∀ input ∈ [1, 2], input < 1 → input ∈ ([] : List Nat) := by decide
  have second : ∀ input ∈ [1, 2], input < 2 → input ∈ [1] := by decide
  have written := confirmed_input_was_written "session" 1
  constructor
  · refine exists_reached ⟨_,Run.cons ⟨trivial,rfl⟩ (Run.cons ⟨trivial,rfl⟩ (Run.cons ⟨?_,rfl⟩
      (Run.cons ⟨?_,rfl⟩ (Run.cons ⟨trivial,rfl⟩ (run_single ⟨trivial,rfl⟩))))),rfl⟩
      fun link run _ => written.1 _ link run
    · rintro frame rest front
      cases front
      exact first
    · rintro frame rest front
      cases front
      exact second
  · refine exists_reached ⟨_,Run.cons ⟨trivial,rfl⟩ (Run.cons ⟨trivial,rfl⟩ (Run.cons ⟨?_,rfl⟩
      (Run.cons ⟨?_,rfl⟩ (Run.cons ⟨trivial,rfl⟩ (run_single ⟨trivial,rfl⟩))))),rfl⟩
      fun link run _ => written.2 _ link run
    · rintro frame rest front
      cases front
      exact first
    · rintro frame rest front
      cases front
      exact second

/-- The second input's acknowledgement overtakes the first one's error, and both clients
    confirm both. -/
theorem failed_input_is_confirmed :
    (∃ link, Run (Link.Step desktop "session" 1) (Link.start desktop)
        [.input [65], .input [66], .handle (.failed []), .handle .written, .pop, .receive] link ∧
      link.confirmed = [1, 2] ∧ link.written = [2]) ∧
    ∃ link, Run (Link.Step mobile "session" 1) (Link.start mobile)
        [.input [65], .input [66], .handle (.failed []), .handle .written, .pop, .receive] link ∧
      link.confirmed = [1, 2] ∧ link.written = [2] := by
  constructor
  · exact ⟨_,Run.cons rfl (Run.cons rfl (Run.cons rfl (Run.cons rfl (Run.cons rfl
      (run_single rfl))))),rfl,rfl⟩
  · exact ⟨_,Run.cons rfl (Run.cons rfl (Run.cons rfl (Run.cons rfl (Run.cons rfl
      (run_single rfl))))),rfl,rfl⟩

end TermloopReceipts

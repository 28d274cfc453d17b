import Termloop.Lib.Runs

/-!
The kitty keyboard modes that a client is asked to keep. The tracker saves eight
event type bits; the client's own stack of flags has no bound. Both follow the
same requests, and an index outside the saved bits is a missing result.
-/
namespace TermloopKitty
open TermloopRuns List

def maxKittyKeyboardStack : Nat := 8

structure CsiRequest where
  introducer : Option Char
  value : Nat
  hasDigits : Bool

structure ClientInputModes where
  kittyKeyboardEventTypes : Bool := false
  kittyKeyboardStack : List Bool := List.replicate maxKittyKeyboardStack false
  kittyKeyboardStackLen : Nat := 0

def eventTypes (flags : Nat) : Bool := flags &&& 0b10 != 0

def CsiRequest.pops (request : CsiRequest) : Nat := if request.hasDigits then request.value else 1

def ClientInputModes.pop : Nat → ClientInputModes → Option ClientInputModes
  | 0, modes => some modes
  | pops + 1, modes =>
    if modes.kittyKeyboardStackLen = 0 then some { modes with kittyKeyboardEventTypes := false }
    else do
      let len := modes.kittyKeyboardStackLen - 1
      let saved ← modes.kittyKeyboardStack[len]?
      ClientInputModes.pop pops
        { modes with kittyKeyboardStackLen := len, kittyKeyboardEventTypes := saved }

def ClientInputModes.recordKittyKeyboardMode (modes : ClientInputModes) (request : CsiRequest) :
    Option ClientInputModes :=
  match request.introducer, request.hasDigits with
  | some '>', true =>
    let index := modes.kittyKeyboardStackLen
    if index ≥ maxKittyKeyboardStack then some { modes with kittyKeyboardEventTypes := false }
    else if index < modes.kittyKeyboardStack.length then
      some
        { kittyKeyboardEventTypes := eventTypes request.value
          kittyKeyboardStack := modes.kittyKeyboardStack.set index modes.kittyKeyboardEventTypes
          kittyKeyboardStackLen := index + 1 }
    else none
  | some '=', true => some { modes with kittyKeyboardEventTypes := eventTypes request.value }
  | some '<', _ => modes.pop request.pops
  | _, _ => some modes

/-- The client's own flags, with every saved value. -/
structure FlagStack where
  flags : Nat := 0
  saved : List Nat := []

def FlagStack.pop : Nat → FlagStack → FlagStack
  | 0, stack => stack
  | pops + 1, stack =>
    match stack.saved with
    | [] => { stack with flags := 0 }
    | top :: rest => FlagStack.pop pops ⟨top, rest⟩

def FlagStack.follow (stack : FlagStack) (request : CsiRequest) : FlagStack :=
  match request.introducer, request.hasDigits with
  | some '>', true => ⟨request.value, stack.flags :: stack.saved⟩
  | some '=', true => { stack with flags := request.value }
  | some '<', _ => stack.pop request.pops
  | _, _ => stack

structure Keyboard where
  modes : ClientInputModes := {}
  client : FlagStack := {}

def Keyboard.record (keyboard : Keyboard) (request : CsiRequest) : Option Keyboard :=
  (keyboard.modes.recordKittyKeyboardMode request).map (⟨·, keyboard.client.follow request⟩)

/-- What the array is always good for. -/
structure Bounded (modes : ClientInputModes) : Prop where
  size : modes.kittyKeyboardStack.length = maxKittyKeyboardStack
  len : modes.kittyKeyboardStackLen ≤ maxKittyKeyboardStack

/-- The saved bits are the client's, newest first. -/
def Mirrors (modes : ClientInputModes) (client : FlagStack) : Prop :=
  client.saved.map eventTypes =
      (modes.kittyKeyboardStack.take modes.kittyKeyboardStackLen).reverse
    ∧ modes.kittyKeyboardEventTypes = eventTypes client.flags

variable {modes : ClientInputModes} {req : CsiRequest}

theorem pop_follows (pops : Nat) (bounded : Bounded modes) :
    ∃ after, modes.pop pops = some after ∧ Bounded after
      ∧ ∀ client, Mirrors modes client → Mirrors after (client.pop pops) := by
  induction pops generalizing modes with
  | zero => exact ⟨modes,rfl,bounded,fun _ => id⟩
  | succ pops ih =>
    obtain ⟨event,bits,len⟩ := modes
    obtain ⟨size,fits⟩ := bounded
    dsimp only at size fits
    rw [ClientInputModes.pop]
    cases len with
    | zero =>
      refine ⟨_,rfl,⟨size,fits⟩,fun ⟨flags,saved⟩ mirrors => ?_⟩
      have none : saved = [] := by simpa using mirrors.1
      subst none
      exact ⟨rfl,show false = eventTypes 0 by decide⟩
    | succ len =>
      have inside : len < bits.length := by omega
      obtain ⟨after,popped,kept,follows⟩ := @ih ⟨bits[len],bits,len⟩ ⟨size,by dsimp only; omega⟩
      simp only [Nat.add_one_ne_zero, ↓reduceIte, Nat.add_one_sub_one,
        getElem?_eq_getElem inside]
      refine ⟨after,popped,kept,fun ⟨flags,saved⟩ ⟨same,_⟩ => ?_⟩
      dsimp only at same
      rw [take_succ_eq_append_getElem inside, reverse_concat] at same
      cases saved with
      | nil => simp at same
      | cons top rest =>
        obtain ⟨first,others⟩ := List.cons.inj same
        exact follows ⟨top,rest⟩ ⟨others,first.symm⟩

/-- Either the stacks agree, or a push was dropped at the full stack and is still open. -/
def Tracks (modes : ClientInputModes) (client : FlagStack) : Prop :=
  Mirrors modes client
    ∨ (modes.kittyKeyboardStackLen = maxKittyKeyboardStack
      ∧ maxKittyKeyboardStack < client.saved.length
      ∧ (modes.kittyKeyboardEventTypes = true → eventTypes client.flags = true))

/-- No pop request arrives while a dropped push is open. -/
def PopsShallow (keyboard : Keyboard) (request : CsiRequest) : Prop :=
  request.introducer = some '<' → keyboard.client.saved.length ≤ maxKittyKeyboardStack

theorem record_follows (bounded : Bounded modes) :
    ∃ after, modes.recordKittyKeyboardMode req = some after ∧ Bounded after
      ∧ ∀ client, PopsShallow ⟨modes, client⟩ req → Tracks modes client →
          Tracks after (client.follow req) := by
  obtain ⟨event,bits,len⟩ := modes
  obtain ⟨size,fits⟩ := bounded
  dsimp only at size fits
  rw [ClientInputModes.recordKittyKeyboardMode]
  split
  next pushed digits =>
    simp only [FlagStack.follow, pushed, digits]
    split
    next full =>
      refine ⟨_,rfl,⟨size,fits⟩,fun client _ tracks =>
        .inr ⟨Nat.le_antisymm fits full,?_,nofun⟩⟩
      rcases tracks with mirrors | ⟨-,deep,-⟩
      · have depth := congrArg List.length mirrors.1
        simp only [length_map, length_reverse, length_take, size] at depth
        simp only [length_cons]
        omega
      · exact Nat.lt_succ_of_lt deep
    next room =>
      have inside : len < bits.length := size ▸ Nat.lt_of_not_ge room
      rw [if_pos inside]
      refine ⟨_,rfl,⟨by simpa using size,Nat.lt_of_not_ge room⟩,fun client _ tracks => ?_⟩
      rcases tracks with ⟨saved,now⟩ | ⟨full,-⟩
      · refine .inl ⟨?_,rfl⟩
        dsimp only at saved now ⊢
        rw [take_succ_eq_append_getElem (by simpa using inside), reverse_concat,
          getElem_set_self, take_set_of_le (Nat.le_refl _), ← saved, map_cons, now]
      · exact absurd (Nat.le_of_eq full.symm) room
  next set digits =>
    simp only [FlagStack.follow, set, digits]
    refine ⟨_,rfl,⟨size,fits⟩,fun client _ tracks => ?_⟩
    rcases tracks with ⟨saved,-⟩ | ⟨full,deep,-⟩
    · exact .inl ⟨saved,rfl⟩
    · exact .inr ⟨full,deep,id⟩
  next popped =>
    obtain ⟨after,done,kept,follows⟩ :=
      @pop_follows ⟨event,bits,len⟩ req.pops ⟨size,fits⟩
    refine ⟨after,done,kept,fun client shallow tracks => ?_⟩
    simp only [FlagStack.follow, popped]
    rcases tracks with mirrors | ⟨-,deep,-⟩
    · exact .inl (follows client mirrors)
    · exact absurd (shallow popped) (Nat.not_le.mpr deep)
  next =>
    refine ⟨_,rfl,⟨size,fits⟩,fun client _ tracks => ?_⟩
    have kept : client.follow req = client := by
      rw [FlagStack.follow]
      split <;> simp_all
    rwa [kept]

theorem record_tracks {keyboard after : Keyboard}
    (tracks : Bounded keyboard.modes ∧ Tracks keyboard.modes keyboard.client)
    (shallow : PopsShallow keyboard req) (step : Takes Keyboard.record keyboard req after) :
    Bounded after.modes ∧ Tracks after.modes after.client := by
  obtain ⟨next,recorded,rfl⟩ := Option.map_eq_some_iff.mp step
  obtain ⟨_,same,kept,follows⟩ := @record_follows _ req tracks.1
  cases recorded.symm.trans same
  exact ⟨kept,follows _ shallow tracks.2⟩

theorem fresh_bounded : Bounded {} := ⟨rfl,Nat.zero_le _⟩

theorem requests_recorded (bounded : Bounded keyboard.modes) :
    ∃ after, Run (Takes Keyboard.record) keyboard requests after := by
  induction requests generalizing keyboard with
  | nil => exact ⟨keyboard,Run.nil _⟩
  | cons req rest ih =>
    obtain ⟨modes,recorded,kept,-⟩ := @record_follows _ req bounded
    have taken : keyboard.record req = some ⟨modes,keyboard.client.follow req⟩ := by
      rw [Keyboard.record, recorded, Option.map_some]
    obtain ⟨after,later⟩ := @ih ⟨modes,_⟩ kept
    exact ⟨after,Run.cons taken later⟩

/-- Every request sequence is recorded without an index outside the array, and event types are
    assumed only where the client reports them as long as no pop meets an open dropped push. -/
theorem event_types_sound_until_deep_pop (requests : List CsiRequest) :
    (∃ after, Run (Takes Keyboard.record) {} requests after)
      ∧ ∀ after, Run (Guarded PopsShallow (Takes Keyboard.record)) {} requests after →
          after.modes.kittyKeyboardEventTypes = true →
          eventTypes after.client.flags = true := by
  refine ⟨requests_recorded fresh_bounded,fun after run reported => ?_⟩
  obtain ⟨-,tracks⟩ := guarded_run_invariant
    (fun keyboard => Bounded keyboard.modes ∧ Tracks keyboard.modes keyboard.client)
    record_tracks run ⟨fresh_bounded,.inl ⟨rfl,by decide⟩⟩
  rcases tracks with ⟨-,now⟩ | ⟨-,-,sound⟩
  · rwa [← now]
  · exact sound reported

def kittyPush (flags : Nat) : CsiRequest := ⟨some '>', flags, true⟩

theorem event_types_sound_until_deep_pop_nested :
    ∃ after, Run (Guarded PopsShallow (Takes Keyboard.record)) {}
        [kittyPush 7, kittyPush 5, ⟨some '<', 0, false⟩] after
      ∧ after.modes.kittyKeyboardEventTypes = true ∧ eventTypes after.client.flags = true := by
  have run : Run (Guarded PopsShallow (Takes Keyboard.record)) {}
      [kittyPush 7, kittyPush 5, ⟨some '<',0,false⟩] _ :=
    .cons ⟨nofun,rfl⟩ (.cons ⟨nofun,rfl⟩ (.cons ⟨fun _ => by decide,rfl⟩ (.nil _)))
  exact ⟨_,run,rfl,(event_types_sound_until_deep_pop _).2 _ run rfl⟩

/-- The ninth push is dropped, so the pop pairs with the eighth. -/
theorem dropped_push_restores_event_types : ∃ after, Run (Takes Keyboard.record) {}
        (List.replicate 7 (kittyPush 2) ++ [kittyPush 0, kittyPush 0, ⟨some '<', 0, false⟩]) after
      ∧ after.modes.kittyKeyboardEventTypes = true ∧ eventTypes after.client.flags = false :=
  ⟨_,run_of_execute rfl,rfl,rfl⟩

end TermloopKitty

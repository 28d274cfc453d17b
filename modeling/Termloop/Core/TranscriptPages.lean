import Mathlib.Algebra.GroupWithZero.Nat
import Termloop.Core.Workflow

/-!
Reading a Project's companion transcript page by page. A page ends for its count, for its
bytes or for lack of messages, and names the sequence below which the next one goes on.
Stored transcripts count the messages of every Project from one.
-/
namespace TermloopTranscript
open TermloopSaturating TermloopText List

def maxTranscriptPage : Nat := 100
def maxTranscriptPageEncodedBytes : Nat := 3 * 1024 * 1024
def companionTranscriptHardMessages : Nat := 10000
def companionTranscriptHardBytes : Nat := 50 * 1024 * 1024

structure CompanionMessage (Body : Type) where
  (id projectId : String)
  sequence : Nat
  body : Body

/-- The checks of the other fields, and the lengths of the encoded projection and records. -/
structure Encoding (Body : Type) where
  bodyIsValid : Body → Bool
  projected : CompanionMessage Body → Nat
  stored : List (CompanionMessage Body) → Nat

inductive CoreError where
  | notFound
  | invalidParams (field : String)

structure TranscriptPage (Body : Type) where
  messages : List (CompanionMessage Body)
  nextBeforeSequence : Option Nat

variable {Body : Type} (encoding : Encoding Body) (projectIds : List String)

def CompanionMessage.isValid (message : CompanionMessage Body) : Bool :=
  !isBlank message.id && !isBlank message.projectId && decide (message.sequence > 0)
    && encoding.bodyIsValid message.body

def sequencesAreInvalid : List String → (String → Nat) → List (CompanionMessage Body) → Bool
  | _, _, [] => false
  | messageIds, expected, message :: rest =>
    if !message.isValid encoding || !projectIds.contains message.projectId
        || messageIds.contains message.id || message.sequence != expected message.projectId then
      true
    else if expected message.projectId = u64Max then true
    else
      sequencesAreInvalid (message.id :: messageIds)
        (Function.update expected message.projectId (expected message.projectId + 1)) rest

def ofProject (projectId : String) (messages : List (CompanionMessage Body)) :
    List (CompanionMessage Body) :=
  messages.filter (·.projectId == projectId)

def companionRecordsAreInvalid (messages : List (CompanionMessage Body)) : Bool :=
  sequencesAreInvalid encoding projectIds [] (fun _ => 1) messages
    || messages.any fun message =>
      decide ((ofProject message.projectId messages).length > companionTranscriptHardMessages)
        || decide (encoding.stored (ofProject message.projectId messages)
          > companionTranscriptHardBytes)

/-- The messages taken, whether one of them was too large, and what the iterator has left. -/
def takePage : Nat → Nat → List (CompanionMessage Body) →
    List (CompanionMessage Body) × Bool × List (CompanionMessage Body)
  | 0, _, matching => ([], false, matching)
  | _ + 1, _, [] => ([], false, [])
  | room + 1, encodedBytes, message :: rest =>
    let bytes := saturatingAdd encodedBytes (encoding.projected message)
    if bytes > maxTranscriptPageEncodedBytes then ([], true, rest)
    else
      let (messages, stoppedForBytes, left) := takePage room bytes rest
      (message :: messages, stoppedForBytes, left)

def listCompanionTranscript (messages : List (CompanionMessage Body)) (projectId : String)
    (beforeSequence limit : Option Nat) : Except CoreError (TranscriptPage Body) :=
  if !projectIds.contains projectId then .error .notFound
  else
    match limit.filter fun value => decide (1 ≤ value ∧ value ≤ maxTranscriptPage) with
    | none => .error (.invalidParams "limit")
    | some limit =>
      let (page, stoppedForBytes, left) := takePage encoding limit 0
        (messages.reverse.filter fun message => message.projectId == projectId
          && beforeSequence.all fun before => decide (message.sequence < before))
      let hasMore := stoppedForBytes || !left.isEmpty
      .ok ⟨page, if hasMore then page.getLast?.map (·.sequence) else none⟩

variable (messages : List (CompanionMessage Body)) (projectId : String) (limit : Nat) in
/-- Following `nextBeforeSequence` until it is null. -/
inductive Reads : Option Nat → List (TranscriptPage Body) → Prop where
  | last {before : Option Nat} {page : TranscriptPage Body}
      (answered : listCompanionTranscript encoding projectIds messages projectId before
        (some limit) = .ok page) (ends : page.nextBeforeSequence = none) : Reads before [page]
  | more {before : Option Nat} {page : TranscriptPage Body} {sequence : Nat}
      {pages : List (TranscriptPage Body)}
      (answered : listCompanionTranscript encoding projectIds messages projectId before
        (some limit) = .ok page) (next : page.nextBeforeSequence = some sequence)
      (rest : Reads (some sequence) pages) : Reads before (page :: pages)

variable {encoding} {projectIds} {messages : List (CompanionMessage Body)} {pid : String}

theorem sequences_counted
    (fine : sequencesAreInvalid encoding projectIds messageIds want messages = false) :
    (ofProject pid messages).map (·.sequence) = range' (want pid) (ofProject pid messages).length
      ∧ (pid ∉ projectIds → ofProject pid messages = []) := by
  induction messages generalizing messageIds want with
  | nil => exact ⟨rfl,fun _ => rfl⟩
  | cons msg rest ih =>
    rw [sequencesAreInvalid] at fine
    split at fine
    · cases fine
    next accepted =>
    split at fine
    · cases fine
    simp only [Bool.or_eq_true, not_or, Bool.not_eq_true', Bool.not_eq_false, contains_iff_mem,
      bne_iff_ne, ne_eq, not_not] at accepted
    obtain ⟨⟨⟨-,known⟩,-⟩,counted⟩ := accepted
    obtain ⟨later,none⟩ := ih fine
    by_cases own : msg.projectId = pid
    · subst own
      rw [Function.update_self] at later
      have first : ofProject msg.projectId (msg :: rest) =
          msg :: ofProject msg.projectId rest := filter_cons_of_pos (by simp)
      rw [first, map_cons, later, length_cons, range'_succ, counted]
      exact ⟨rfl,fun unknown => absurd known unknown⟩
    · rw [Function.update_of_ne (Ne.symm own)] at later
      have first : ofProject pid (msg :: rest) = ofProject pid rest :=
        filter_cons_of_neg (by simpa using own)
      rw [first]
      exact ⟨later,none⟩

/-- The messages of the Project, newest first. -/
def newestFirst (projectId : String) (messages : List (CompanionMessage Body)) :
    List (CompanionMessage Body) := (ofProject projectId messages).reverse

theorem newestFirst_decreasing
    (accepted : companionRecordsAreInvalid encoding projectIds messages = false) :
    (newestFirst pid messages).Pairwise fun newer older =>
      older.sequence < newer.sequence := by
  have counted := (@sequences_counted _ _ _ _ pid _ _ (Bool.or_eq_false_iff.mp accepted).1).1
  have rising : ((ofProject pid messages).map (·.sequence)).Pairwise (· < ·) := by
    rw [counted]
    exact pairwise_lt_range'
  exact pairwise_reverse.mpr (pairwise_map.mp rising)

theorem takePage_spec (room : Nat) (matching : List (CompanionMessage Body))
    (fits : encodedBytes ≤ maxTranscriptPageEncodedBytes)
    (taken : takePage encoding room encodedBytes matching = (page, stopped, left)) :
    ∃ skipped, matching = page ++ (skipped ++ left) ∧ (stopped ↔ skipped ≠ []) ∧ page.length ≤ room
      ∧ encodedBytes + (page.map encoding.projected).sum ≤ maxTranscriptPageEncodedBytes
      ∧ (room ≠ 0 → page = [] → ∀ msg ∈ matching.head?,
          maxTranscriptPageEncodedBytes < encodedBytes + encoding.projected msg) := by
  induction room generalizing encodedBytes matching page with
  | zero =>
    cases taken
    exact ⟨[],rfl,by simp,Nat.le_refl _,fits,fun none => absurd rfl none⟩
  | succ room ih =>
    cases matching with
    | nil =>
      cases taken
      exact ⟨[],rfl,by simp,Nat.zero_le _,fits,by simp⟩
    | cons msg rest =>
      rw [takePage] at taken
      dsimp only at taken
      split at taken
      next large =>
        cases taken
        refine ⟨[msg],rfl,by simp,Nat.zero_le _,fits,fun _ _ first same => ?_⟩
        cases same
        simp only [saturatingAdd] at large
        omega
      next small =>
        generalize later : takePage encoding room _ rest = ans at taken
        obtain ⟨others,ends,remaining⟩ := ans
        cases taken
        have exact_ : saturatingAdd encodedBytes (encoding.projected msg) =
            encodedBytes + encoding.projected msg := by
          simp only [saturatingAdd, maxTranscriptPageEncodedBytes, u64Max] at small ⊢
          omega
        rw [exact_] at later small
        obtain ⟨skipped,shape,stops,short,bytes,-⟩ := ih rest (Nat.le_of_not_lt small) later
        refine ⟨skipped,by rw [shape]; rfl,stops,Nat.succ_le_succ short,?_,by simp⟩
        rw [map_cons, sum_cons, ← Nat.add_assoc]
        exact bytes

section Reading
variable {done rest : List (CompanionMessage Body)} {limit : Nat}

theorem matching_rest
    (falling : (done ++ rest).Pairwise fun newer older => older.sequence < newer.sequence) :
    ((done ++ rest).filter fun msg => (done.getLast?.map (·.sequence)).all fun pre =>
      decide (msg.sequence < pre)) = rest := by
  obtain ⟨within,-,across⟩ := pairwise_append.mp falling
  rcases eq_nil_or_concat' done with none | ⟨earlier,last,shape⟩
  · subst none
    exact filter_eq_self.mpr fun _ _ => rfl
  subst shape
  have passed : ∀ msg ∈ earlier ++ [last], ¬ msg.sequence < last.sequence := by
    intro msg mem
    rcases mem_append.mp mem with newer | same
    · exact Nat.lt_asymm ((pairwise_append.mp within).2.2 msg newer last mem_cons_self)
    · rw [mem_singleton.mp same]
      exact Nat.lt_irrefl _
  rw [getLast?_concat, Option.map_some, filter_append,
    filter_eq_nil_iff.mpr (by simpa using passed), nil_append]
  exact filter_eq_self.mpr fun msg mem =>
    decide_eq_true (across last (mem_append_right _ mem_cons_self) msg mem)

/-- What a page may hold. -/
def Bounded (encoding : Encoding Body) (limit : Nat) (page : TranscriptPage Body) : Prop :=
  page.messages.length ≤ limit
    ∧ (page.messages.map encoding.projected).sum ≤ maxTranscriptPageEncodedBytes

theorem rest_is_read (known : pid ∈ projectIds) (room : 1 ≤ limit ∧ limit ≤ maxTranscriptPage)
    (falling : (newestFirst pid messages).Pairwise fun newer older =>
      older.sequence < newer.sequence)
    (each : ∀ msg ∈ messages, encoding.projected msg ≤ maxTranscriptPageEncodedBytes)
    (shape : newestFirst pid messages = done ++ rest) :
    ∃ pages, Reads encoding projectIds messages pid limit (done.getLast?.map (·.sequence)) pages
      ∧ (pages.map (·.messages)).flatten = rest ∧ ∀ page ∈ pages, Bounded encoding limit page := by
  induction size : rest.length using Nat.strongRecOn generalizing done rest with
  | _ count ih =>
  have matching : (messages.reverse.filter fun msg => msg.projectId == pid
      && (done.getLast?.map (·.sequence)).all fun pre =>
        decide (msg.sequence < pre)) = rest := by
    simp only [Bool.and_comm (_ == pid), ← filter_filter, filter_reverse]
    rw [← filter_reverse]
    exact (congrArg _ shape).trans (matching_rest (shape ▸ falling))
  generalize taken : takePage encoding limit 0 rest = ans
  obtain ⟨page,stopped,left⟩ := ans
  obtain ⟨skipped,split,stops,short,bytes,stuck⟩ := takePage_spec limit rest (Nat.zero_le _) taken
  have bounded : ∀ next, Bounded encoding limit ⟨page,next⟩ :=
    fun _ => ⟨short,by rwa [Nat.zero_add] at bytes⟩
  have answered : listCompanionTranscript encoding projectIds messages pid
      (done.getLast?.map (·.sequence)) (some limit) =
      .ok ⟨page,if stopped || !left.isEmpty then page.getLast?.map (·.sequence) else none⟩ := by
    have mem : (!projectIds.contains pid) = false := by simpa using known
    rw [listCompanionTranscript, mem, Option.filter_some, if_pos (decide_eq_true room)]
    simp only [matching, Bool.false_eq_true, if_false]
    rw [taken]
  by_cases ends : skipped ++ left = []
  · obtain ⟨none,empty⟩ := append_eq_nil_iff.mp ends
    have done_ : stopped = false := by simpa [none] using stops
    rw [done_, empty] at answered
    refine ⟨_,.last answered rfl,?_,forall_mem_singleton.mpr (bounded _)⟩
    rw [split, ends]
    simp
  · have more : (stopped || !left.isEmpty) := by
      rw [Bool.or_eq_true, stops]
      by_contra none
      simp_all
    have some_ : page ≠ [] := by
      intro none
      obtain ⟨first,others,behind⟩ := exists_cons_of_ne_nil ends
      have here : first ∈ rest.head? := by
        rw [split, none, behind]
        rfl
      have large := stuck (by omega) none first here
      have mem : first ∈ messages := by
        have : first ∈ newestFirst pid messages :=
          shape ▸ mem_append_right _ (mem_of_mem_head? here)
        exact (mem_filter.mp (mem_reverse.mp this)).1
      have small := each first mem
      omega
    rw [more, if_pos rfl] at answered
    have next : page.getLast?.map (·.sequence) = some (page.getLast some_).sequence := by
      rw [getLast?_eq_some_getLast some_, Option.map_some]
    have fewer : (skipped ++ left).length < count := by
      rw [← size, split, @length_append _ page]
      have := length_pos_iff.mpr some_
      omega
    obtain ⟨pages,reads,all,fine⟩ := ih _ fewer (by rw [shape, split, append_assoc]) rfl
    rw [getLast?_append_of_ne_nil _ some_, next] at reads
    refine ⟨_,.more answered next reads,?_,forall_mem_cons.mpr ⟨bounded _,fine⟩⟩
    rw [map_cons, flatten_cons, all, split]

end Reading

/-- Following the continuation from the newest message reads every message of the Project
    once, newest first; an unknown Project is refused and has none. -/
theorem transcript_pages_are_complete (encoding : Encoding Body) (projectIds : List String)
    (messages : List (CompanionMessage Body)) (projectId : String) (limit : Nat)
    (accepted : companionRecordsAreInvalid encoding projectIds messages = false)
    (room : 1 ≤ limit ∧ limit ≤ maxTranscriptPage) (each : ∀ message ∈ messages,
      encoding.projected message ≤ maxTranscriptPageEncodedBytes) :
    (projectId ∉ projectIds → ofProject projectId messages = []
        ∧ listCompanionTranscript encoding projectIds messages projectId none (some limit) =
          .error .notFound)
      ∧ (projectId ∈ projectIds →
        ∃ pages, Reads encoding projectIds messages projectId limit none pages
          ∧ (pages.map (·.messages)).flatten = (ofProject projectId messages).reverse
          ∧ ((pages.map (·.messages)).flatten.map (·.sequence)).Pairwise (· > ·)
          ∧ ∀ page ∈ pages, Bounded encoding limit page) := by
  constructor
  · intro unknown
    refine ⟨(sequences_counted (Bool.or_eq_false_iff.mp accepted).1).2 unknown,?_⟩
    rw [listCompanionTranscript, if_pos (by simpa using unknown)]
  · intro known
    have falling := @newestFirst_decreasing _ _ _ _ projectId accepted
    obtain ⟨pages,reads,all,fine⟩ := @rest_is_read _ _ _ _ _ [] _ _ known room falling each rfl
    exact ⟨pages,reads,all,all ▸ pairwise_map.mpr falling,fine⟩

def largeEncoding : Encoding Unit := ⟨fun _ => true, fun _ => 2 * 1024 * 1024, fun _ => 0⟩

def twoMessages : List (CompanionMessage Unit) := [⟨"a", "project", 1, ()⟩, ⟨"b", "project", 2, ()⟩]

theorem two_large_messages_are_read :
    companionRecordsAreInvalid largeEncoding ["project"] twoMessages = false
      ∧ ∃ pages, Reads largeEncoding ["project"] twoMessages "project" 100 none pages
        ∧ (pages.map (·.messages)).flatten = twoMessages.reverse := by
  have accepted : companionRecordsAreInvalid largeEncoding ["project"] twoMessages = false := by
    decide
  obtain ⟨pages,reads,all,-⟩ := (transcript_pages_are_complete largeEncoding ["project"] twoMessages
    "project" 100 accepted (by decide) fun _ _ => show 2 * 1024 * 1024 ≤ 3 * 1024 * 1024 by omega).2
    mem_cons_self
  exact ⟨accepted,pages,reads,all⟩

end TermloopTranscript

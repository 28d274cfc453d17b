import Mathlib.Data.List.DropRight
import Termloop.Lib.Text
import Termloop.Terminal.RecentReplay

/-!
The text kept of an ordinary shell: finished lines under a byte and a line limit, and the line
being edited. Where the source would loop forever or underflow there is no answer here.
-/
namespace TermloopShellHistory
open TermloopText List

abbrev Text : Type := List Char

def maxTextBytes : Nat := 960 * 1024
def maxLines : Nat := 10000
def maxLineChars : Nat := 8192

def newShell : Text := "--- New shell after application restart ---".toList
def previousOutput : Text := "--- Previous terminal output ---".toList
def noSavedOutput : Text := "[No saved terminal output is available]".toList
def earlierOmitted : Text := "[Earlier terminal output omitted]".toList
def fullScreenOmitted : Text := "[Full-screen application output omitted]".toList

def trimEnd (text : Text) : Text := text.rdropWhile isWhitespace

def utf8Len (text : Text) : Nat := (text.map Char.utf8Size).sum

/-- Every line with its ending. -/
def joined (ending : Text) (lines : List Text) : Text := lines.flatMap (· ++ ending)

structure Transcript where
  lines : List Text := []
  bytes : Nat := 0
  line : Text := []
  cursor : Nat := 0
  alternate : Bool := false
  truncated : Bool := false
  cwd : Option String := none

/-- Room is left for the line being edited and for a notice. -/
def lineBudget : Nat := maxTextBytes - maxLineChars * 4 - 128

/-- The loop that drops the oldest lines. -/
def evict : List Text → Nat → Bool → Option (List Text × Nat × Bool)
  | [], bytes, truncated => if bytes > lineBudget then none else some ([], bytes, truncated)
  | line :: rest, bytes, truncated =>
    if bytes > lineBudget ∨ rest.length + 1 > maxLines then
      if bytes < utf8Len line + 1 then none
      else evict rest (bytes - (utf8Len line + 1)) true
    else some (line :: rest, bytes, truncated)

namespace Transcript

def appendLine (t : Transcript) (line : Text) : Option Transcript :=
  (evict (t.lines ++ [line]) (t.bytes + (utf8Len line + 1)) t.truncated).map
    fun (lines, bytes, truncated) => { t with lines, bytes, truncated }

def finishLine (t : Transcript) : Option Transcript :=
  (t.appendLine (trimEnd t.line)).map ({ · with line := [], cursor := 0 })

def put (t : Transcript) (c : Char) : Transcript :=
  let line := t.line ++ replicate (t.cursor + 1 - t.line.length) ' '
  { t with line := line.set t.cursor c, cursor := t.cursor + 1 }

def printChar (t : Transcript) (c : Char) : Option Transcript :=
  if t.alternate || isControl c then some t
  else if t.cursor ≥ maxLineChars then
    t.finishLine.map fun next => { next with truncated := true }.put c
  else some (t.put c)

def snapshot (t : Transcript) : Text :=
  (if t.truncated then earlierOmitted ++ ['\n'] else []) ++ joined ['\n'] t.lines ++ t.line

def execute (t : Transcript) (byte : UInt8) : Option Transcript :=
  if t.alternate then some t
  else
    match Char.ofUInt8 byte with
    | '\n' => t.finishLine
    | '\r' => some { t with cursor := 0 }
    | '\x08' => some { t with cursor := t.cursor - 1 }
    | '\t' => (replicate (8 - t.cursor % 8) ' ').foldlM printChar t
    | _ => some t

def oscDispatch (t : Transcript) (params : List (List UInt8)) : Transcript :=
  if t.alternate ∨ params.length < 3 ∨ params[0]? ≠ some [0x39] ∨ params[1]? ≠ some [0x39] then t
  else
    let bytes := [0x3b].intercalate (params.drop 2)
    if bytes.length > 4096 then t
    else
      match String.fromUTF8? ⟨bytes.toArray⟩ with
      | some cwd => if cwd = "" ∨ cwd.toList.any isControl then t else { t with cwd := some cwd }
      | none => t

/-- The sequences that move the cursor or change the line. -/
def edit (t : Transcript) (value : Nat) (action : Char) : Transcript :=
  match action with
  | 'C' => { t with cursor := min (t.cursor + max value 1) (maxLineChars - 1) }
  | 'D' => { t with cursor := t.cursor - max value 1 }
  | 'G' | '\x60' => { t with cursor := min (value - 1) (maxLineChars - 1) }
  | 'K' =>
    match value with
    | 0 => { t with line := t.line.take t.cursor }
    | 1 =>
      { t with
        line := (t.line.take (t.cursor + 1)).map (fun _ => ' ') ++ t.line.drop (t.cursor + 1) }
    | 2 => { t with line := [] }
    | _ => t
  | 'P' =>
    let start := min t.cursor t.line.length
    { t with line := t.line.take start ++ t.line.drop (min (start + max value 1) t.line.length) }
  | _ => t

def csiDispatch (t : Transcript) (params : List (List UInt16)) (intermediates : List UInt8)
    (ignore : Bool) (action : Char) : Option Transcript :=
  let value := ((params.head?.bind (·.head?)).getD 0).toNat
  if ignore then some t
  else if intermediates = [0x3f] ∧ (action = 'h' ∨ action = 'l')
      ∧ params.any (fun param => [some 47, some 1047, some 1049].contains param.head?) then
    (if action = 'h' ∧ t.alternate = false then
      (if t.line = [] then some t else t.finishLine).bind (·.appendLine fullScreenOmitted)
    else some t).map ({ · with alternate := decide (action = 'h') })
  else if t.alternate ∨ intermediates ≠ [] then some t
  else some (t.edit value action)

end Transcript

inductive Callback where
  | print (c : Char)
  | execute (byte : UInt8)
  | oscDispatch (params : List (List UInt8))
  | csiDispatch (params : List (List UInt16)) (intermediates : List UInt8) (ignore : Bool)
      (action : Char)

def perform (t : Transcript) : Callback → Option Transcript
  | .print c => t.printChar c
  | .execute byte => t.execute byte
  | .oscDispatch params => some (t.oscDispatch params)
  | .csiDispatch params intermediates ignore action =>
    t.csiDispatch params intermediates ignore action

def stripCarriage (line : Text) : Text :=
  if line.getLast? = some '\r' then line.dropLast else line

def linesFrom (line : Text) : Text → List Text
  | [] => if line = [] then [] else [line]
  | c :: rest =>
    if c = '\n' then stripCarriage line :: linesFrom [] rest else linesFrom (line ++ [c]) rest

/-- `str::lines`. -/
def linesOf (text : Text) : List Text := linesFrom [] text

def notices : List Text := [newShell, previousOutput, noSavedOutput]

def restoreLine (t : Transcript) (line : Text) : Option Transcript :=
  if line ∈ notices then some t
  else ((line.filter (!isControl ·)).foldlM Transcript.printChar t).bind Transcript.finishLine

def restored (previous : Text) : Option Transcript := (linesOf previous).foldlM restoreLine {}

def crlf : Text := ['\r', '\n']

def widened (text : Text) : Text := text.flatMap fun c => if c = '\n' then crlf else [c]

def replayPrefix (t : Transcript) : Text :=
  if t.snapshot.all isWhitespace then []
  else previousOutput ++ crlf ++ widened t.snapshot ++ newShell ++ crlf

def size (lines : List Text) : Nat := (lines.map (utf8Len · + 1)).sum

def Plain (text : Text) : Prop := ∀ c ∈ text, isControl c = false

def Tidy (line : Text) : Prop :=
  Plain line ∧ line.length ≤ maxLineChars ∧ trimEnd line = line

def Kept (lines : List Text) (bytes : Nat) : Prop :=
  bytes = size lines ∧ bytes ≤ lineBudget ∧ lines.length ≤ maxLines ∧ ∀ line ∈ lines, Tidy line

def Editing (line : Text) (cursor : Nat) : Prop :=
  Plain line ∧ line.length ≤ maxLineChars ∧ cursor ≤ maxLineChars

def Sound (t : Transcript) : Prop := Kept t.lines t.bytes ∧ Editing t.line t.cursor

section Steps
variable {t : Transcript} {lines : List Text} {line : Text} {c : Char}

theorem size_snoc : size (lines ++ [line]) = size lines + (utf8Len line + 1) := by
  simp [size]

theorem evict_fits (bounded : size lines ≤ lineBudget) (few : lines.length ≤ maxLines) :
    evict lines (size lines) truncated = some (lines, size lines, truncated) := by
  cases lines with
  | nil => exact if_neg (Nat.not_lt.mpr bounded)
  | cons line rest => exact if_neg (not_or.mpr ⟨Nat.not_lt.mpr bounded,Nat.not_lt.mpr few⟩)

theorem evict_first (large : size (line :: lines) > lineBudget ∨ lines.length + 1 > maxLines) :
    evict (line :: lines) (size (line :: lines)) truncated = evict lines (size lines) true := by
  have total : size (line :: lines) = utf8Len line + 1 + size lines := by simp [size]
  rw [evict, if_pos large, if_neg (by omega), total, Nat.add_sub_cancel_left]

/-- The counted bytes are those of the lines, so the loop ends and nothing underflows. -/
theorem evict_ends (lines : List Text) (truncated : Bool) :
    ∃ kept flag, evict lines (size lines) truncated = some (kept, size kept, flag)
      ∧ kept <:+ lines ∧ size kept ≤ lineBudget ∧ kept.length ≤ maxLines := by
  induction lines generalizing truncated with
  | nil => exact ⟨[],truncated,rfl,suffix_refl _,Nat.zero_le _,Nat.zero_le _⟩
  | cons line rest ih =>
    by_cases large : size (line :: rest) > lineBudget ∨ rest.length + 1 > maxLines
    · rw [evict_first large]
      obtain ⟨kept,flag,done,inside,bounds⟩ := ih true
      exact ⟨kept,flag,done,inside.trans (suffix_cons _ _),bounds⟩
    · rw [not_or, Nat.not_lt, Nat.not_lt] at large
      exact ⟨_,_,evict_fits large.1 large.2,suffix_refl _,large⟩

theorem appendLine_kept (kept : Kept t.lines t.bytes) (tidy : Tidy line) :
    ∃ lines bytes truncated, t.appendLine line = some { t with lines, bytes, truncated }
      ∧ Kept lines bytes := by
  obtain ⟨counted,-,-,old⟩ := kept
  obtain ⟨lines,truncated,done,inside,bounded,few⟩ := evict_ends (t.lines ++ [line]) t.truncated
  rw [size_snoc, ← counted] at done
  rw [Transcript.appendLine, done]
  refine ⟨_,_,_,rfl,rfl,bounded,few,fun other mem => ?_⟩
  rcases mem_append.mp (inside.subset mem) with pre | new
  · exact old other pre
  · exact mem_singleton.mp new ▸ tidy

theorem finishLine_kept (sound : Sound t) : ∃ lines bytes truncated, t.finishLine =
        some { t with lines, bytes, truncated, line := [], cursor := 0 }
      ∧ Kept lines bytes := by
  obtain ⟨kept,plain,short,-⟩ := sound
  have inside : trimEnd t.line <+: t.line := rdropWhile_prefix _ _
  obtain ⟨lines,bytes,truncated,done,after⟩ := appendLine_kept kept
    ⟨fun c mem => plain c (inside.subset mem),inside.length_le.trans short,
      rdropWhile_idempotent _ _⟩
  rw [Transcript.finishLine, done]
  exact ⟨lines,bytes,truncated,rfl,after⟩

theorem empty_editing : Editing [] 0 := ⟨nofun,Nat.zero_le _,Nat.zero_le _⟩

theorem put_sound (sound : Sound t) (below : t.cursor < maxLineChars) (plain : isControl c = false) :
    Sound (t.put c) := by
  obtain ⟨kept,old,short,-⟩ := sound
  refine ⟨kept,fun other mem => ?_,?_,below⟩
  · rcases mem_or_eq_of_mem_set mem with known | rfl
    · rcases mem_append.mp known with pre | blank
      · exact old other pre
      · rw [eq_of_mem_replicate blank]
        rfl
    · exact plain
  · simp only [Transcript.put, length_set, length_append, length_replicate]
    omega

theorem printChar_sound (t : Transcript) (c : Char) (sound : Sound t ∧ t.alternate = mode) :
    ∃ next ∈ t.printChar c, Sound next ∧ next.alternate = mode := by
  unfold Transcript.printChar
  split
  · exact ⟨t,rfl,sound⟩
  next shown =>
    rw [Bool.not_eq_true, Bool.or_eq_false_iff] at shown
    split
    · obtain ⟨lines,bytes,truncated,done,kept⟩ := finishLine_kept sound.1
      rw [done]
      refine ⟨_,rfl,put_sound ⟨kept,empty_editing⟩ (Nat.zero_lt_succ _) shown.2,sound.2⟩
    next below => exact ⟨_,rfl,put_sound sound.1 (Nat.not_le.mp below) shown.2,sound.2⟩

/-- A loop in which every pass has an answer has one. -/
theorem foldlM_answers {step : Transcript → α → Option Transcript} {Inv : Transcript → Prop}
    (keep : ∀ t a, Inv t → ∃ next ∈ step t a, Inv next) (items : List α) (start : Inv t) :
    ∃ last ∈ items.foldlM step t, Inv last := by
  induction items generalizing t with
  | nil => exact ⟨t,rfl,start⟩
  | cons item rest ih =>
    obtain ⟨next,done,inv⟩ := keep t item start
    rw [foldlM_cons, done]
    exact ih inv

theorem execute_sound (sound : Sound t) (byte : UInt8) : ∃ next ∈ t.execute byte, Sound next := by
  obtain ⟨kept,plain,short,cursor⟩ := id sound
  unfold Transcript.execute
  split
  · exact ⟨t,rfl,sound⟩
  split
  · obtain ⟨_,_,_,done,after⟩ := finishLine_kept sound
    exact ⟨_,done,after,empty_editing⟩
  · exact ⟨_,rfl,kept,plain,short,Nat.zero_le _⟩
  · exact ⟨_,rfl,kept,plain,short,(Nat.sub_le _ _).trans cursor⟩
  · obtain ⟨next,done,after,-⟩ := foldlM_answers printChar_sound _ ⟨sound,rfl⟩
    exact ⟨next,done,after⟩
  · exact ⟨t,rfl,sound⟩

theorem edit_sound (sound : Sound t) : Sound (t.edit value action) := by
  obtain ⟨kept,plain,short,cursor⟩ := id sound
  have limit : ∀ place, min place (maxLineChars - 1) ≤ maxLineChars := by omega
  unfold Transcript.edit
  split
  · exact ⟨kept,plain,short,limit _⟩
  · exact ⟨kept,plain,short,(Nat.sub_le _ _).trans cursor⟩
  · exact ⟨kept,plain,short,limit _⟩
  · exact ⟨kept,plain,short,limit _⟩
  · split
    · exact ⟨kept,fun c mem => plain c (mem_of_mem_take mem),
        (length_take_le' _ _).trans short,cursor⟩
    · refine ⟨kept,fun c mem => ?_,?_,cursor⟩
      · rcases mem_append.mp mem with blank | old
        · obtain ⟨_,_,rfl⟩ := mem_map.mp blank
          rfl
        · exact plain c (mem_of_mem_drop old)
      · simp only [length_append, length_map, length_take, length_drop]
        omega
    · exact ⟨kept,nofun,Nat.zero_le _,cursor⟩
    · exact sound
  · refine ⟨kept,fun c mem => plain c ?_,?_,cursor⟩
    · exact (mem_append.mp mem).elim mem_of_mem_take mem_of_mem_drop
    · simp only [length_append, length_take, length_drop]
      omega
  · exact sound

theorem fullScreenOmitted_tidy : Tidy fullScreenOmitted := by
  unfold fullScreenOmitted
  rw [String.toList_ofList]
  exact ⟨by simp [Plain, isControl],by decide +kernel⟩

theorem csiDispatch_sound (sound : Sound t) :
    ∃ next ∈ t.csiDispatch params intermediates ignore action, Sound next := by
  unfold Transcript.csiDispatch
  dsimp only
  split
  · exact ⟨t,rfl,sound⟩
  split
  · split
    · obtain ⟨now,finished,kept,editing⟩ :
          ∃ now ∈ (if t.line = [] then some t else t.finishLine), Sound now := by
        split
        · exact ⟨t,rfl,sound⟩
        · obtain ⟨_,_,_,done,after⟩ := finishLine_kept sound
          exact ⟨_,done,after,empty_editing⟩
      obtain ⟨_,_,_,done,after⟩ := appendLine_kept kept fullScreenOmitted_tidy
      rw [finished, Option.bind_some, done]
      exact ⟨_,rfl,after,editing⟩
    · exact ⟨_,rfl,sound⟩
  split
  · exact ⟨t,rfl,sound⟩
  · exact ⟨_,rfl,edit_sound sound⟩

theorem perform_sound (t : Transcript) (callback : Callback) (sound : Sound t) :
    ∃ next ∈ perform t callback, Sound next := by
  cases callback with
  | print c =>
    obtain ⟨next,done,after,-⟩ := printChar_sound t c ⟨sound,rfl⟩
    exact ⟨next,done,after⟩
  | execute byte => exact execute_sound sound byte
  | oscDispatch params =>
    refine ⟨_,rfl,?_⟩
    unfold Transcript.oscDispatch
    dsimp only
    repeat' split
    all_goals exact sound
  | csiDispatch params intermediates ignore action =>
    exact csiDispatch_sound sound

theorem fresh_sound : Sound {} :=
  ⟨⟨rfl,Nat.zero_le _,Nat.zero_le _,nofun⟩,empty_editing⟩

end Steps

section Snapshots
variable {t : Transcript} {lines : List Text} {line : Text}

theorem earlierOmitted_tidy : Tidy earlierOmitted ∧ utf8Len earlierOmitted = 33 := by
  unfold earlierOmitted
  rw [String.toList_ofList]
  exact ⟨⟨by simp [Plain, isControl],by decide +kernel⟩,by decide +kernel⟩

theorem banners_plain : (Plain newShell ∧ Plain previousOutput)
    ∧ utf8Len newShell = 43 ∧ utf8Len previousOutput = 32 := by
  unfold newShell previousOutput
  rw [String.toList_ofList, String.toList_ofList]
  exact ⟨by simp [Plain, isControl],by decide +kernel⟩

/-- The finished lines of a snapshot. -/
def shown (t : Transcript) : List Text :=
  (if t.truncated then [earlierOmitted] else []) ++ t.lines

theorem snapshot_eq : t.snapshot = joined ['\n'] (shown t) ++ t.line := by
  unfold Transcript.snapshot shown joined
  split <;> simp

theorem shown_kept (kept : Kept t.lines t.bytes) :
    size (shown t) ≤ lineBudget + 34 ∧ (shown t).length ≤ maxLines + 1
      ∧ ∀ line ∈ shown t, Tidy line := by
  obtain ⟨counted,bounded,few,tidy⟩ := kept
  rw [counted] at bounded
  unfold shown
  split
  · have total : size (earlierOmitted :: t.lines) = utf8Len earlierOmitted + 1 + size t.lines := by
      simp [size]
    rw [earlierOmitted_tidy.2] at total
    exact ⟨by rw [singleton_append]; omega,Nat.succ_le_succ few,
      forall_mem_cons.mpr ⟨earlierOmitted_tidy.1,tidy⟩⟩
  · exact ⟨Nat.le_add_right_of_le bounded,Nat.le_succ_of_le few,tidy⟩

theorem utf8Len_append : utf8Len (first ++ second) = utf8Len first + utf8Len second := by
  simp [utf8Len]

theorem utf8Len_joined (ending : Text) : utf8Len (joined ending lines) + lines.length =
    size lines + lines.length * utf8Len ending := by
  induction lines with
  | nil => simp [joined, utf8Len, size]
  | cons line rest ih =>
    simp only [joined, flatMap_cons, utf8Len_append, size, map_cons, sum_cons, length_cons,
      Nat.add_one_mul] at ih ⊢
    omega

theorem utf8Len_le (line : Text) : utf8Len line ≤ line.length * 4 := by
  induction line with
  | nil => rfl
  | cons c rest ih =>
    have := c.utf8Size_le_four
    simp only [utf8Len, map_cons, sum_cons, length_cons] at ih ⊢
    omega

theorem snapshot_bounded (sound : Sound t) : utf8Len t.snapshot ≤ maxTextBytes := by
  have total := @utf8Len_joined (shown t) ['\n']
  have last := utf8Len_le t.line
  have short := sound.2.2.1
  have one : utf8Len ['\n'] = 1 := rfl
  have finished := (shown_kept sound.1).1
  have room : lineBudget + 34 + maxLineChars * 4 ≤ maxTextBytes := by decide
  rw [one] at total
  rw [snapshot_eq, utf8Len_append]
  omega

theorem snapshot_plain (sound : Sound t) : ∀ c ∈ t.snapshot, isControl c → c = '\n' := by
  intro c mem control
  rw [snapshot_eq] at mem
  rcases mem_append.mp mem with finished | edited
  · obtain ⟨line,shows,inside⟩ := mem_flatMap.mp finished
    rcases mem_append.mp inside with plain | ending
    · cases control.symm.trans (((shown_kept sound.1).2.2 line shows).1 c plain)
    · exact mem_singleton.mp ending
  · cases control.symm.trans (sound.2.1 c edited)

/-- Between two restored lines. -/
def Idle (t : Transcript) : Prop :=
  Kept t.lines t.bytes ∧ t.line = [] ∧ t.cursor = 0 ∧ t.alternate = false

theorem Idle.sound (idle : Idle t) : Sound t := by
  obtain ⟨kept,empty,start,-⟩ := idle
  rw [Sound, empty, start]
  exact ⟨kept,empty_editing⟩

theorem restoreLine_idle (t : Transcript) (line : Text) (idle : Idle t) :
    ∃ next ∈ restoreLine t line, Idle next := by
  unfold restoreLine
  split
  · exact ⟨t,rfl,idle⟩
  · obtain ⟨printed,done,sound,primary⟩ :=
      foldlM_answers printChar_sound (line.filter (!isControl ·)) ⟨idle.sound,idle.2.2.2⟩
    obtain ⟨_,_,_,finished,kept⟩ := finishLine_kept sound
    rw [done, Option.bind_some, finished]
    exact ⟨_,rfl,kept,rfl,rfl,primary⟩

theorem fresh_idle : Idle {} := ⟨fresh_sound.1,rfl,rfl,rfl⟩

theorem replay_lines (tidy : ∀ line ∈ lines, Tidy line) :
    widened (joined ['\n'] lines) = joined crlf lines := by
  unfold widened joined
  rw [flatMap_assoc]
  refine flatMap_congr fun line mem => ?_
  rw [flatMap_append]
  refine congrArg (· ++ crlf) ?_
  conv_rhs => rw [← flatMap_singleton' line]
  refine flatMap_congr fun c inside => if_neg ?_
  rintro rfl
  cases (tidy line mem).1 _ inside

theorem replayPrefix_lines (idle : Idle t) : replayPrefix t = [] ∨
    replayPrefix t = joined crlf (previousOutput :: shown t ++ [newShell]) := by
  unfold replayPrefix
  split
  · exact .inl rfl
  · rw [snapshot_eq, idle.2.1, append_nil, replay_lines (shown_kept idle.1).2.2]
    simp [joined]

end Snapshots

/-- Every callback has an answer, whatever came before. -/
theorem shell_transcript_is_bounded (callbacks : List Callback) (previous : Text) :
    (∃ t ∈ callbacks.foldlM perform {},
      t.bytes = size t.lines ∧ t.line.length ≤ maxLineChars ∧ t.cursor ≤ maxLineChars
        ∧ utf8Len t.snapshot ≤ maxTextBytes ∧ ∀ c ∈ t.snapshot, isControl c = true → c = '\n')
      ∧ ∃ t ∈ restored previous, utf8Len (replayPrefix t) < TermloopReplay.maxRecentReplayBytes
          ∧ ∃ lines : List Text, replayPrefix t = joined crlf lines
            ∧ ∀ line ∈ lines, Plain line := by
  constructor
  · obtain ⟨t,done,sound⟩ := foldlM_answers perform_sound callbacks fresh_sound
    exact ⟨t,done,sound.1.1,sound.2.2.1,sound.2.2.2,snapshot_bounded sound, snapshot_plain sound⟩
  · obtain ⟨t,done,idle⟩ := foldlM_answers restoreLine_idle (linesOf previous) fresh_idle
    obtain ⟨⟨new,old⟩,newLen,oldLen⟩ := banners_plain
    refine ⟨t,done,?_⟩
    rcases replayPrefix_lines idle with empty | filled
    · rw [empty]
      exact ⟨by decide,[],rfl,nofun⟩
    · obtain ⟨bytes,count,tidy⟩ := shown_kept idle.1
      refine ⟨?_,_,filled,?_⟩
      · have total := @utf8Len_joined (previousOutput :: shown t ++ [newShell]) crlf
        have two : utf8Len crlf = 2 := rfl
        have room : lineBudget + maxLines + 200 < TermloopReplay.maxRecentReplayBytes := by decide
        rw [size_snoc, newLen, cons_append, size, map_cons, sum_cons, oldLen, ← size] at total
        simp only [length_append, length_cons, length_nil, two] at total
        rw [filled, cons_append]
        omega
      · intro line listed
        simp only [cons_append, mem_cons, mem_append, not_mem_nil, or_false] at listed
        rcases listed with rfl | kept | rfl
        · exact old
        · exact (tidy line kept).1
        · exact new

section Restarts
variable {t : Transcript} {lines done rest : List Text} {line : Text} {omitted : Bool}

theorem linesFrom_line {pre after : Text} (plain : Plain line) :
    linesFrom pre (line ++ '\n' :: after) = stripCarriage (pre ++ line) :: linesFrom [] after := by
  induction line generalizing pre with
  | nil => simp [linesFrom]
  | cons c line ih =>
    obtain ⟨own,others⟩ := forall_mem_cons.mp plain
    have other : c ≠ '\n' := by
      rintro rfl
      cases own
    rw [cons_append, linesFrom, if_neg other, ih others, append_assoc, singleton_append]

theorem linesOf_joined (tidy : ∀ line ∈ lines, Tidy line) :
    linesOf (joined ['\n'] lines) = lines := by
  induction lines with
  | nil => rfl
  | cons line rest ih =>
    obtain ⟨⟨plain,-⟩,others⟩ := forall_mem_cons.mp tidy
    have whole : stripCarriage line = line := by
      refine if_neg fun ending => ?_
      cases plain _ (mem_of_getLast? ending)
    rw [linesOf, joined, flatMap_cons, append_assoc, singleton_append, linesFrom_line plain,
      nil_append, whole]
    exact congrArg _ (ih others)

theorem prints_line {pre after : Text} (primary : t.alternate = false) (plain : Plain after)
    (fits : (pre ++ after).length ≤ maxLineChars) :
    after.foldlM Transcript.printChar { t with line := pre, cursor := pre.length } =
      some { t with line := pre ++ after, cursor := (pre ++ after).length } := by
  induction after generalizing pre with
  | nil => simp
  | cons c after ih =>
    obtain ⟨own,others⟩ := forall_mem_cons.mp plain
    rw [append_cons] at fits ⊢
    have below : ¬ pre.length ≥ maxLineChars := by
      rw [length_append, length_append, length_singleton] at fits
      omega
    have printed : Transcript.printChar { t with line := pre, cursor := pre.length } c =
        some { t with line := pre ++ [c], cursor := (pre ++ [c]).length } := by
      simp [Transcript.printChar, Transcript.put, primary, own, below]
    rw [foldlM_cons, printed]
    exact ih others fits

/-- A line of a saved text comes back as it was. -/
theorem restoreLine_tidy (idle : Idle t) (tidy : Tidy line) (ordinary : line ∉ notices) :
    restoreLine t line = t.appendLine line := by
  obtain ⟨plain,short,trimmed⟩ := tidy
  have all : line.filter (!isControl ·) = line :=
    filter_eq_self.mpr fun c mem => by rw [plain c mem]; rfl
  obtain ⟨lines,bytes,old,cursor,alternate,truncated,cwd⟩ := t
  obtain ⟨-,rfl,rfl,primary⟩ := idle
  have printed := @prints_line _ [] line primary plain short
  simp only [length_nil, nil_append] at printed
  rw [restoreLine, if_neg ordinary, all, printed, Option.bind_some, Transcript.finishLine, trimmed]
  simp [Transcript.appendLine, Function.comp_def]

/-- A second restore after some lines: as the first one ended, or with its notice as a line. -/
def Again (omitted : Bool) (done : List Text) (t : Transcript) : Prop :=
  Idle t ∧ (t.truncated = omitted ∧ t.lines = done
    ∨ omitted = true ∧ t.truncated = false ∧ t.lines = earlierOmitted :: done)

theorem again_append (again : Again omitted lines t) (tidy : Tidy line)
    (bounded : size (lines ++ [line]) ≤ lineBudget) (few : (lines ++ [line]).length ≤ maxLines) :
    ∃ next ∈ t.appendLine line, Again omitted (lines ++ [line]) next := by
  obtain ⟨⟨kept,idle⟩,place⟩ := again
  obtain ⟨_,_,_,done,after⟩ := appendLine_kept kept tidy
  refine ⟨_,done,⟨after,idle⟩,?_⟩
  rw [Transcript.appendLine, kept.1, ← size_snoc] at done
  rcases place with ⟨flag,rfl⟩ | ⟨rfl,flag,same⟩
  · rw [evict_fits bounded few] at done
    cases done
    exact .inl ⟨flag,rfl⟩
  · rw [same, cons_append] at done
    by_cases large : size (earlierOmitted :: (lines ++ [line])) > lineBudget
        ∨ (lines ++ [line]).length + 1 > maxLines
    · rw [evict_first large, evict_fits bounded few] at done
      cases done
      exact .inl ⟨rfl,rfl⟩
    · rw [not_or, Nat.not_lt, Nat.not_lt] at large
      rw [evict_fits large.1 large.2] at done
      cases done
      exact .inr ⟨rfl,flag,rfl⟩

/-- What a first restore has kept fits, so only its notice can leave. -/
theorem again_all (again : Again omitted done t) (tidy : ∀ line ∈ rest, Tidy line)
    (ordinary : ∀ line ∈ rest, line ∉ notices) (bounded : size (done ++ rest) ≤ lineBudget)
    (few : (done ++ rest).length ≤ maxLines) :
    ∃ last ∈ rest.foldlM restoreLine t, Again omitted (done ++ rest) last := by
  induction rest generalizing done t with
  | nil => exact ⟨t,rfl,by rwa [append_nil]⟩
  | cons line rest ih =>
    obtain ⟨own,others⟩ := forall_mem_cons.mp tidy
    obtain ⟨free,frees⟩ := forall_mem_cons.mp ordinary
    rw [append_cons] at bounded few ⊢
    obtain ⟨next,appended,more⟩ := again_append again own
      (by simp only [size, map_append, sum_append] at bounded ⊢; omega)
      (by rw [length_append] at few; omega)
    rw [foldlM_cons, restoreLine_tidy again.1 own free, appended]
    exact ih more others frees bounded few

end Restarts

/-- What the next checkpoint saves after a restore. -/
def saved (previous : Text) : Option Text := (restored previous).map Transcript.snapshot

/-- Restoring a saved text saves it again. -/
theorem restart_keeps_saved_text (previous : Text) :
    ∃ text ∈ saved previous, (∀ line ∈ linesOf text, line ∉ notices) → saved text = some text := by
  obtain ⟨t,done,idle⟩ := foldlM_answers restoreLine_idle (linesOf previous) fresh_idle
  obtain ⟨⟨counted,bounded,few,tidy⟩,empty,-⟩ := id idle
  have shows := (shown_kept idle.1).2.2
  have text : t.snapshot = joined ['\n'] (shown t) := by rw [snapshot_eq, empty, append_nil]
  refine ⟨_,by rw [saved, restored, done]; rfl,fun ordinary => ?_⟩
  rw [text, linesOf_joined shows] at ordinary
  have fresh : Again false [] {} := ⟨fresh_idle,.inl ⟨rfl,rfl⟩⟩
  rw [counted] at bounded
  obtain ⟨last,again,kept,place⟩ : ∃ last ∈ (shown t).foldlM restoreLine {},
      Again t.truncated t.lines last := by
    unfold shown at ordinary ⊢
    cases flag : t.truncated with
    | false =>
      rw [flag] at ordinary
      exact again_all fresh tidy ordinary bounded few
    | true =>
      rw [flag] at ordinary
      obtain ⟨free,frees⟩ := forall_mem_cons.mp ordinary
      obtain ⟨next,appended,idle,kept⟩ := again_append fresh earlierOmitted_tidy.1
        (by rw [size_snoc, earlierOmitted_tidy.2]; exact Nat.le_of_ble_eq_true rfl)
        (Nat.le_of_ble_eq_true rfl)
      have first : Again true [] next :=
        ⟨idle,.inr ⟨rfl,kept.elim id fun other => nomatch other.1⟩⟩
      rw [if_pos rfl, singleton_append, foldlM_cons,
        restoreLine_tidy fresh_idle earlierOmitted_tidy.1 free, appended]
      exact again_all first tidy frees bounded few
  have same : shown last = shown t := by
    rcases place with ⟨flag,lines⟩ | ⟨flag,other,lines⟩
    · rw [shown, shown, flag, lines]
    · rw [shown, shown, flag, other, lines]
      rfl
  rw [saved, restored, text, linesOf_joined shows, again, Option.map_some, snapshot_eq, kept.2.1,
    append_nil, same]

def blank (count : Nat) : List Text := replicate count []

def cut : Text := joined ['\n'] (earlierOmitted :: blank maxLines)

theorem nil_tidy : Tidy [] ∧ [] ∉ notices := ⟨⟨nofun,Nat.zero_le _,rfl⟩,by decide +kernel⟩

theorem blank_tidy {n : Nat} : ∀ line ∈ blank n, Tidy line ∧ line ∉ notices := by
  intro line mem
  cases eq_of_mem_replicate mem
  exact nil_tidy

/-- The oldest of too many lines is left out, with a notice in its place. -/
theorem blank_cut : saved (joined ['\n'] (blank (maxLines + 1))) = some cut := by
  have tidy {n : Nat} : ∀ line ∈ blank n, Tidy line := fun line mem => (blank_tidy line mem).1
  have fits : size (blank maxLines) ≤ lineBudget := by simp [size, blank, utf8Len]; decide
  have few : (blank maxLines).length ≤ maxLines := length_replicate.le
  have all : blank (maxLines + 1) = blank maxLines ++ [[]] := replicate_succ'
  obtain ⟨last,done,idle,⟨flag,lines⟩ | ⟨other,-⟩⟩ := again_all ⟨fresh_idle,.inl ⟨rfl,rfl⟩⟩ tidy
    (fun line mem => (blank_tidy line mem).2) (by rwa [nil_append]) (by rwa [nil_append])
  · have large :
        size ([] :: blank maxLines) > lineBudget ∨ (blank maxLines).length + 1 > maxLines :=
      .inr (by rw [blank, length_replicate]; exact Nat.lt_succ_self _)
    have dropped : restoreLine last [] = some { last with
        lines := blank maxLines, bytes := size (blank maxLines), truncated := true } := by
      rw [restoreLine_tidy idle nil_tidy.1 nil_tidy.2, Transcript.appendLine, idle.1.1,
        ← size_snoc, lines, nil_append, ← all, blank, replicate_succ, ← blank,
        evict_first large, evict_fits fits few]
      rfl
    rw [saved, restored, linesOf_joined tidy, all, foldlM_append, done]
    simp [dropped, snapshot_eq, shown, idle.2.1, cut]
  · cases other

theorem cut_text_is_kept :
    saved (joined ['\n'] (blank (maxLines + 1))) = some cut ∧ saved cut = some cut := by
  obtain ⟨text,first,again⟩ := restart_keeps_saved_text (joined ['\n'] (blank (maxLines + 1)))
  cases blank_cut.symm.trans first
  refine ⟨blank_cut,again ?_⟩
  rw [cut, linesOf_joined (forall_mem_cons.mpr
    ⟨earlierOmitted_tidy.1,fun line mem => (blank_tidy line mem).1⟩)]
  exact forall_mem_cons.mpr ⟨by decide +kernel,fun line mem => (blank_tidy line mem).2⟩

end TermloopShellHistory

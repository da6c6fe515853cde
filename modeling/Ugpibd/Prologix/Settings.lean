import Ugpibd.Backend.GpibBackend
import Ugpibd.Library.History
import Ugpibd.Library.Runs
import Ugpibd.Prologix.Lines

/-! A Prologix connection, line after line, against what a line is to be served with: for every setting
the value that was accepted last. -/
namespace Ugpibd.Prologix
open Library Daemon

/-- A line for the controller. -/
def IsCommand (line : List Char) : Prop := "++".toList <+: line

instance (line : List Char) : Decidable (IsCommand line) :=
  inferInstanceAs (Decidable ("++".toList <+: line))

/-- What follows `++`. -/
def rest (line : List Char) : Option (List Char) :=
  (line.rdropWhile isCrLf).dropPrefix? "++".toList

/-- The command a line is, if there is one of its name. -/
def command (line : List Char) : Option (Name × List Char) :=
  (rest line).bind fun cmd => (Name.ofText (nameArgs cmd).1).map (·, (nameArgs cmd).2)

/-- What a line sets. -/
inductive Setting
  | addr (pad : UInt8)
  | auto (on : Bool)
  | eoi (on : Bool)
  | eos (mode : UInt8)
  | eotEnable (on : Bool)
  | eotChar (char : UInt8)
  | readTmoMs (ms : UInt32)
  | reset
  deriving DecidableEq, Repr

def onOff (args : List Char) : Option Bool :=
  if args = "0".toList then some false else if args = "1".toList then some true else none

def settingOf (args : List Char) : Name → Option Setting
  | .addr => (parsePad args).map .addr
  | .auto => (onOff args).map .auto
  | .eoi => (onOff args).map .eoi
  | .eos => (PrologixState.parseEos args).map .eos
  | .eotEnable => (onOff args).map .eotEnable
  | .eotChar => (parseU8 args).map .eotChar
  | .readTmoMs => (parseU32 args).map .readTmoMs
  | .rst => some .reset
  | _ => none

/-- The setting a line is accepted with. -/
def accepted (line : List Char) : Option Setting :=
  (command line).bind fun (name, args) => settingOf args name

/-- The value that was accepted last since the controller was reset, of lines newest first. -/
def mostRecent {α : Type} (default : α) (pick : Setting → Option α) : List (List Char) → α
  | [] => default
  | line :: older => match accepted line with
    | some .reset => default
    | some setting => (pick setting).getD (mostRecent default pick older)
    | none => mostRecent default pick older

def latest (defaultPad : UInt8) (lines : List (List Char)) : PrologixState where
  addr := mostRecent defaultPad (fun | .addr pad => some pad | _ => none) lines
  autoRead := mostRecent false (fun | .auto on => some on | _ => none) lines
  eoi := mostRecent true (fun | .eoi on => some on | _ => none) lines
  eosMode := mostRecent 0 (fun | .eos mode => some mode | _ => none) lines
  eotEnable := mostRecent false (fun | .eotEnable on => some on | _ => none) lines
  eotChar := mostRecent 0 (fun | .eotChar char => some char | _ => none) lines
  readTmoMs := mostRecent 3000 (fun | .readTmoMs ms => some ms | _ => none) lines

/-- A line that was served, with the backend's own settings at the time. -/
structure Served where
  line : List Char
  replies : Replies
  bus : Backend.Settings
  result : LineResult
  calls : List BusCall
  out : List UInt8
  deriving DecidableEq, Repr

structure Connection where
  state : PrologixState
  served : List Served := []
  deriving DecidableEq, Repr

/-- One turn of the connection's loop. Nothing in it touches the backend's settings. -/
def serve (bus : Backend.Settings) (defaultPad : UInt8) (conn : Connection)
    (input : List Char × Replies) : Option Connection :=
  let (line, replies) := input
  let (state, result) := conn.state.handleLine (nextLine line)
  let calls := result.calls state replies
  let out := result.out state replies
  some {
    state := if result = .reset then .withAddr defaultPad else state
    served := { line, replies, bus, result, calls, out } :: conn.served }

def Served.refused (e : Served) : Prop := ∃ text, e.result = .error text

/-- The calls with what they were answered. -/
def Served.answered (e : Served) : List (BusCall × BusReply) :=
  e.calls.zip [e.replies.first, e.replies.second]

/-- Bytes for the instrument. -/
def isData : BusCall → Bool
  | .write .. | .sendDataUnaddressed .. => true
  | _ => false

/-- The address of a command's operation: three of them may name another than the current one. -/
def padOf (settings : PrologixState) (line : List Char) : Option UInt8 :=
  match command line with
  | some (.spoll, args) | some (.trg, args) | some (.loc, args) =>
    if args = [] then some settings.addr else parsePad args
  | _ => some settings.addr

def eot (settings : PrologixState) : List UInt8 := if settings.eotEnable then [settings.eotChar] else []

/-- A line is served with these settings. -/
structure ServedWith (settings : PrologixState) (e : Served) : Prop where
  data : ¬IsCommand e.line → e.calls =
    .write settings.addr (utf8 (e.line.rdropWhile isCrLf) ++ terminator settings.eosMode) settings.eoi ::
      if settings.autoRead ∧ e.replies.first = .done then [.read settings.addr maxRead] else []
  command : IsCommand e.line → ∀ call ∈ e.calls, isData call = false
  address : IsCommand e.line → ∀ call ∈ e.calls, ∀ pad, call.pad = some pad →
    padOf settings e.line = some pad
  returned : ∀ pad len bytes eom, (.read pad len, .data bytes eom) ∈ e.answered →
    e.out = bytes ++ eot settings

/-- The character a `++read` is to end at. -/
def readChar (line : List Char) : Option UInt8 :=
  match command line with
  | some (.read, args) => parseU8 args
  | _ => none

/-- A read is made with the timeout the client set, and ends at the character it was given. -/
structure ReadsAsSet (settings : PrologixState) (e : Served) : Prop where
  timeout : ∀ pad len, .read pad len ∈ e.calls → e.bus.timeoutMs = settings.readTmoMs.toNat
  terminator : ∀ char, readChar e.line = some char → e.bus.eosEnabled = true ∧ e.bus.eosChar = char

/-- The backend happens to be set as the client wants its reads. -/
def SetAlready (bus : Backend.Settings) (settings : PrologixState) (line : List Char) : Prop :=
  bus.timeoutMs = settings.readTmoMs.toNat ∧
    ∀ char, readChar line = some char → bus.eosEnabled = true ∧ bus.eosChar = char

/-- The settings in force after these lines. -/
def settingsAfter (defaultPad : UInt8) (served : List Served) : PrologixState :=
  latest defaultPad (served.map (·.line))

/-- What is due of a line after the ones before it. -/
structure Conforms (bus : Backend.Settings) (defaultPad : UInt8) (e : Served) (older : List Served) :
    Prop where
  servedWith : ServedWith (settingsAfter defaultPad older) e
  refused : e.refused → settingsAfter defaultPad (e :: older) = settingsAfter defaultPad older
  reads : SetAlready bus (settingsAfter defaultPad older) e.line →
    ReadsAsSet (settingsAfter defaultPad older) e

section
variable {line : List Char} {lines : List (List Char)} {s : PrologixState} {defaultPad : UInt8}
  {args : List Char} {name : Name}

theorem rdropWhile_nextLine (line : List Char) :
    (nextLine line).rdropWhile isCrLf = line.rdropWhile isCrLf := by
  unfold nextLine
  split
  · rename_i hlast
    obtain ⟨front, rfl⟩ := List.getLast?_eq_some_iff.mp hlast
    rw [List.dropLast_concat, List.rdropWhile_concat_pos _ _ _ (by decide)]
  · rfl

/-- Two characters that are not trimmed stay in front of what is. -/
theorem isCommand_rdropWhile (h : IsCommand line) : IsCommand (line.rdropWhile isCrLf) := by
  obtain ⟨tail, rfl⟩ := h
  induction tail using List.reverseRecOn with
  | nil => exact ⟨[], by decide⟩
  | append_singleton front c ih =>
    rw [← List.append_assoc]
    by_cases hc : isCrLf c = true
    · rwa [List.rdropWhile_concat_pos _ _ _ hc]
    · rw [List.rdropWhile_concat_neg _ _ _ hc, List.append_assoc]
      exact List.prefix_append _ _

theorem rest_eq_some {cmd : List Char} (h : rest line = some cmd) : IsCommand line := by
  obtain ⟨start, hline, hstart⟩ := List.dropPrefix?_eq_some_iff.mp h
  have hprefix : "++".toList <+: line.rdropWhile isCrLf := by
    rw [hline, ← beq_iff_eq.mp hstart]
    exact List.prefix_append _ _
  exact hprefix.trans (List.rdropWhile_prefix _ _)

theorem rest_eq_none (h : rest line = none) : ¬IsCommand line := by
  intro hcommand
  obtain ⟨tail, htail⟩ := isCommand_rdropWhile hcommand
  have hsome : rest line = some tail :=
    List.dropPrefix?_eq_some_iff.mpr ⟨_, htail.symm, beq_self_eq_true _⟩
  rw [h] at hsome
  cases hsome

theorem handleLine_eq (s : PrologixState) (line : List Char) :
    s.handleLine line = match (line.rdropWhile isCrLf).dropPrefix? "++".toList with
      | some cmd => s.handleCommand cmd
      | none => (s, s.handleData (line.rdropWhile isCrLf)) := rfl

theorem handleLine_nextLine (s : PrologixState) (line : List Char) :
    s.handleLine (nextLine line) = match rest line with
      | some cmd => s.handleCommand cmd
      | none => (s, s.handleData (line.rdropWhile isCrLf)) := by
  rw [handleLine_eq, rdropWhile_nextLine]
  rfl

/-- What a setting does to the ones in force. -/
def Setting.apply (defaultPad : UInt8) (s : PrologixState) : Setting → PrologixState
  | .addr pad => { s with addr := pad }
  | .auto on => { s with autoRead := on }
  | .eoi on => { s with eoi := on }
  | .eos mode => { s with eosMode := mode }
  | .eotEnable on => { s with eotEnable := on }
  | .eotChar char => { s with eotChar := char }
  | .readTmoMs ms => { s with readTmoMs := ms }
  | .reset => .withAddr defaultPad

/-- The last value of each setting, one line at a time. -/
theorem latest_cons (defaultPad : UInt8) (line : List Char) (lines : List (List Char)) :
    latest defaultPad (line :: lines) =
      ((accepted line).elim (latest defaultPad lines) (·.apply defaultPad (latest defaultPad lines))) := by
  cases haccepted : accepted line with
  | none => simp only [latest, mostRecent, haccepted, Option.elim_none]
  | some setting =>
    cases setting <;> simp only [latest, mostRecent, haccepted, Option.elim_some, Setting.apply,
      PrologixState.withAddr, Option.getD_some, Option.getD_none]

namespace PrologixState

/-- The state after a result: a reset starts over. -/
def settle (defaultPad : UInt8) (r : PrologixState × LineResult) : PrologixState :=
  if r.2 = .reset then .withAddr defaultPad else r.1

/-- A command that sets what it is accepted with, and is refused only when it sets nothing. -/
structure Sets (defaultPad : UInt8) (s : PrologixState) (setting : Option Setting)
    (r : PrologixState × LineResult) : Prop where
  settled : settle defaultPad r = setting.elim s (·.apply defaultPad s)
  refused : ∀ text, r.2 = .error text → setting = none

theorem switch_sets {current : Bool} {set : Bool → PrologixState} {setting : Bool → Setting}
    (hset : ∀ b, (setting b).apply defaultPad s = set b) :
    Sets defaultPad s ((onOff args).map setting) (s.switch name current set args) := by
  unfold switch Switch.ofArgs onOff
  split_ifs
  · exact ⟨(hset false).symm, nofun⟩
  · exact ⟨(hset true).symm, nofun⟩
  · exact ⟨rfl, nofun⟩
  · exact ⟨rfl, fun _ _ => rfl⟩

theorem value_sets {α : Type} {current : Nat} {parsed : Option α} {set : α → PrologixState}
    {refusal : List Char} {setting : α → Setting} (hnil : args = [] → parsed = none)
    (hset : ∀ a, (setting a).apply defaultPad s = set a) :
    Sets defaultPad s (parsed.map setting) (s.value current parsed set (.error refusal) args) := by
  unfold value
  split_ifs with hargs
  · rw [hnil hargs]
    exact ⟨rfl, nofun⟩
  · cases parsed with
    | some a => exact ⟨(hset a).symm, nofun⟩
    | none => exact ⟨rfl, fun _ _ => rfl⟩

theorem same_sets {result : LineResult} (h : result ≠ .reset) : Sets defaultPad s none (s, result) :=
  ⟨if_neg h, fun _ _ => rfl⟩

theorem onPad_ne_reset {default : UInt8} {result : UInt8 → LineResult}
    (h : ∀ pad, result pad ≠ .reset) : onPad args default result ≠ .reset := by
  unfold onPad
  split_ifs
  · exact h default
  · split
    · exact h _
    · exact nofun

theorem run_sets : Sets defaultPad s (settingOf args name) (s.run name args) := by
  cases name with
  | addr => exact value_sets (by rintro rfl; rfl) fun _ => rfl
  | auto => exact switch_sets fun _ => rfl
  | eoi => exact switch_sets fun _ => rfl
  | eos => exact value_sets (by rintro rfl; rfl) fun _ => rfl
  | eotEnable => exact switch_sets fun _ => rfl
  | eotChar => exact value_sets (by rintro rfl; rfl) fun _ => rfl
  | readTmoMs => exact value_sets (by rintro rfl; rfl) fun _ => rfl
  | read =>
    refine same_sets ?_
    unfold readResult
    split_ifs
    · exact nofun
    · split <;> exact nofun
  | rst => exact ⟨rfl, nofun⟩
  | mode =>
    refine same_sets ?_
    unfold modeResult
    split_ifs <;> exact nofun
  | dev =>
    refine same_sets ?_
    unfold devResult
    split_ifs
    · exact nofun
    · exact nofun
    · split <;> exact nofun
  | lon =>
    refine same_sets ?_
    unfold lonResult
    split <;> exact nofun
  | spoll | trg | loc => exact same_sets (onPad_ne_reset nofun)
  | clr | ifc | ver | srq | lines | llo | status | savecfg => exact same_sets nofun

end PrologixState

/-- A line sets what it is accepted with. -/
theorem handleLine_sets : PrologixState.Sets defaultPad s (accepted line) (s.handleLine (nextLine line)) := by
  rw [handleLine_nextLine]
  unfold accepted command
  cases rest line with
  | none => exact PrologixState.same_sets nofun
  | some cmd =>
    dsimp only [Option.bind_some]
    unfold PrologixState.handleCommand
    generalize nameArgs cmd = words
    obtain ⟨text, args⟩ := words
    dsimp only
    cases Name.ofText text with
    | none => exact PrologixState.same_sets nofun
    | some name => exact PrologixState.run_sets

/-- The operation of a command has the address that is due, and is no write. -/
def Addressed (settings : PrologixState) (line : List Char) (r : PrologixState × LineResult) : Prop :=
  match r.2 with
  | .forward .. => False
  | .serialPoll pad | .trigger pad | .goToLocal pad | .deviceClear pad =>
    padOf settings line = some pad
  | .read .. => r.1 = settings ∧ padOf settings line = some settings.addr
  | _ => True

theorem addressed_of_error {settings : PrologixState} {text : List Char} :
    Addressed settings line (s, .error text) := trivial

theorem switch_addressed {current : Bool} {set : Bool → PrologixState} :
    Addressed s line (s.switch name current set args) := by
  unfold PrologixState.switch
  split <;> trivial

theorem value_addressed {α : Type} {current : Nat} {parsed : Option α} {set : α → PrologixState}
    {refusal : List Char} : Addressed s line (s.value current parsed set (.error refusal) args) := by
  unfold PrologixState.value
  split_ifs
  · trivial
  · split <;> trivial

/-- An address that is given is the one due, and without one the current. -/
theorem onPad_addressed {result : UInt8 → LineResult}
    (hpad : padOf s line = if args = [] then some s.addr else parsePad args)
    (hresult : ∀ pad, padOf s line = some pad → Addressed s line (s, result pad)) :
    Addressed s line (s, onPad args s.addr result) := by
  unfold onPad
  split_ifs with hargs
  · refine hresult _ ?_
    rw [hpad, if_pos hargs]
  · rw [if_neg hargs] at hpad
    split
    · rename_i pad hparsed
      exact hresult pad (hpad.trans hparsed)
    · exact addressed_of_error

theorem run_addressed (hcommand : command line = some (name, args)) :
    Addressed s line (s.run name args) := by
  cases name with
  | addr => exact value_addressed
  | auto => exact switch_addressed
  | eoi => exact switch_addressed
  | eos => exact value_addressed
  | eotEnable => exact switch_addressed
  | eotChar => exact value_addressed
  | readTmoMs => exact value_addressed
  | read =>
    have hpad : padOf s line = some s.addr := by rw [padOf, hcommand]
    change Addressed s line (s, PrologixState.readResult args)
    unfold PrologixState.readResult
    split_ifs
    · exact ⟨rfl, hpad⟩
    · split
      · exact ⟨rfl, hpad⟩
      · exact addressed_of_error
  | clr =>
    have hpad : padOf s line = some s.addr := by rw [padOf, hcommand]
    exact hpad
  | mode =>
    change Addressed s line (s, PrologixState.modeResult args)
    unfold PrologixState.modeResult
    split_ifs <;> trivial
  | dev =>
    change Addressed s line (s, PrologixState.devResult args)
    unfold PrologixState.devResult
    split_ifs
    · trivial
    · trivial
    · split <;> trivial
  | lon =>
    change Addressed s line (s, PrologixState.lonResult args)
    unfold PrologixState.lonResult
    split <;> trivial
  | spoll | trg | loc =>
    refine onPad_addressed ?_ fun _ => id
    rw [padOf, hcommand]
  | ifc | rst | ver | srq | lines | llo | status | savecfg => trivial

theorem handleLine_addressed {cmd : List Char} (h : rest line = some cmd) :
    Addressed s line (s.handleLine (nextLine line)) := by
  rw [handleLine_nextLine, h]
  have hcommand : command line = (Name.ofText (nameArgs cmd).1).map (·, (nameArgs cmd).2) := by
    rw [command, h, Option.bind_some]
  dsimp only
  unfold PrologixState.handleCommand
  generalize nameArgs cmd = words at hcommand ⊢
  obtain ⟨text, args⟩ := words
  dsimp only at hcommand ⊢
  cases hname : Name.ofText text with
  | none => exact addressed_of_error
  | some name =>
    rw [hname] at hcommand
    exact run_addressed hcommand

end

section
variable {settings : PrologixState} {line : List Char} {r : PrologixState × LineResult} {replies : Replies}

theorem Addressed.calls (h : Addressed settings line r) : ∀ call ∈ r.2.calls r.1 replies,
    isData call = false ∧ ∀ pad, call.pad = some pad → padOf settings line = some pad := by
  obtain ⟨state, result⟩ := r
  cases result with
  | forward => exact absurd h not_false
  | serialPoll pad | trigger pad | goToLocal pad | deviceClear pad =>
    refine List.forall_mem_singleton.mpr ⟨rfl, ?_⟩
    rintro _ ⟨⟩
    exact h
  | read =>
    obtain ⟨rfl, hpad⟩ := h
    refine List.forall_mem_singleton.mpr ⟨rfl, ?_⟩
    rintro _ ⟨⟩
    exact hpad
  | ok | response | error => exact nofun
  | listenOnly enable =>
    cases enable with
    | none => exact nofun
    | some _ => exact List.forall_mem_singleton.mpr ⟨rfl, nofun⟩
  | deviceMode target =>
    cases target with
    | none => exact nofun
    | some _ => exact List.forall_mem_singleton.mpr ⟨rfl, nofun⟩
  | srq | busLines | localLockout | ifc | reset => exact List.forall_mem_singleton.mpr ⟨rfl, nofun⟩

theorem applyEot_eq (data : List UInt8) : settings.applyEot data = data ++ eot settings := by
  unfold PrologixState.applyEot eot
  split_ifs
  · rfl
  · exact (List.append_nil data).symm

/-- What a command's read returned goes back with the EOT character. -/
theorem Addressed.out (h : Addressed settings line r) {pad : UInt8} {len : Nat} {bytes : List UInt8}
    {eom : Bool} (hread : (.read pad len, .data bytes eom) ∈
      (r.2.calls r.1 replies).zip [replies.first, replies.second]) :
    r.2.out r.1 replies = bytes ++ eot settings := by
  obtain ⟨state, result⟩ := r
  cases result with
  | forward => exact absurd h not_false
  | read =>
    obtain ⟨rfl, -⟩ := h
    obtain ⟨-, hfirst⟩ := Prod.mk.inj (List.mem_singleton.mp hread)
    simp only [LineResult.out, ← hfirst]
    exact applyEot_eq bytes
  | ok | response | error => cases hread
  | listenOnly enable =>
    cases enable with
    | none => cases hread
    | some _ => exact nomatch List.mem_singleton.mp hread
  | deviceMode target =>
    cases target with
    | none => cases hread
    | some _ => exact nomatch List.mem_singleton.mp hread
  | _ => exact nomatch List.mem_singleton.mp hread

/-- A line of data is written, and read back only when the write was taken. -/
theorem forward_calls {pad : UInt8} {data : List UInt8} {sendEoi autoRead : Bool} :
    (LineResult.forward pad data sendEoi autoRead).calls settings replies =
      .write pad data sendEoi :: if autoRead ∧ replies.first = .done then [.read pad maxRead] else [] := by
  obtain ⟨first, _⟩ := replies
  cases autoRead with
  | false => rfl
  | true => cases first <;> rfl

theorem forward_out {pad pad' : UInt8} {data bytes : List UInt8} {sendEoi autoRead eom : Bool}
    {len : Nat} (hread : (.read pad' len, .data bytes eom) ∈ ((LineResult.forward pad data sendEoi
      autoRead).calls settings replies).zip [replies.first, replies.second]) :
    (LineResult.forward pad data sendEoi autoRead).out settings replies = bytes ++ eot settings := by
  rw [forward_calls] at hread
  split_ifs at hread with hauto
  · obtain ⟨rfl, hfirst⟩ := hauto
    simp only [List.zip_cons_cons, List.zip_nil_left, List.mem_cons, Prod.mk.injEq, reduceCtorEq,
      false_and, false_or, List.not_mem_nil, or_false] at hread
    obtain ⟨-, hsecond⟩ := hread
    simp only [LineResult.out, hfirst, ← hsecond]
    exact applyEot_eq bytes
  · exact nomatch List.mem_singleton.mp hread

end

section
variable {bus : Backend.Settings} {defaultPad : UInt8} {conn conn' : Connection}
  {input : List Char × Replies}

/-- A turn of the loop notes one line more. -/
theorem serve_cases (h : serve bus defaultPad conn input = some conn') : ∃ e,
    e.line = input.1 ∧ e.replies = input.2 ∧ e.bus = bus ∧
    (∃ state, conn.state.handleLine (nextLine e.line) = (state, e.result) ∧
      e.calls = e.result.calls state e.replies ∧ e.out = e.result.out state e.replies ∧
      conn'.state = PrologixState.settle defaultPad (state, e.result)) ∧
    conn'.served = e :: conn.served := by
  obtain ⟨line, replies⟩ := input
  cases h
  exact ⟨_, rfl, rfl, rfl, ⟨_, rfl, rfl, rfl, rfl⟩, rfl⟩

/-- Any line is served with the state it finds. -/
theorem servedWith {e : Served} {s state : PrologixState}
    (hline : s.handleLine (nextLine e.line) = (state, e.result))
    (hcalls : e.calls = e.result.calls state e.replies)
    (hout : e.out = e.result.out state e.replies) : ServedWith s e := by
  cases hrest : rest e.line with
  | none =>
    have hdata := hline
    rw [handleLine_nextLine, hrest] at hdata
    obtain ⟨rfl, hresult⟩ := Prod.mk.inj hdata
    rw [PrologixState.handleData] at hresult
    rw [← hresult] at hcalls hout
    have hcommand : ¬IsCommand e.line := rest_eq_none hrest
    refine ⟨fun _ => hcalls.trans forward_calls, fun h => absurd h hcommand,
      fun h => absurd h hcommand, fun pad len bytes eom hread => ?_⟩
    rw [Served.answered, hcalls] at hread
    exact hout.trans (forward_out hread)
  | some cmd =>
    have haddressed : Addressed s e.line (state, e.result) := hline ▸ handleLine_addressed hrest
    have hall : ∀ call ∈ e.calls, isData call = false ∧
        ∀ pad, call.pad = some pad → padOf s e.line = some pad := hcalls ▸ haddressed.calls
    refine ⟨fun h => absurd (rest_eq_some hrest) h, fun _ call hcall => (hall call hcall).1,
      fun _ call hcall => (hall call hcall).2, fun pad len bytes eom hread => ?_⟩
    rw [Served.answered, hcalls] at hread
    exact hout.trans (haddressed.out hread)

/-- The state is the settings accepted last, and every line so far was served as is due. -/
structure Kept (bus : Backend.Settings) (defaultPad : UInt8) (conn : Connection) : Prop where
  state : conn.state = settingsAfter defaultPad conn.served
  served : EachEvent (Conforms bus defaultPad) conn.served

theorem serve_kept (h : Kept bus defaultPad conn) (hstep : serve bus defaultPad conn input = some conn') :
    Kept bus defaultPad conn' := by
  obtain ⟨e, -, -, hbus, ⟨state, hline, hcalls, hout, hstate⟩, hserved⟩ := serve_cases hstep
  have hsets : PrologixState.Sets defaultPad conn.state (accepted e.line) (state, e.result) :=
    hline ▸ handleLine_sets
  have hafter : settingsAfter defaultPad (e :: conn.served) =
      (accepted e.line).elim conn.state (·.apply defaultPad conn.state) := by
    rw [h.state]
    exact latest_cons defaultPad e.line _
  refine ⟨?_, ?_⟩
  · rw [hserved, hafter, hstate]
    exact hsets.settled
  · rw [hserved]
    refine h.served.cons ⟨?_, ?_, ?_⟩
    · rw [← h.state]
      exact servedWith hline hcalls hout
    · rintro ⟨text, hrefused⟩
      rw [hafter, hsets.refused text hrefused, h.state]
      rfl
    · rintro ⟨htimeout, hchar⟩
      rw [← hbus] at htimeout hchar
      exact ⟨fun _ _ _ => htimeout, hchar⟩

end

/-- A write and a read of the instrument at 5, which ends its lines with a carriage return. -/
def query : List (List Char × Replies) :=
  [("++addr 5".toList, {}), ("++auto 1\r".toList, {}), ("++eos 1".toList, {}),
    ("*IDN?\r".toList, { first := .done, second := .data [0x48, 0x50] true })]

def daemonSettings : Backend.Settings := ⟨0x0a, false, 3000⟩

/-- Lines that ask for a short read up to a line feed. -/
def shortRead : List (List Char × Replies) :=
  [("++addr 5".toList, {}), ("++read_tmo_ms 100".toList, {}),
    ("++read 10".toList, { first := .data [0x31, 0x0a, 0x32] true })]

end Ugpibd.Prologix

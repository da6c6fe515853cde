import Ugpibd.Library.BigEndian
import Ugpibd.Vxi11.BusSettings

/-! What `device_docmd` refuses, and that the byte order of a request does not matter: the same integer
in the other order does the same and is answered in that order. -/
namespace Ugpibd.Vxi11.Docmd
open Library Messages

variable {σ : Type}

/-- The calls of the backend a command can make. -/
inductive Action
  | sendBusCommand (cmds : List UInt8)
  | busLines
  | setAtn (assert : Bool)
  | ren (enable : Bool)
  | setControllerPad (pad : UInt8)
  | ifc
  deriving DecidableEq, Repr

/-- A call, noted. -/
def noted {α : Type} (action : Action) (call : σ → α × σ) (s : σ × List Action) :
    α × σ × List Action :=
  ((call s.1).1, (call s.1).2, s.2 ++ [action])

/-- The same interface with a log of what is called. -/
def logged (bus : Interface σ) : Interface (σ × List Action) where
  linkFor lid s := bus.linkFor lid s.1
  acquireAccess lid flags lockTimeoutMs s :=
    ((bus.acquireAccess lid flags lockTimeoutMs s.1).1,
      (bus.acquireAccess lid flags lockTimeoutMs s.1).2, s.2)
  takeAbort lid s := ((bus.takeAbort lid s.1).1, (bus.takeAbort lid s.1).2, s.2)
  sendBusCommand cmds := noted (.sendBusCommand cmds) (bus.sendBusCommand cmds)
  busLines := noted .busLines bus.busLines
  setAtn assert := noted (.setAtn assert) (bus.setAtn assert)
  ren enable := noted (.ren enable) (bus.ren enable)
  controllerPad s := bus.controllerPad s.1
  setControllerPad pad := noted (.setControllerPad pad) (bus.setControllerPad pad)
  ifc := noted .ifc bus.ifc

/-- Table B.1: how many bytes of data a command takes, and their size where it is fixed. -/
structure Shape where
  low : Nat
  high : Nat
  datasize : Option Int32

def Command.shape : Command → Shape
  | .sendCommand => ⟨0, 128, some 1⟩
  | .busStatus | .atnControl | .renControl => ⟨2, 2, some 2⟩
  | .passControl | .busAddress => ⟨4, 4, some 4⟩
  | .ifcControl => ⟨0, 0, none⟩

/-- The integer that data stand for in a byte order. -/
def integerOf (networkOrder : Bool) (data : List UInt8) : Nat :=
  fromBeBytes (if networkOrder then data else data.reverse)

/-- What is wrong with the parameters of a command. -/
inductive Mismatch (parms : DeviceDocmdParms) : Command → Prop
  | short {command : Command} (h : parms.dataIn.length < command.shape.low) : Mismatch parms command
  | long {command : Command} (h : command.shape.high < parms.dataIn.length) : Mismatch parms command
  | datasize {command : Command} {datasize : Int32} (hshape : command.shape.datasize = some datasize)
      (h : parms.datasize ≠ datasize) : Mismatch parms command
  | address (h : 30 < integerOf parms.networkOrder parms.dataIn) : Mismatch parms .busAddress
  | selector (h : integerOf parms.networkOrder parms.dataIn = 0 ∨
      8 < integerOf parms.networkOrder parms.dataIn) : Mismatch parms .busStatus

/-- The commands whose data are one integer. -/
def Command.carriesInteger : Command → Bool
  | .busStatus | .atnControl | .renControl | .busAddress => true
  | .sendCommand | .passControl | .ifcControl => false

section
variable {bus : Interface σ} {parms : DeviceDocmdParms} {s : σ}

theorem ofCode_code (command : Command) : Command.ofCode command.code = some command := by
  cases command <;> rfl

theorem ofCode_eq_none (h : ∀ command : Command, command.code ≠ parms.cmd) :
    Command.ofCode parms.cmd = none :=
  List.find?_eq_none.mpr fun command _ => by simpa using h command

/-- One byte more of an integer, as long as it fits. -/
theorem shiftIn_toNat (value : UInt32) (b : UInt8) :
    ((value <<< 8) ||| b.toUInt32).toNat = (value.toNat * 256 + b.toNat) % 2 ^ 32 := by
  have hb : b.toNat < 2 ^ 8 := b.toNat_lt
  have hshift : value.toNat <<< 8 % 2 ^ 32 = (value.toNat % 2 ^ 24) <<< 8 := by
    rw [Nat.shiftLeft_eq, Nat.shiftLeft_eq]
    omega
  simp only [UInt32.toNat_or, UInt32.toNat_shiftLeft, UInt8.toNat_toUInt32, UInt32.reduceToNat,
    Nat.reduceMod, hshift]
  rw [← Nat.shiftLeft_add_eq_or_of_lt hb, Nat.shiftLeft_eq]
  omega

theorem foldl_shiftIn_toNat (bytes : List UInt8) (value : UInt32) :
    (bytes.foldl (fun (value : UInt32) b => (value <<< 8) ||| b.toUInt32) value).toNat =
      bytes.foldl (fun word byte => word * 256 + byte.toNat) value.toNat % 2 ^ 32 := by
  induction bytes using List.reverseRecOn with
  | nil => exact (Nat.mod_eq_of_lt value.toNat_lt).symm
  | append_singleton bytes b ih =>
    simp only [List.foldl_append, List.foldl_cons, List.foldl_nil]
    rw [shiftIn_toNat, ih]
    omega

theorem uintIn_toNat (h : parms.dataIn.length ≤ 4) :
    (uintIn parms).toNat = integerOf parms.networkOrder parms.dataIn := by
  have hlt : integerOf parms.networkOrder parms.dataIn < 2 ^ 32 := by
    refine (fromBeBytes_lt _).trans_le ?_
    have hlen : (if parms.networkOrder then parms.dataIn else parms.dataIn.reverse).length ≤ 4 := by
      split
      · exact h
      · rwa [List.length_reverse]
    exact Nat.pow_le_pow_right (by decide) hlen
  exact (foldl_shiftIn_toNat _ 0).trans (Nat.mod_eq_of_lt hlt)

theorem sizesOk_iff {low high : Nat} {datasize : Int32} :
    sizesOk parms low high datasize = true ↔
      low ≤ parms.dataIn.length ∧ parms.dataIn.length ≤ high ∧ parms.datasize = datasize := by
  simp [sizesOk, and_assoc]

/-- A selector that is none of the eight. -/
theorem busStatus_unknown {selector : UInt32} (h : selector.toNat = 0 ∨ 8 < selector.toNat) :
    busStatus bus selector s = (.error .parameterError, s) := by
  have hne : ∀ known : UInt32, 1 ≤ known.toNat → known.toNat ≤ 8 → selector ≠ known := by
    rintro _ hlow hhigh rfl
    omega
  unfold busStatus
  rw [if_neg, if_neg, if_neg, if_neg]
  all_goals simp [hne, UInt32.reduceToNat]

/-- The sizes are as the table has them. -/
def Fits (parms : DeviceDocmdParms) (command : Command) : Prop :=
  command.shape.low ≤ parms.dataIn.length ∧ parms.dataIn.length ≤ command.shape.high ∧
    ∀ datasize, command.shape.datasize = some datasize → parms.datasize = datasize

theorem sizesOk_eq_false {command : Command} {datasize : Int32}
    (hshape : command.shape.datasize = some datasize) (h : ¬Fits parms command) :
    sizesOk parms command.shape.low command.shape.high datasize = false := by
  refine Bool.eq_false_iff.mpr fun hsizes => h ?_
  obtain ⟨hlow, hhigh, hdatasize⟩ := sizesOk_iff.mp hsizes
  refine ⟨hlow, hhigh, fun other hother => ?_⟩
  rw [hshape] at hother
  exact hdatasize.trans (Option.some.inj hother)

/-- Sizes that are not the table's. -/
theorem run_not_fits {command : Command} (h : ¬Fits parms command) :
    run bus parms s command = (.refused .parameterError, s) := by
  cases command with
  | sendCommand | busStatus | atnControl | renControl | passControl | busAddress =>
    have hsizes := sizesOk_eq_false rfl h
    simp only [Command.shape] at hsizes
    rw [run, hsizes]
    rfl
  | ifcControl =>
    refine if_pos fun hnil => h ⟨Nat.zero_le _, ?_, by simp [Command.shape]⟩
    rw [hnil]
    exact Nat.le_refl 0

theorem run_mismatch {command : Command} (h : Mismatch parms command) :
    run bus parms s command = (.refused .parameterError, s) := by
  by_cases hfits : Fits parms command
  · obtain ⟨hlow, hhigh, hdatasize⟩ := hfits
    cases h with
    | short h => exact absurd hlow (Nat.not_le.mpr h)
    | long h => exact absurd hhigh (Nat.not_le.mpr h)
    | datasize hshape h => exact absurd (hdatasize _ hshape) h
    | address h =>
      have hsizes : sizesOk parms 4 4 4 = true := sizesOk_iff.mpr ⟨hlow, hhigh, hdatasize 4 rfl⟩
      have haddress : 30 < uintIn parms := by
        rw [← uintIn_toNat hhigh] at h
        exact UInt32.lt_iff_toNat_lt.mpr h
      rw [run, hsizes, if_pos haddress]
      rfl
    | selector h =>
      have hsizes : sizesOk parms 2 2 2 = true := sizesOk_iff.mpr ⟨hlow, hhigh, hdatasize 2 rfl⟩
      rw [← uintIn_toNat (hhigh.trans (by decide))] at h
      rw [run, hsizes, busStatus_unknown h]
      rfl
  · exact run_not_fits hfits

/-- The request with its data turned round. -/
def flipped (parms : DeviceDocmdParms) : DeviceDocmdParms :=
  { parms with networkOrder := !parms.networkOrder, dataIn := parms.dataIn.reverse }

def Outcome.flipped : Outcome → Outcome
  | .done dataOut => .done dataOut.reverse
  | other => other

/-- Data turned round read the same in the other order. -/
theorem order_reverse (networkOrder : Bool) (data : List UInt8) :
    (if !networkOrder then data.reverse else data.reverse.reverse) =
      if networkOrder then data else data.reverse := by
  cases networkOrder with
  | true => exact List.reverse_reverse data
  | false => rfl

theorem uintIn_flipped : uintIn (flipped parms) = uintIn parms :=
  congrArg (List.foldl _ 0) (order_reverse parms.networkOrder parms.dataIn)

theorem uintOut_not (value : UInt32) (datasize : Nat) (networkOrder : Bool) :
    uintOut value datasize (!networkOrder) = (uintOut value datasize networkOrder).reverse := by
  unfold uintOut
  cases networkOrder with
  | true => rfl
  | false => exact (List.reverse_reverse _).symm

theorem sizesOk_flipped {low high : Nat} {datasize : Int32} :
    sizesOk (flipped parms) low high datasize = sizesOk parms low high datasize := by
  rw [sizesOk, sizesOk, flipped, List.length_reverse]

theorem orFail_flipped (error : ErrorCode) (dataOut : List UInt8) (result : Bool × σ) :
    orFail error dataOut.reverse result =
      ((orFail error dataOut result).1.flipped, (orFail error dataOut result).2) := by
  unfold orFail
  cases result.1 <;> rfl

/-- What is done with an integer does not depend on its byte order. -/
theorem run_flipped {command : Command} (h : command.carriesInteger = true) :
    run bus (flipped parms) s command =
      ((run bus parms s command).1.flipped, (run bus parms s command).2) := by
  cases command with
  | busStatus =>
    rw [run, run, sizesOk_flipped, uintIn_flipped]
    cases sizesOk parms 2 2 2 with
    | false => rfl
    | true =>
      simp only [Bool.not_true, Bool.false_eq_true, if_false]
      obtain ⟨result, s⟩ := busStatus bus (uintIn parms) s
      cases result with
      | ok value =>
        exact congrArg (fun out => (Outcome.done out, s)) (uintOut_not value 2 parms.networkOrder)
      | error code => rfl
  | atnControl =>
    rw [run, run, sizesOk_flipped, uintIn_flipped]
    cases sizesOk parms 2 2 2 with
    | false => rfl
    | true => exact orFail_flipped _ _ _
  | renControl =>
    rw [run, run, sizesOk_flipped, uintIn_flipped]
    cases sizesOk parms 2 2 2 with
    | false => rfl
    | true => exact orFail_flipped _ _ _
  | busAddress =>
    rw [run, run, sizesOk_flipped, uintIn_flipped]
    cases sizesOk parms 4 4 4 with
    | false => rfl
    | true =>
      simp only [Bool.not_true, Bool.false_eq_true, if_false]
      split
      · rfl
      · exact orFail_flipped _ _ _
  | sendCommand | passControl | ifcControl => cases h

/-- Data of one length stand for one integer in the two orders if they are each other's reverse. -/
theorem eq_reverse_of_integerOf {networkOrder : Bool} {data data' : List UInt8}
    (hlen : data'.length = data.length)
    (h : integerOf (!networkOrder) data' = integerOf networkOrder data) : data' = data.reverse := by
  have hinj : ∀ a b : List UInt8, a.length = b.length → fromBeBytes a = fromBeBytes b → a = b := by
    intro a b hab hvalue
    rw [← toBeBytes_fromBeBytes a, ← toBeBytes_fromBeBytes b, hab, hvalue]
  cases networkOrder with
  | true =>
    have hrev : data'.reverse = data := hinj _ _ (by rwa [List.length_reverse]) h
    rw [← hrev, List.reverse_reverse]
  | false => exact hinj _ _ (by rwa [List.length_reverse]) h

theorem integerOf_reverse (networkOrder : Bool) (data : List UInt8) :
    integerOf (!networkOrder) data.reverse = integerOf networkOrder data :=
  congrArg fromBeBytes (order_reverse networkOrder data)

/-- How a call ends after its command, by the abort flag. -/
def answer (bus : Interface σ) (lid : Int32) : Outcome × σ → DeviceDocmdResp × σ
  | (.refused e, s) => (fail e, s)
  | (.failed e, s) => (fail (if (bus.takeAbort lid s).1 then .abort else e), (bus.takeAbort lid s).2)
  | (.done dataOut, s) =>
    (if (bus.takeAbort lid s).1 then fail .abort else ⟨ErrorCode.noError.asU32, dataOut⟩,
      (bus.takeAbort lid s).2)

/-- The call past its gate. -/
theorem deviceDocmd_eq {s' : σ} (hlink : bus.linkFor parms.lid s = some true)
    (haccess : bus.acquireAccess parms.lid parms.flags parms.lockTimeoutMs s = (.ok (), s')) :
    deviceDocmd bus parms s = answer bus parms.lid (runCode bus parms s') := by
  rw [deviceDocmd, hlink]
  dsimp only
  rw [haccess]
  dsimp only
  match runCode bus parms s' with
  | (.refused _, _) => rfl
  | (.failed _, _) => rfl
  | (.done _, _) => rfl

theorem answer_flipped (lid : Int32) (result : Outcome × σ) :
    (answer bus lid (result.1.flipped, result.2)).2 = (answer bus lid result).2 ∧
      (answer bus lid (result.1.flipped, result.2)).1.error = (answer bus lid result).1.error ∧
      (answer bus lid (result.1.flipped, result.2)).1.dataOut =
        (answer bus lid result).1.dataOut.reverse := by
  obtain ⟨outcome, s⟩ := result
  cases outcome with
  | refused e => exact ⟨rfl, rfl, rfl⟩
  | failed e => exact ⟨rfl, rfl, rfl⟩
  | done dataOut =>
    unfold answer Outcome.flipped
    dsimp only
    cases (bus.takeAbort lid s).1 <;> exact ⟨rfl, rfl, rfl⟩

theorem runCode_code {command : Command} (h : command.code = parms.cmd) :
    runCode bus parms s = run bus parms s command := by
  rw [runCode, ← h, ofCode_code]

/-- The two answers to one integer in the two orders. -/
structure SameInOtherOrder (networkOrder : Bool) (r r' : DeviceDocmdResp × σ) : Prop where
  effects : r'.2 = r.2
  error : r'.1.error = r.1.error
  length : r'.1.dataOut.length = r.1.dataOut.length
  integer : integerOf (!networkOrder) r'.1.dataOut = integerOf networkOrder r.1.dataOut

theorem deviceDocmd_flipped {s' : σ} {command : Command} {dataIn : List UInt8}
    (hlink : bus.linkFor parms.lid s = some true)
    (haccess : bus.acquireAccess parms.lid parms.flags parms.lockTimeoutMs s = (.ok (), s'))
    (hcode : command.code = parms.cmd) (hcommand : command.carriesInteger = true)
    (hlen : dataIn.length = parms.dataIn.length)
    (hinteger : integerOf (!parms.networkOrder) dataIn = integerOf parms.networkOrder parms.dataIn) :
    SameInOtherOrder parms.networkOrder (deviceDocmd bus parms s)
      (deviceDocmd bus { parms with networkOrder := !parms.networkOrder, dataIn } s) := by
  obtain rfl := eq_reverse_of_integerOf hlen hinteger
  change SameInOtherOrder parms.networkOrder (deviceDocmd bus parms s) (deviceDocmd bus (flipped parms) s)
  have hanswer : deviceDocmd bus (flipped parms) s =
      answer bus parms.lid (runCode bus (flipped parms) s') := deviceDocmd_eq hlink haccess
  have hrun : runCode bus (flipped parms) s' = run bus (flipped parms) s' command := runCode_code hcode
  rw [hanswer, deviceDocmd_eq hlink haccess, hrun, runCode_code hcode, run_flipped hcommand]
  obtain ⟨heffects, herror, hdata⟩ := answer_flipped parms.lid (run bus parms s' command)
  refine ⟨heffects, herror, ?_, ?_⟩
  · exact (congrArg List.length hdata).trans (List.length_reverse ..)
  · exact (congrArg (integerOf _) hdata).trans (integerOf_reverse _ _)

end

/-- On the interface link: what the lock gate refuses is answered by its error. Past it, parameters that
do not match their command are answered by 5 and an unknown command by 8, or 23 if the link was aborted,
and nothing is called. An integer in the other byte order has the same effects and the same answer in
that order. -/
theorem docmd_refusals_and_orders (bus : Interface σ) (parms : DeviceDocmdParms) (s : σ)
    (log : List Action) (hlink : bus.linkFor parms.lid s = some true) :
    (∀ e s', bus.acquireAccess parms.lid parms.flags parms.lockTimeoutMs s = (.error e, s') →
      deviceDocmd (logged bus) parms (s, log) = (⟨e.asU32, []⟩, s', log)) ∧
    ∀ s', bus.acquireAccess parms.lid parms.flags parms.lockTimeoutMs s = (.ok (), s') →
      (∀ command : Command, command.code = parms.cmd → Mismatch parms command →
        deviceDocmd (logged bus) parms (s, log) = (⟨5, []⟩, s', log)) ∧
      ((∀ command : Command, command.code ≠ parms.cmd) →
        deviceDocmd (logged bus) parms (s, log) =
          (⟨if (bus.takeAbort parms.lid s').1 then 23 else 8, []⟩,
            (bus.takeAbort parms.lid s').2, log)) ∧
      ∀ command : Command, command.code = parms.cmd → command.carriesInteger = true →
        ∀ dataIn : List UInt8, dataIn.length = parms.dataIn.length →
          integerOf (!parms.networkOrder) dataIn = integerOf parms.networkOrder parms.dataIn →
          SameInOtherOrder parms.networkOrder (deviceDocmd (logged bus) parms (s, log))
            (deviceDocmd (logged bus) { parms with networkOrder := !parms.networkOrder, dataIn }
              (s, log)) := by
  have hlink' : (logged bus).linkFor parms.lid (s, log) = some true := hlink
  have haccess : ∀ access s', bus.acquireAccess parms.lid parms.flags parms.lockTimeoutMs s =
      (access, s') → (logged bus).acquireAccess parms.lid parms.flags parms.lockTimeoutMs (s, log) =
        (access, s', log) := by
    intro access s' h
    rw [logged]
    dsimp only
    rw [h]
  refine ⟨fun e s' h => ?_, fun s' h => ⟨fun command hcode hmismatch => ?_, fun hunknown => ?_, ?_⟩⟩
  · rw [deviceDocmd, hlink']
    dsimp only
    rw [haccess _ _ h]
    rfl
  · rw [deviceDocmd_eq hlink' (haccess _ _ h), runCode_code hcode, run_mismatch hmismatch]
    rfl
  · rw [deviceDocmd_eq hlink' (haccess _ _ h), runCode, ofCode_eq_none hunknown]
    rw [answer, logged, fail]
    cases (bus.takeAbort parms.lid s').1 <;> rfl
  · intro command hcode hcommand dataIn hlen hinteger
    exact deviceDocmd_flipped hlink' (haccess _ _ h) hcode hcommand hlen hinteger

/-- ATN to be asserted, the least significant byte first. -/
def assertAtn : DeviceDocmdParms := ⟨1, 0, 0, 0, 0x020002, false, 2, [1, 0]⟩

/-- The interface of an 82357. -/
def interfaceOf (met : BusSettings.Circumstances) :
    Interface (BusSettings.Docked Backend.Agilent.GpibController Backend.Agilent.Packet Unit) :=
  BusSettings.docmdInterface (Backend.BackendKind.backend Backend.oneError .agilent82357) met

/-- The same with the most significant byte first. -/
theorem docmd_refusals_and_orders_atn :
    SameInOtherOrder false
      (deviceDocmd (logged (interfaceOf { link := some ⟨true, 0⟩ })) assertAtn
        ((Backend.Agilent.answered [], false), []))
      (deviceDocmd (logged (interfaceOf { link := some ⟨true, 0⟩ }))
        { assertAtn with networkOrder := true, dataIn := [0, 1] }
        ((Backend.Agilent.answered [], false), [])) :=
  ((docmd_refusals_and_orders (interfaceOf { link := some ⟨true, 0⟩ }) assertAtn
    (Backend.Agilent.answered [], false) [] rfl).2 _ rfl).2.2 .atnControl rfl rfl [0, 1] rfl rfl

/-- A bus address of 31, on a link that another one has locked, and a command there is not, on a link that
was aborted. -/
theorem refusals_behind_gate :
    Mismatch ⟨1, 0, 0, 0, 0x02000A, true, 4, [0, 0, 0, 31]⟩ .busAddress ∧
    (deviceDocmd (logged (interfaceOf
        { link := some ⟨true, 0⟩, access := .error .deviceLockedByAnotherLink }))
      ⟨1, 0, 0, 0, 0x02000A, true, 4, [0, 0, 0, 31]⟩
      ((Backend.Agilent.answered [], false), [])).1.error = 11 ∧
    (∀ command : Command, command.code ≠ 0x020005) ∧
    (deviceDocmd (logged (interfaceOf { link := some ⟨true, 0⟩, abortedAtEnd := true }))
      ⟨1, 0, 0, 0, 0x020005, true, 4, []⟩
      ((Backend.Agilent.answered [], false), [])).1.error = 23 := by
  refine ⟨.address (by decide), rfl, fun command => ?_, rfl⟩
  cases command <;> decide

end Ugpibd.Vxi11.Docmd

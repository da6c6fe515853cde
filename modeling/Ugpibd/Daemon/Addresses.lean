import Ugpibd.Daemon.BusTraffic
import Ugpibd.Daemon.Names

/-! What a session or link puts on the bus to address its instrument, and the key its locks are taken
under. The bytes hold five bits of the address, the key holds all of it. -/
namespace Ugpibd.Daemon
open Library Vxi11 Hislip

/-- Listen address, as both adapters form it. -/
def listenAddress (pad : UInt8) : UInt8 := 0x20 ||| (pad &&& 0x1f)

/-- Talk address, as both adapters form it. -/
def talkAddress (pad : UInt8) : UInt8 := 0x40 ||| (pad &&& 0x1f)

/-- The bytes an adapter sends with ATN asserted. -/
inductive Command
  | unl
  | unt
  | spe
  | spd
  | gtl
  | sdc
  | get
  | llo
  | dcl
  | ownTalk
  | ownListen
  | talk (pad : UInt8)
  | listen (pad : UInt8)
  | raw (byte : UInt8)
  deriving DecidableEq, Repr

namespace Command

/-- The byte itself, for a controller at the address `own`. -/
def byte (own : UInt8) : Command → UInt8
  | .unl => 0x3f
  | .unt => 0x5f
  | .spe => 0x18
  | .spd => 0x19
  | .gtl => 0x01
  | .sdc => 0x04
  | .get => 0x08
  | .llo => 0x11
  | .dcl => 0x14
  | .ownTalk => talkAddress own
  | .ownListen => listenAddress own
  | .talk pad => talkAddress pad
  | .listen pad => listenAddress pad
  | .raw byte => byte

/-- Does it name an instrument? The controller's own address, which is part of every transfer, does
not. -/
def names : Command → Bool
  | .talk _ | .listen _ | .raw _ => true
  | _ => false

end Command

/-- The commands of a call, where nothing is addressed yet. -/
def BusCall.commands : BusCall → List Command
  | .write pad .. => [.unl, .ownTalk, .listen pad]
  | .read pad _ => [.unl, .ownListen, .talk pad]
  | .serialPoll pad => [.unl, .spe, .talk pad, .ownListen, .spd, .unt]
  | .trigger pad => [.unl, .listen pad, .get]
  | .deviceClear pad => [.unl, .listen pad, .sdc]
  | .goToRemote pad => [.unl, .listen pad]
  | .goToLocal pad => [.unl, .listen pad, .gtl]
  | .localLockout => [.llo]
  | .init _ => [.unl, .ownTalk]
  | .setListenOnly true => [.unl, .ownListen]
  | .sendDataUnaddressed .. | .ren _ | .srqAsserted | .busLines | .ifc | .setListenOnly false
  | .setDeviceMode _ => []

/-- The calls an operation can come to, with any replies to the earlier ones. -/
inductive Op.Comes (op : Op) : Option BusCall → Point → Prop
  | first (choice : Choice) {call : BusCall} {point : Point} :
      op.first choice = some (call, point) → op.Comes (some call) point
  | next {last call : Option BusCall} {point point' : Point} {reply : BusReply} {choice : Choice} :
      op.Comes last point → op.after reply choice point = .next call point' → op.Comes call point'
  | rejoin {last : Option BusCall} {call : BusCall} {point point' : Point} {reply : BusReply}
      {choice : Choice} : op.Comes last point →
      op.after reply choice point = .rejoin call point' → op.Comes (some call) point'

/-- The operations of an interface link. `other` stands for those without command bytes: data and
line transfers, and the controller's own address. -/
inductive InterfaceOp
  | sendCommand (bytes : List UInt8) (fits : bytes.length ≤ 128)
  | deviceTrigger
  | deviceClear
  | other

def InterfaceOp.commands : InterfaceOp → List Command
  | .sendCommand bytes _ => bytes.map .raw
  | .deviceTrigger => [.get]
  | .deviceClear => [.dcl]
  | .other => []

/-- The name a client gives: a sub-address or a device name. -/
inductive Name
  | subaddress (text : List Char)
  | device (text : List Char)
  deriving DecidableEq, Repr

/-- What the session or link is for, if the daemon accepts the name. -/
def Name.opens (defaultPad : UInt8) : Name → Option DeviceAddr
  | .subaddress text => (sessionDevice defaultPad text).map .pad
  | .device text => (parseDeviceName text defaultPad).toOption

/-- The key of its locks. -/
def lockKey : DeviceAddr → String
  | .interface => "gpib0:intf"
  | .pad pad => resourceKey pad

theorem resource_eq_lockKey (link : Link) : link.resource = lockKey link.kind := by
  rw [Link.resource]
  cases link.kind <;> rfl

/-- The operation is one of a session or link on the instrument. -/
def Op.isOn (pad : UInt8) : Op → Bool
  | .hislip _ pad' _ | .vxi11 _ pad' _ _ => pad' == pad
  | .prologix _ => false

/-- One of its operations sends these commands. -/
def Sends : DeviceAddr → List Command → Prop
  | .pad pad, commands => ∃ op : Op, op.isOn pad = true ∧
      ∃ call point, op.Comes (some call) point ∧ commands = call.commands
  | .interface, commands => ∃ op : InterfaceOp, commands = op.commands

/-- The bytes that are a talk or listen address: one below 31 each, the last is unlisten or untalk. -/
def IsAddress (byte : UInt8) : Prop :=
  32 ≤ byte.toNat ∧ byte.toNat < 96 ∧ byte.toNat % 32 ≠ 31

/-- One of its operations puts this address of an instrument on the bus. -/
def PutsAddress (own : UInt8) (addr : DeviceAddr) (byte : UInt8) : Prop :=
  IsAddress byte ∧ ∃ commands, Sends addr commands ∧
    ∃ command ∈ commands, command.names = true ∧ command.byte own = byte

/-- If both can address one instrument their locks are taken under one key. -/
def KeyFollowsAddress (own : UInt8) (addr addr' : DeviceAddr) : Prop :=
  ∀ byte, PutsAddress own addr byte → PutsAddress own addr' byte → lockKey addr = lockKey addr'

section
variable {own pad pad' byte : UInt8}

theorem listenAddress_toNat (pad : UInt8) : (listenAddress pad).toNat = 32 + pad.toNat % 32 := by
  have hlow : pad.toNat % 2 ^ 5 < 2 ^ 5 := Nat.mod_lt _ (by decide)
  have hor := Nat.two_pow_add_eq_or_of_lt hlow 1
  rw [listenAddress, UInt8.toNat_or, UInt8.toNat_and]
  change 32 ||| pad.toNat &&& (2 ^ 5 - 1) = _
  rw [Nat.and_two_pow_sub_one_eq_mod]
  exact hor.symm

theorem talkAddress_toNat (pad : UInt8) : (talkAddress pad).toNat = 64 + pad.toNat % 32 := by
  have hlow : pad.toNat % 2 ^ 5 < 2 ^ 5 := Nat.mod_lt _ (by decide)
  have hor := Nat.two_pow_add_eq_or_of_lt hlow 2
  rw [talkAddress, UInt8.toNat_or, UInt8.toNat_and]
  change 64 ||| pad.toNat &&& (2 ^ 5 - 1) = _
  rw [Nat.and_two_pow_sub_one_eq_mod]
  exact hor.symm

theorem resourceKey_injective (h : resourceKey pad = resourceKey pad') : pad = pad' := by
  rw [resourceKey, resourceKey, String.append_right_inj] at h
  exact UInt8.toNat_inj.mp (Nat.repr_injective h)

/-- No instrument's key is the interface's: it has a colon where theirs have digits. -/
theorem resourceKey_ne_interface (pad : UInt8) : resourceKey pad ≠ "gpib0:intf" := by
  intro h
  have hsplit : "gpib0:intf" = "gpib" ++ "0:intf" := rfl
  rw [resourceKey, hsplit, String.append_right_inj] at h
  have hcolon : ':' ∈ (toString pad.toNat).toList := by
    rw [h]
    simp
  have hdigits : ':' ∈ Nat.toDigits 10 pad.toNat := by simpa [Nat.repr] using hcolon
  have hdigit : ':'.isDigit = true := Nat.isDigit_of_mem_toDigits (by decide) (by decide) hdigits
  cases hdigit

theorem lockKey_injective {addr addr' : DeviceAddr} (h : lockKey addr = lockKey addr') :
    addr = addr' := by
  cases addr with
  | interface =>
    cases addr' with
    | interface => rfl
    | pad pad => exact absurd h.symm (resourceKey_ne_interface pad)
  | pad pad =>
    cases addr' with
    | interface => exact absurd h (resourceKey_ne_interface pad)
    | pad pad' => rw [resourceKey_injective h]

theorem Op.Comes.keepsTo {op : Op} {call : BusCall} {point : Point}
    (h : op.Comes (some call) point) : op.KeepsTo call := by
  cases h with
  | first _ h => exact Op.first_keepsTo h
  | next _ h => exact Op.after_keepsTo (by rw [h]; rfl)
  | rejoin _ h => exact Op.after_keepsTo (by rw [h]; rfl)

/-- An operation of a session or link on an instrument addresses that one or none. -/
theorem Op.Comes.pad_eq {op : Op} {call : BusCall} {point : Point} (h : op.Comes (some call) point)
    (hon : op.isOn pad = true) : call.pad = none ∨ call.pad = some pad := by
  have htarget : op.target = none ∨ op.target = some pad := by
    cases op with
    | hislip sessionId pad' op =>
      obtain rfl : pad' = pad := beq_iff_eq.mp hon
      cases op with
      | remoteLocalControl controlCode =>
        rw [Op.target]
        split
        · exact .inr rfl
        · exact .inl rfl
      | _ => exact .inr rfl
    | vxi11 lid pad' op waitlock =>
      obtain rfl : pad' = pad := beq_iff_eq.mp hon
      exact .inr rfl
    | prologix line => cases hon
  have hkeeps := h.keepsTo
  cases call with
  | sendDataUnaddressed => exact .inl rfl
  | _ =>
    rcases hkeeps with hnone | hown
    · exact .inl hnone
    · rcases htarget with hnobody | hpad
      · exact .inl (hown.trans hnobody)
      · exact .inr (hown.trans hpad)

/-- The commands of a call name only the instrument it addresses. -/
theorem names_of_mem_commands {call : BusCall} {command : Command} (h : command ∈ call.commands)
    (hnames : command.names = true) :
    ∃ pad, call.pad = some pad ∧ (command = .listen pad ∨ command = .talk pad) := by
  cases call with
  | write pad | read pad | serialPoll pad | trigger pad | deviceClear pad | goToRemote pad
  | goToLocal pad =>
    refine ⟨pad, rfl, ?_⟩
    simp only [BusCall.commands, List.mem_cons, List.not_mem_nil, or_false] at h
    rcases h with rfl | rfl | rfl | rfl | rfl | rfl <;>
      first | exact .inl rfl | exact .inr rfl | cases hnames
  | setListenOnly enable =>
    cases enable <;> simp [BusCall.commands] at h
    rcases h with rfl | rfl <;> cases hnames
  | init =>
    simp only [BusCall.commands, List.mem_cons, List.not_mem_nil, or_false] at h
    rcases h with rfl | rfl <;> cases hnames
  | localLockout =>
    obtain rfl := List.mem_singleton.mp h
    cases hnames
  | _ => cases h

/-- A session or link on an instrument puts the instrument's two bytes on the bus, where they are
addresses. -/
theorem putsAddress_pad_iff : PutsAddress own (.pad pad) byte ↔
    pad.toNat % 32 ≠ 31 ∧ (byte = listenAddress pad ∨ byte = talkAddress pad) := by
  constructor
  · rintro ⟨haddress, commands, ⟨op, hon, call, point, hcomes, rfl⟩, command, hmem, hnames, rfl⟩
    obtain ⟨named, hnamed, hcommand⟩ := names_of_mem_commands hmem hnames
    obtain rfl : named = pad := by
      rcases hcomes.pad_eq hon with hnone | hpad
      · rw [hnone] at hnamed
        cases hnamed
      · exact Option.some.inj (hnamed.symm.trans hpad)
    have hlow := haddress.2.2
    rcases hcommand with rfl | rfl
    · rw [Command.byte, listenAddress_toNat] at hlow
      exact ⟨by omega, .inl rfl⟩
    · rw [Command.byte, talkAddress_toNat] at hlow
      exact ⟨by omega, .inr rfl⟩
  · rintro ⟨hlow, rfl | rfl⟩
    · refine ⟨?_, _, ⟨.hislip 0 pad .trigger, beq_self_eq_true pad, .trigger pad, .last, .first {} rfl,
        rfl⟩, .listen pad, by simp [BusCall.commands], rfl, rfl⟩
      rw [IsAddress, listenAddress_toNat]
      omega
    · refine ⟨?_, _, ⟨.hislip 0 pad .statusQuery, beq_self_eq_true pad, .serialPoll pad, .last,
        .first {} rfl, rfl⟩, .talk pad, by simp [BusCall.commands], rfl, rfl⟩
      rw [IsAddress, talkAddress_toNat]
      omega

/-- An interface link can put any address on the bus. -/
theorem putsAddress_interface_iff : PutsAddress own .interface byte ↔ IsAddress byte := by
  refine ⟨And.left, fun h => ⟨h, [.raw byte], ⟨.sendCommand [byte] (by simp), rfl⟩, .raw byte,
    List.mem_singleton_self _, rfl, rfl⟩⟩

end

/-- The two never put one address on the bus. -/
def Apart : DeviceAddr → DeviceAddr → Prop
  | .pad pad, .pad pad' => pad.toNat % 32 ≠ pad'.toNat % 32
  | .pad pad, .interface | .interface, .pad pad => pad.toNat % 32 = 31
  | .interface, .interface => False

section
variable {own defaultPad pad : UInt8} {addr addr' : DeviceAddr}

theorem parseSubaddressPad_le {sub : List Char} (h : parseSubaddressPad sub = some pad) :
    pad ≤ 30 := by
  simp only [parseSubaddressPad] at h
  split at h
  · cases h
  · split at h
    · cases h
    · split at h
      · split at h
        · obtain rfl := Option.some.inj h
          assumption
        · cases h
      · cases h

/-- The front-ends keep the addresses in names within range; the default is taken as it is. -/
theorem Name.opens_pad {name : Name} (h : name.opens defaultPad = some (.pad pad)) :
    pad ≤ 30 ∨ pad = defaultPad := by
  cases name with
  | subaddress text =>
    simp only [Name.opens, sessionDevice, deviceFor] at h
    obtain ⟨pad', hpad', hsame⟩ := Option.map_eq_some_iff.mp h
    obtain rfl := DeviceAddr.pad.inj hsame
    rw [Option.some_inj] at hpad'
    cases hparse : parseSubaddressPad (if text = [] then defaultSubaddress else text) with
    | none =>
      rw [hparse] at hpad'
      exact .inr hpad'.symm
    | some n =>
      rw [hparse] at hpad'
      obtain rfl : n = pad' := hpad'
      exact .inl (parseSubaddressPad_le hparse)
  | device text =>
    have hparse : parseDeviceName text defaultPad = .ok (.pad pad) := by
      simp only [Name.opens] at h
      cases hname : parseDeviceName text defaultPad with
      | error e =>
        rw [hname] at h
        cases h
      | ok found =>
        rw [hname] at h
        rw [Option.some.inj h]
    rcases parseDeviceName_pad hparse with ⟨-, rfl⟩ | ⟨-, -, -, -, hrange⟩
    · exact .inr rfl
    · exact .inl hrange

theorem keyFollowsAddress_symm (h : KeyFollowsAddress own addr addr') :
    KeyFollowsAddress own addr' addr :=
  fun byte hbyte hbyte' => (h byte hbyte' hbyte).symm

/-- An address that an instrument's session puts on the bus, its listen address. -/
theorem putsAddress_listen (h : pad.toNat % 32 ≠ 31) :
    PutsAddress own (.pad pad) (listenAddress pad) :=
  putsAddress_pad_iff.mpr ⟨h, .inl rfl⟩

theorem keyFollowsAddress_interface_iff :
    KeyFollowsAddress own (.pad pad) .interface ↔ pad.toNat % 32 = 31 := by
  constructor
  · intro h
    by_contra hlow
    have hputs : PutsAddress own (.pad pad) (listenAddress pad) := putsAddress_listen hlow
    have hkey := h _ hputs (putsAddress_interface_iff.mpr hputs.1)
    cases lockKey_injective hkey
  · intro hlow byte hbyte
    exact absurd hlow (putsAddress_pad_iff.mp hbyte).1

/-- For two instruments: if the addresses agree in five bits they must agree in all. -/
theorem keyFollowsAddress_pad_iff {pad' : UInt8} :
    KeyFollowsAddress own (.pad pad) (.pad pad') ↔
      pad.toNat % 32 ≠ pad'.toNat % 32 ∨ pad.toNat % 32 = 31 ∨ pad = pad' := by
  constructor
  · intro h
    by_cases hsame : pad.toNat % 32 = pad'.toNat % 32
    · by_cases hlow : pad.toNat % 32 = 31
      · exact .inr (.inl hlow)
      · have hbyte : listenAddress pad = listenAddress pad' := by
          rw [← UInt8.toNat_inj, listenAddress_toNat, listenAddress_toNat, hsame]
        have hputs : PutsAddress own (.pad pad') (listenAddress pad) := by
          rw [hbyte]
          exact putsAddress_listen (by rwa [← hsame])
        have hkey := h _ (putsAddress_listen hlow) hputs
        exact .inr (.inr (DeviceAddr.pad.inj (lockKey_injective hkey)))
    · exact .inl hsame
  · rintro (hne | hlow | rfl)
    · intro byte hbyte hbyte'
      have hfive : byte.toNat % 32 = pad.toNat % 32 := by
        rcases (putsAddress_pad_iff.mp hbyte).2 with rfl | rfl
        · rw [listenAddress_toNat]; omega
        · rw [talkAddress_toNat]; omega
      have hfive' : byte.toNat % 32 = pad'.toNat % 32 := by
        rcases (putsAddress_pad_iff.mp hbyte').2 with rfl | rfl
        · rw [listenAddress_toNat]; omega
        · rw [talkAddress_toNat]; omega
      exact absurd (hfive.symm.trans hfive') hne
    · intro byte hbyte
      exact absurd hlow (putsAddress_pad_iff.mp hbyte).1
    · intro byte _ _
      rfl

end

/-- Two accepted names lead to operations that can address one instrument under different lock keys,
unless they mean the same or are never addressed alike. For instruments that is so whatever the names
while the default address has five bits. -/
theorem lock_key_follows_address_iff (own defaultPad : UInt8) (name name' : Name)
    (addr addr' : DeviceAddr) (h : name.opens defaultPad = some addr)
    (h' : name'.opens defaultPad = some addr') :
    (KeyFollowsAddress own addr addr' ↔ addr = addr' ∨ Apart addr addr') ∧
    (defaultPad.toNat < 32 → addr ≠ .interface → addr' ≠ .interface →
      KeyFollowsAddress own addr addr') := by
  cases addr with
  | interface =>
    refine ⟨?_, fun _ hinterface => absurd rfl hinterface⟩
    cases addr' with
    | interface => exact ⟨fun _ => .inl rfl, fun _ _ _ _ => rfl⟩
    | pad pad' =>
      have hiff : KeyFollowsAddress own (.pad pad') .interface ↔ pad'.toNat % 32 = 31 :=
        keyFollowsAddress_interface_iff
      refine ⟨fun hkey => .inr (hiff.mp (keyFollowsAddress_symm hkey)), ?_⟩
      rintro (hsame | hapart)
      · cases hsame
      · exact keyFollowsAddress_symm (hiff.mpr hapart)
  | pad pad =>
    cases addr' with
    | interface =>
      refine ⟨keyFollowsAddress_interface_iff.trans ⟨.inr, ?_⟩,
        fun _ _ hinterface => absurd rfl hinterface⟩
      rintro (hsame | hapart)
      · cases hsame
      · exact hapart
    | pad pad' =>
      have hpad : pad.toNat ≤ 30 ∨ pad = defaultPad :=
        (Name.opens_pad h).imp_left UInt8.le_iff_toNat_le.mp
      have hpad' : pad'.toNat ≤ 30 ∨ pad' = defaultPad :=
        (Name.opens_pad h').imp_left UInt8.le_iff_toNat_le.mp
      rw [keyFollowsAddress_pad_iff, DeviceAddr.pad.injEq, ← UInt8.toNat_inj, Apart]
      rw [← UInt8.toNat_inj] at hpad hpad'
      constructor <;> omega

/-- Default address 33: a session with no sub-address and one for address 1 listen to the same byte. -/
theorem address_bits_shared :
    Name.opens 33 (.subaddress []) = some (.pad 33) ∧
    Name.opens 33 (.device "gpib0,1".toList) = some (.pad 1) ∧
    PutsAddress 0 (.pad 33) 0x21 ∧ PutsAddress 0 (.pad 1) 0x21 ∧
    lockKey (.pad 33) = "gpib33" ∧ lockKey (.pad 1) = "gpib1" ∧
    ¬KeyFollowsAddress 0 (.pad 33) (.pad 1) := by
  refine ⟨by decide +kernel, by decide +kernel, putsAddress_pad_iff.mpr ⟨by decide, .inl rfl⟩,
    putsAddress_pad_iff.mpr ⟨by decide, .inl rfl⟩, rfl, rfl, ?_⟩
  rw [keyFollowsAddress_pad_iff]
  decide

/-- With the default of 0 all instruments are apart from one another. -/
theorem lock_key_follows_address_default :
    Name.opens 0 (.subaddress "hislip0".toList) = some (.pad 0) ∧
    Name.opens 0 (.device "gpib0,18".toList) = some (.pad 18) ∧
    KeyFollowsAddress 0 (.pad 0) (.pad 18) :=
  ⟨by decide +kernel, by decide +kernel,
    (lock_key_follows_address_iff 0 0 (.subaddress "hislip0".toList) (.device "gpib0,18".toList)
      (.pad 0) (.pad 18) (by decide +kernel) (by decide +kernel)).2 (by decide) (by decide)
      (by decide)⟩

end Ugpibd.Daemon

import Ugpibd.Library.Text
import Ugpibd.Vxi11.Links

/-! The names clients give instruments. VXI-11 parses a device name from its front and says what is
wrong with it; HiSLIP looks at the digits a sub-address ends with and falls back to the default. -/
namespace Ugpibd
open Library

/-- What follows `gpib`, split at its commas: the interface, of which the daemon has one, and the
address. A secondary address is refused, not dropped. -/
def Vxi11.parseBusAddress (parts : List (List Char)) : Except ErrorCode DeviceAddr :=
  match parseU8 (parts.headD []) with
  | none => .error .syntaxError
  | some interface =>
    if interface ≠ 0 then .error .deviceNotAccessible
    else match parts.tail with
      | [] => .error .syntaxError
      | padStr :: more => match parseU8 padStr with
        | none => .error .syntaxError
        | some pad =>
          if 30 < pad then .error .invalidAddress
          else if more ≠ [] then .error .invalidAddress
          else .ok (.pad pad)

/-- `create_link`'s device names: `inst0` for the default address, `gpib0` for the interface, and
`gpib0` with an address after a comma. -/
def Vxi11.parseDeviceName (name : List Char) (defaultPad : UInt8) :
    Except ErrorCode DeviceAddr :=
  let name := toAsciiLowercase (trim name)
  if name = "inst0".toList then .ok (.pad defaultPad)
  else if name = "gpib0".toList then .ok .interface
  else match name.dropPrefix? "gpib".toList with
    | none => .error .syntaxError
    | some rest => parseBusAddress (rest.splitOn ',')

namespace Hislip

/-- The sub-address of a client that gives none. -/
def defaultSubaddress : List Char := "hislip0".toList

/-- The address a sub-address ends with, if it is one and the name is not reserved. -/
def parseSubaddressPad (sub : List Char) : Option UInt8 :=
  let s := (trim sub).rdropWhile (· == '\x00')
  if s = [] ∨ toAsciiLowercase s = "hislip0".toList ∨ toAsciiLowercase s = "gpib0".toList then none
  else
    let tail := s.rtakeWhile fun c => c != ',' && c != ':'
    let digits := tail.rtakeWhile Char.isDigit
    if digits = [] then none
    else match parseU8 digits with
      | some n => if n ≤ 30 then some n else none
      | none => none

/-- The daemon's choice of an instrument. It has one for every sub-address. -/
def deviceFor (defaultPad : UInt8) (subaddr : List Char) : Option UInt8 :=
  some ((parseSubaddressPad subaddr).getD defaultPad)

/-- The instrument a client that sends this sub-address gets a session on. -/
def sessionDevice (defaultPad : UInt8) (payload : List Char) : Option UInt8 :=
  deviceFor defaultPad (if payload = [] then defaultSubaddress else payload)

end Hislip

namespace Daemon
open Vxi11 Hislip

/-- One name means one instrument to both front-ends, and a refused address none to either. -/
structure NameAgrees (defaultPad : UInt8) (name : List Char) : Prop where
  resolved : ∀ pad, parseDeviceName name defaultPad = .ok (.pad pad) →
    sessionDevice defaultPad name = some pad
  refused : parseDeviceName name defaultPad = .error .invalidAddress →
    sessionDevice defaultPad name = none

section
variable {name : List Char} {defaultPad pad : UInt8}

theorem parseBusAddress_pad {parts : List (List Char)}
    (h : parseBusAddress parts = .ok (.pad pad)) :
    ∃ first text, parts = [first, text] ∧ parseU8 text = some pad ∧ pad ≤ 30 := by
  obtain _ | ⟨first, _ | ⟨text, more⟩⟩ := parts
  · cases h
  · simp only [parseBusAddress, List.tail_cons] at h
    split at h
    · cases h
    · split at h <;> cases h
  · simp only [parseBusAddress, List.tail_cons] at h
    split at h
    · cases h
    · split at h
      · cases h
      · split at h
        · cases h
        · rename_i n hn
          split_ifs at h with hrange hmore
          cases h
          exact ⟨first, text, by rw [not_ne_iff.mp hmore], hn, UInt8.not_lt.mp hrange⟩

/-- The two ways to an address: the default one by name, or one after a comma. -/
theorem parseDeviceName_pad (h : parseDeviceName name defaultPad = .ok (.pad pad)) :
    (toAsciiLowercase (trim name) = "inst0".toList ∧ pad = defaultPad) ∨
      ∃ front text, toAsciiLowercase (trim name) = front ++ ',' :: text ∧
        parseU8 text = some pad ∧ pad ≤ 30 := by
  simp only [parseDeviceName] at h
  split at h
  · rename_i hinst
    cases h
    exact .inl ⟨hinst, rfl⟩
  · split at h
    · cases h
    · split at h
      · cases h
      · rename_i rest hrest
        obtain ⟨first, text, hparts, htext, hrange⟩ := parseBusAddress_pad h
        obtain ⟨start, hname, -⟩ := List.dropPrefix?_eq_some_iff.mp hrest
        have hjoin : [','].intercalate (rest.splitOn ',') = rest := List.intercalate_splitOn ','
        rw [hparts] at hjoin
        refine .inr ⟨start ++ first, text, ?_, htext, hrange⟩
        rw [hname, ← hjoin]
        simp

theorem not_isLower_of_isDigit {c : Char} (h : c.isDigit = true) : c.isLower = false := by
  simp [isLower_eq, Char.isDigit, UInt32.le_iff_toNat_le] at h ⊢
  omega

/-- The unfolded name ends as the folded one does after a comma and a number. -/
theorem trim_comma {front text : List Char}
    (hname : toAsciiLowercase (trim name) = front ++ ',' :: text)
    (htext : ∀ c ∈ text, c = '+' ∨ c.isDigit = true) :
    ∃ start, trim name = start ++ ',' :: text := by
  obtain ⟨start, tail, htrim, -, htail⟩ := List.map_eq_append_iff.mp hname
  obtain ⟨c, rest, rfl, hc, hrest⟩ := List.map_eq_cons_iff.mp htail
  have hlower : ∀ d ∈ text, d.isLower = false := by
    intro d hd
    rcases htext d hd with rfl | hdigit
    · rfl
    · exact not_isLower_of_isDigit hdigit
  obtain rfl : c = ',' := toLower_eq rfl hc
  obtain rfl : rest = text := map_toLower_eq hlower hrest
  exact ⟨start, htrim⟩

/-- A name that ends in digits has no trailing NUL. -/
theorem rdropWhile_nul_digits (start : List Char) {digits : List Char} (hne : digits ≠ [])
    (hdigits : ∀ c ∈ digits, c.isDigit = true) :
    (start ++ digits).rdropWhile (· == '\x00') = start ++ digits := by
  obtain ⟨init, last, rfl⟩ := List.eq_nil_or_concat' digits |>.resolve_left hne
  have hlast : ¬(last == '\x00') = true := by
    intro hnul
    have hdigit := hdigits last (List.mem_append_right _ List.mem_cons_self)
    rw [beq_iff_eq.mp hnul] at hdigit
    cases hdigit
  rw [← List.append_assoc]
  exact List.rdropWhile_concat_neg _ _ last hlast

/-- No name that HiSLIP keeps for its own default has a comma in it. -/
theorem not_reserved_of_comma {sub : List Char} (h : ',' ∈ toAsciiLowercase sub) :
    ¬(sub = [] ∨ toAsciiLowercase sub = "hislip0".toList ∨
      toAsciiLowercase sub = "gpib0".toList) := by
  rintro (rfl | hname | hname)
  · cases h
  · rw [hname] at h
    simp at h
  · rw [hname] at h
    simp at h

theorem not_separator {c : Char} (h : c = '+' ∨ c.isDigit = true) :
    (c != ',' && c != ':') = true := by
  rcases h with rfl | hdigit
  · decide
  · have hne_comma : c ≠ ',' := by rintro rfl; cases hdigit
    have hne_colon : c ≠ ':' := by rintro rfl; cases hdigit
    simp [hne_comma, hne_colon]

/-- HiSLIP takes the same address from a name with one after a comma. -/
theorem parseSubaddressPad_comma {front text : List Char}
    (hname : toAsciiLowercase (trim name) = front ++ ',' :: text) (htext : parseU8 text = some pad)
    (hrange : pad ≤ 30) : parseSubaddressPad name = some pad := by
  obtain ⟨digits, hne, hdigits, hvalue, hshape⟩ := parseU8_eq_some htext
  have hchars : ∀ c ∈ text, c = '+' ∨ c.isDigit = true := by
    rcases hshape with rfl | rfl
    · exact fun c hc => .inr (hdigits c hc)
    · exact List.forall_mem_cons.mpr ⟨.inl rfl, fun c hc => .inr (hdigits c hc)⟩
  obtain ⟨start, htrim⟩ := trim_comma hname hchars
  have hends : (trim name).rdropWhile (· == '\x00') = start ++ ',' :: text := by
    rw [htrim]
    rcases hshape with rfl | rfl
    · simpa using rdropWhile_nul_digits (start ++ [',']) hne hdigits
    · simpa using rdropWhile_nul_digits (start ++ [',', '+']) hne hdigits
  have hcomma : ',' ∈ toAsciiLowercase (start ++ ',' :: text) := by
    rw [← htrim, hname]
    exact List.mem_append_right _ List.mem_cons_self
  have htail : (start ++ ',' :: text).rtakeWhile (fun c => c != ',' && c != ':') = text :=
    rtakeWhile_append_cons start (by decide) fun c hc => not_separator (hchars c hc)
  have hrun : text.rtakeWhile Char.isDigit = digits := by
    rcases hshape with rfl | rfl
    · exact List.rtakeWhile_eq_self_iff.mpr hdigits
    · exact rtakeWhile_append_cons [] (by decide) hdigits
  simp only [parseSubaddressPad, hends, if_neg (not_reserved_of_comma hcomma), htail, hrun,
    if_neg hne, hvalue, if_pos hrange]

/-- The name of the default instrument ends in a zero. -/
theorem parseSubaddressPad_inst0 (h : toAsciiLowercase (trim name) = "inst0".toList) :
    parseSubaddressPad name = some 0 := by
  have hfolded : (trim name).map Char.toLower = "ins".toList ++ ['t', '0'] := h
  obtain ⟨start, tail, htrim, -, htail⟩ := List.map_eq_append_iff.mp hfolded
  obtain ⟨t, rest, rfl, ht, hrest⟩ := List.map_eq_cons_iff.mp htail
  obtain rfl : rest = ['0'] := map_toLower_eq (by simp) hrest
  have hdigit : ¬t.isDigit = true := by
    intro hdigit
    obtain rfl : t = 't' := (toLower_of_isDigit hdigit).symm.trans ht
    cases hdigit
  have hkept : (t != ',' && t != ':') = true := by
    have hne_comma : t ≠ ',' := by rintro rfl; cases ht
    have hne_colon : t ≠ ':' := by rintro rfl; cases ht
    simp [hne_comma, hne_colon]
  have hends : (trim name).rdropWhile (· == '\x00') = trim name := by
    rw [htrim]
    simp
  have hreserved : ¬(trim name = [] ∨ toAsciiLowercase (trim name) = "hislip0".toList ∨
      toAsciiLowercase (trim name) = "gpib0".toList) := by
    rw [h, htrim]
    simp
  have htail' : (trim name).rtakeWhile (fun c => c != ',' && c != ':') =
      start.rtakeWhile (fun c => c != ',' && c != ':') ++ [t, '0'] := by
    rw [htrim, ← List.singleton_append, ← List.append_assoc,
      List.rtakeWhile_concat_pos _ _ '0' (by decide), List.rtakeWhile_concat_pos _ _ t hkept,
      List.append_assoc, List.singleton_append]
  have hrun : (start.rtakeWhile (fun c => c != ',' && c != ':') ++ [t, '0']).rtakeWhile
      Char.isDigit = ['0'] := rtakeWhile_append_cons _ hdigit (by simp)
  simp only [parseSubaddressPad, hends, if_neg hreserved, htail', hrun]
  decide

theorem sessionDevice_of_parse (h : parseSubaddressPad name = some pad) :
    sessionDevice defaultPad name = some pad := by
  have hname : name ≠ [] := by
    rintro rfl
    cases h
  rw [sessionDevice, if_neg hname, deviceFor, h]
  rfl

end

/-- The front-ends agree on a name exactly when VXI-11 does not refuse its address and it is not the
default instrument's, or that one is at address 0. -/
theorem name_agrees_iff (defaultPad : UInt8) (name : List Char) :
    NameAgrees defaultPad name ↔
      parseDeviceName name defaultPad ≠ .error .invalidAddress ∧
      (toAsciiLowercase (trim name) = "inst0".toList → defaultPad = 0) := by
  constructor
  · intro h
    refine ⟨fun hrefused => ?_, fun hinst => ?_⟩
    · have hnone := h.refused hrefused
      cases hnone
    · have hparsed : parseDeviceName name defaultPad = .ok (.pad defaultPad) := by
        simp only [parseDeviceName, hinst, if_true]
      have hsession := h.resolved defaultPad hparsed
      rw [sessionDevice_of_parse (parseSubaddressPad_inst0 hinst)] at hsession
      exact (Option.some.inj hsession).symm
  · rintro ⟨hrefused, hinst⟩
    refine ⟨fun pad hpad => ?_, fun h => absurd h hrefused⟩
    rcases parseDeviceName_pad hpad with ⟨hname, rfl⟩ | ⟨front, text, hname, htext, hrange⟩
    · rw [hinst hname]
      exact sessionDevice_of_parse (parseSubaddressPad_inst0 hname)
    · exact sessionDevice_of_parse (parseSubaddressPad_comma hname htext hrange)

/-- A secondary address is taken for the primary one, an address out of range for the default, and the
default instrument's name for address 0. -/
theorem refused_names_open_sessions :
    parseDeviceName "gpib0,5,7".toList 3 = .error .invalidAddress ∧
    sessionDevice 3 "gpib0,5,7".toList = some 7 ∧
    parseDeviceName "gpib0,31".toList 3 = .error .invalidAddress ∧
    sessionDevice 3 "gpib0,31".toList = some 3 ∧
    parseDeviceName "inst0".toList 3 = .ok (.pad 3) ∧ sessionDevice 3 "inst0".toList = some 0 := by
  decide +kernel

end Daemon
end Ugpibd

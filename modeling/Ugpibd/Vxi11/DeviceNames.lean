import Ugpibd.Daemon.Names

/-! The language of device names: which names mean an instrument or the interface, which are refused
and with what error, and where the parser of the source takes more than that. -/
namespace Ugpibd.Vxi11
open Library

/-- The first field of a name stops here. -/
def EndOrComma (more : List Char) : Prop := more = [] ∨ ∃ fields, more = ',' :: fields

/-- The names that are no syntax error, folded and without the blanks around them. A numeral has no
sign, and the interface the daemon has is written as one zero. -/
inductive Named (defaultPad : UInt8) : List Char → Except ErrorCode DeviceAddr → Prop
  | default : Named defaultPad "inst0".toList (.ok (.pad defaultPad))
  | interface : Named defaultPad "gpib0".toList (.ok .interface)
  | address {text : List Char} {n : Nat} (numeral : Numeral text n) (range : n ≤ 30) :
      Named defaultPad ("gpib0,".toList ++ text) (.ok (.pad (.ofNat n)))
  | outOfRange {text : List Char} {n : Nat} (numeral : Numeral text n) (low : 31 ≤ n)
      (high : n ≤ 255) : Named defaultPad ("gpib0,".toList ++ text) (.error .invalidAddress)
  | secondary {text : List Char} {n : Nat} (more : List Char) (numeral : Numeral text n)
      (high : n ≤ 255) :
      Named defaultPad ("gpib0,".toList ++ text ++ ',' :: more) (.error .invalidAddress)
  | otherInterface {text more : List Char} {n : Nat} (numeral : Numeral text n) (low : 1 ≤ n)
      (high : n ≤ 255) (ends : EndOrComma more) :
      Named defaultPad ("gpib".toList ++ text ++ more) (.error .deviceNotAccessible)

/-- What a folded name means. -/
def Means (defaultPad : UInt8) (name : List Char) (result : Except ErrorCode DeviceAddr) : Prop :=
  Named defaultPad name result ∨
    result = .error .syntaxError ∧ ∀ other, ¬Named defaultPad name other

/-- The names the parser takes although they are syntax errors: those with a number behind a plus
sign, and those that write the number of the interface as something else than one zero. -/
inductive Lenient : List Char → Prop
  | signedInterface {digits more : List Char} {n : Nat} (numeral : Numeral digits n) (low : 1 ≤ n)
      (high : n ≤ 255) (ends : EndOrComma more) :
      Lenient ("gpib".toList ++ '+' :: digits ++ more)
  | otherZero {bus text more : List Char} {n : Nat} (zero : Denotes bus 0) (spelt : bus ≠ ['0'])
      (denotes : Denotes text n) (high : n ≤ 255) (ends : EndOrComma more) :
      Lenient ("gpib".toList ++ bus ++ ',' :: (text ++ more))
  | signedAddress {digits more : List Char} {n : Nat} (numeral : Numeral digits n) (high : n ≤ 255)
      (ends : EndOrComma more) : Lenient ("gpib0,".toList ++ '+' :: digits ++ more)

/-- The fields after the first. -/
def laterFields : List Char → List (List Char)
  | [] => []
  | _ :: fields => fields.splitOn ','

theorem splitOn_field {field more : List Char} (hfield : ',' ∉ field) (hends : EndOrComma more) :
    (field ++ more).splitOn ',' = field :: laterFields more := by
  rcases hends with rfl | ⟨fields, rfl⟩
  · rw [List.append_nil]
    exact List.splitOn_eq_singleton hfield
  · exact List.splitOn_append_cons_self_of_not_mem hfield fields

theorem exists_field (text : List Char) :
    ∃ field more, text = field ++ more ∧ ',' ∉ field ∧ EndOrComma more := by
  induction text with
  | nil => exact ⟨[], [], rfl, List.not_mem_nil, .inl rfl⟩
  | cons c rest ih =>
    by_cases hcomma : c = ','
    · subst hcomma
      exact ⟨[], ',' :: rest, rfl, List.not_mem_nil, .inr ⟨rest, rfl⟩⟩
    · obtain ⟨field, more, rfl, hfield, hends⟩ := ih
      refine ⟨c :: field, more, rfl, ?_, hends⟩
      rintro (_ | ⟨_, hmem⟩)
      · exact hcomma rfl
      · exact hfield hmem

/-- A text has one first field. -/
theorem field_unique {field field' more more' : List Char} (hfield : ',' ∉ field)
    (hfield' : ',' ∉ field') (hends : EndOrComma more) (hends' : EndOrComma more')
    (h : field ++ more = field' ++ more') : field = field' ∧ more = more' := by
  have hsplit := splitOn_field hfield hends
  rw [h, splitOn_field hfield' hends'] at hsplit
  obtain ⟨rfl, -⟩ := List.cons.inj hsplit
  exact ⟨rfl, List.append_cancel_left h⟩

theorem gpib0_comma (text : List Char) :
    "gpib0,".toList ++ text = "gpib".toList ++ ['0'] ++ ',' :: text := by
  simp

theorem numeral_zero : Numeral ['0'] 0 := ⟨by decide, by simp, rfl⟩

section parser
variable {name bus more text : List Char} {defaultPad : UInt8} {n : Nat}

theorem parseU8_of_denotes (h : Denotes text n) (hn : n ≤ 255) :
    parseU8 text = some (.ofNat n) := by
  rw [parseU8_eq_some_iff, UInt8.toNat_ofNat_of_lt' (Nat.lt_succ_of_le hn)]
  exact h

/-- A name with `gpib` in front is taken apart at its commas. -/
theorem parseDeviceName_fields (hname : toAsciiLowercase (trim name) = "gpib".toList ++ bus ++ more)
    (hbus : ',' ∉ bus) (hends : EndOrComma more) (hbare : bus = ['0'] → more ≠ []) :
    parseDeviceName name defaultPad = parseBusAddress (bus :: laterFields more) := by
  have hinst : "gpib".toList ++ (bus ++ more) ≠ "inst0".toList := by simp
  have hgpib : "gpib".toList ++ (bus ++ more) ≠ "gpib0".toList := by
    intro h
    have hzero : bus ++ more = ['0'] ++ [] := by simpa using h
    obtain ⟨rfl, rfl⟩ := field_unique hbus (by decide) hends (.inl rfl) hzero
    exact hbare rfl rfl
  have hdrop : ("gpib".toList ++ (bus ++ more)).dropPrefix? "gpib".toList = some (bus ++ more) :=
    List.dropPrefix?_eq_some_iff.mpr ⟨_, rfl, beq_self_eq_true _⟩
  rw [List.append_assoc] at hname
  simp only [parseDeviceName, hname, if_neg hinst, if_neg hgpib, hdrop, splitOn_field hbus hends]

theorem parseBusAddress_other {fields : List (List Char)} (hbus : Denotes bus n) (hlow : 1 ≤ n)
    (hhigh : n ≤ 255) : parseBusAddress (bus :: fields) = .error .deviceNotAccessible := by
  have hne : UInt8.ofNat n ≠ 0 := by
    intro h
    have hzero : n % 256 = 0 := congrArg UInt8.toNat h
    omega
  simp only [parseBusAddress, List.headD_cons, parseU8_of_denotes hbus hhigh, if_pos hne]

theorem parseBusAddress_zero {fields : List (List Char)} (hbus : Denotes bus 0)
    (htext : Denotes text n) (hhigh : n ≤ 255) : parseBusAddress (bus :: text :: fields) =
      if 30 < n then .error .invalidAddress
      else if fields ≠ [] then .error .invalidAddress
      else .ok (.pad (.ofNat n)) := by
  have hrange : (30 < UInt8.ofNat n) ↔ 30 < n := by
    rw [UInt8.lt_iff_toNat_lt, UInt8.toNat_ofNat_of_lt' (Nat.lt_succ_of_le hhigh)]
    rfl
  simp only [parseBusAddress, List.headD_cons, parseU8_of_denotes hbus (Nat.zero_le 255),
    parseU8_of_denotes htext hhigh, List.tail_cons, hrange]
  rfl

/-- Without a syntax error the numbers could be read. -/
theorem parseBusAddress_denotes {fields : List (List Char)}
    (h : parseBusAddress (bus :: fields) ≠ .error .syntaxError) :
    (∃ n, Denotes bus n ∧ 1 ≤ n ∧ n ≤ 255) ∨
      Denotes bus 0 ∧ ∃ text rest n, fields = text :: rest ∧ Denotes text n ∧ n ≤ 255 := by
  simp only [parseBusAddress, List.headD_cons, List.tail_cons] at h
  split at h
  · exact absurd rfl h
  · rename_i interface hinterface
    have hdenotes := parseU8_eq_some_iff.mp hinterface
    by_cases hzero : interface = 0
    · subst hzero
      rw [if_neg (not_not_intro rfl)] at h
      refine .inr ⟨hdenotes, ?_⟩
      split at h
      · exact absurd rfl h
      · split at h
        · exact absurd rfl h
        · rename_i text rest _ pad hpad
          exact ⟨text, rest, pad.toNat, rfl, parseU8_eq_some_iff.mp hpad,
            Nat.le_of_lt_succ pad.toNat_lt⟩
    · refine .inl ⟨interface.toNat, hdenotes, ?_, Nat.le_of_lt_succ interface.toNat_lt⟩
      exact Nat.pos_of_ne_zero fun h => hzero (UInt8.toNat_inj.mp h)

end parser

section language
variable {name : List Char} {defaultPad : UInt8} {result : Except ErrorCode DeviceAddr}

/-- The parser gives every name of the language its meaning. -/
theorem parseDeviceName_of_named (h : Named defaultPad (toAsciiLowercase (trim name)) result) :
    parseDeviceName name defaultPad = result := by
  generalize hname : toAsciiLowercase (trim name) = folded at h
  cases h with
  | default => simp only [parseDeviceName, hname, if_true]
  | interface => simp [parseDeviceName, hname]
  | address numeral range =>
    have hcomma : ',' ∉ _ := numeral.not_mem rfl
    rw [gpib0_comma] at hname
    rw [parseDeviceName_fields hname (by decide) (.inr ⟨_, rfl⟩) (fun _ => List.cons_ne_nil _ _),
      laterFields, List.splitOn_eq_singleton hcomma,
      parseBusAddress_zero (.inl numeral_zero) (.inl numeral) (by omega),
      if_neg (by omega), if_neg (not_not_intro rfl)]
  | outOfRange numeral low high =>
    have hcomma : ',' ∉ _ := numeral.not_mem rfl
    rw [gpib0_comma] at hname
    rw [parseDeviceName_fields hname (by decide) (.inr ⟨_, rfl⟩) (fun _ => List.cons_ne_nil _ _),
      laterFields, List.splitOn_eq_singleton hcomma,
      parseBusAddress_zero (.inl numeral_zero) (.inl numeral) high,
      if_pos (show 30 < _ from low)]
  | secondary more numeral high =>
    have hcomma : ',' ∉ _ := numeral.not_mem rfl
    rw [List.append_assoc, gpib0_comma] at hname
    rw [parseDeviceName_fields hname (by decide) (.inr ⟨_, rfl⟩) (fun _ => List.cons_ne_nil _ _),
      laterFields, List.splitOn_append_cons_self_of_not_mem hcomma,
      parseBusAddress_zero (.inl numeral_zero) (.inl numeral) high,
      if_pos (List.splitOn_ne_nil ',' more), ite_self]
  | otherInterface numeral low high ends =>
    rw [parseDeviceName_fields hname (numeral.not_mem rfl) ends fun hzero => ?_,
      parseBusAddress_other (.inl numeral) low high]
    subst hzero
    have := numeral.unique numeral_zero
    omega

/-- A name that is not a syntax error to the parser is in the language, or taken leniently. -/
theorem named_of_parseDeviceName (h : parseDeviceName name defaultPad ≠ .error .syntaxError) :
    Lenient (toAsciiLowercase (trim name)) ∨
      ∃ result, Named defaultPad (toAsciiLowercase (trim name)) result := by
  by_cases hinst : toAsciiLowercase (trim name) = "inst0".toList
  · rw [hinst]
    exact .inr ⟨_, .default⟩
  by_cases hgpib : toAsciiLowercase (trim name) = "gpib0".toList
  · rw [hgpib]
    exact .inr ⟨_, .interface⟩
  simp only [parseDeviceName, if_neg hinst, if_neg hgpib] at h
  split at h
  · exact absurd rfl h
  · rename_i rest hrest
    obtain ⟨front, hname, hfront⟩ := List.dropPrefix?_eq_some_iff.mp hrest
    obtain rfl : front = "gpib".toList := beq_iff_eq.mp hfront
    obtain ⟨bus, more, rfl, hbus, hends⟩ := exists_field rest
    rw [splitOn_field hbus hends] at h
    rw [hname, ← List.append_assoc]
    obtain ⟨n, hdenotes, hlow, hhigh⟩ | ⟨hzero, text, fields, n, hlater, hdenotes, hhigh⟩ :=
      parseBusAddress_denotes h
    · rcases hdenotes with numeral | ⟨digits, rfl, numeral⟩
      · exact .inr ⟨_, .otherInterface numeral hlow hhigh hends⟩
      · exact .inl (.signedInterface numeral hlow hhigh hends)
    · obtain rfl | ⟨after, rfl⟩ := hends
      · cases hlater
      obtain ⟨field, rest, rfl, hfield, hrestEnds⟩ := exists_field after
      rw [laterFields, splitOn_field hfield hrestEnds] at hlater
      obtain ⟨rfl, -⟩ := List.cons.inj hlater
      by_cases hspelt : bus = ['0']
      · subst hspelt
        rw [← gpib0_comma, ← List.append_assoc]
        rcases hdenotes with numeral | ⟨digits, rfl, numeral⟩
        · refine .inr ?_
          rcases hrestEnds with rfl | ⟨sad, rfl⟩
          · rw [List.append_nil]
            rcases Nat.lt_or_ge 30 n with hrange | hrange
            · exact ⟨_, .outOfRange numeral hrange hhigh⟩
            · exact ⟨_, .address numeral hrange⟩
          · exact ⟨_, .secondary sad numeral hhigh⟩
        · exact .inl (.signedAddress numeral hhigh hrestEnds)
      · exact .inl (.otherZero hzero hspelt hdenotes hhigh hrestEnds)

/-- The first field of a name of the language, and the second where there is one. -/
theorem Named.fields {folded bus more : List Char} (h : Named defaultPad folded result)
    (hfolded : folded = "gpib".toList ++ bus ++ more) (hbus : ',' ∉ bus) (hends : EndOrComma more) :
    (bus = ['0'] ∧ (more = [] ∨ ∃ text rest n, more = ',' :: (text ++ rest) ∧ EndOrComma rest ∧
      Numeral text n)) ∨ ∃ n, 1 ≤ n ∧ Numeral bus n := by
  have hcase : ∀ {field after : List Char}, folded = "gpib".toList ++ field ++ after →
      ',' ∉ field → EndOrComma after → bus = field ∧ more = after := by
    intro field after hafter hfield hafterEnds
    refine field_unique hbus hfield hends hafterEnds ?_
    rw [hfolded, List.append_assoc, List.append_assoc] at hafter
    exact List.append_cancel_left hafter
  cases h with
  | default => simp at hfolded
  | interface =>
    obtain ⟨rfl, rfl⟩ := hcase (show _ = _ ++ ['0'] ++ [] by simp) (by decide) (.inl rfl)
    exact .inl ⟨rfl, .inl rfl⟩
  | address numeral range =>
    obtain ⟨rfl, rfl⟩ := hcase (gpib0_comma _) (by decide) (.inr ⟨_, rfl⟩)
    exact .inl ⟨rfl, .inr ⟨_, [], _, by rw [List.append_nil], .inl rfl, numeral⟩⟩
  | outOfRange numeral low high =>
    obtain ⟨rfl, rfl⟩ := hcase (gpib0_comma _) (by decide) (.inr ⟨_, rfl⟩)
    exact .inl ⟨rfl, .inr ⟨_, [], _, by rw [List.append_nil], .inl rfl, numeral⟩⟩
  | secondary sad numeral high =>
    rw [List.append_assoc] at hcase
    obtain ⟨rfl, rfl⟩ := hcase (gpib0_comma _) (by decide) (.inr ⟨_, rfl⟩)
    exact .inl ⟨rfl, .inr ⟨_, _, _, rfl, .inr ⟨sad, rfl⟩, numeral⟩⟩
  | otherInterface numeral low high ends =>
    obtain ⟨rfl, rfl⟩ := hcase rfl (numeral.not_mem rfl) ends
    exact .inr ⟨_, low, numeral⟩

theorem Named.ne_syntaxError {folded : List Char} (h : Named defaultPad folded result) :
    result ≠ .error .syntaxError := by
  cases h <;> simp

/-- A name that is taken leniently is a syntax error in the language. -/
theorem Lenient.not_named {folded : List Char} (h : Lenient folded) :
    ¬Named defaultPad folded result := by
  intro hnamed
  cases h with
  | signedInterface numeral low high ends =>
    have hbus := Denotes.not_comma (.inr ⟨_, rfl, numeral⟩)
    obtain ⟨hzero, -⟩ | ⟨n, -, hplus⟩ := hnamed.fields rfl hbus ends
    · cases hzero
    · exact hplus.not_plus
  | otherZero zero spelt denotes high ends =>
    obtain ⟨hzero, -⟩ | ⟨n, hlow, hn⟩ := hnamed.fields rfl zero.not_comma (.inr ⟨_, rfl⟩)
    · exact spelt hzero
    · have := zero.unique hn
      omega
  | signedAddress numeral high ends =>
    have htext := Denotes.not_comma (.inr ⟨_, rfl, numeral⟩)
    rw [List.append_assoc, gpib0_comma] at hnamed
    obtain ⟨-, hmore | ⟨text, rest, n, hmore, hrest, hn⟩⟩ | ⟨n, hlow, hn⟩ :=
      hnamed.fields rfl (by decide) (.inr ⟨_, rfl⟩)
    · cases hmore
    · obtain ⟨rfl, -⟩ := field_unique htext (hn.not_mem rfl) ends hrest (List.cons.inj hmore).2
      exact hn.not_plus
    · have := hn.unique numeral_zero
      omega

/-- The parser takes what it takes leniently. -/
theorem Lenient.parsed (h : Lenient (toAsciiLowercase (trim name))) :
    parseDeviceName name defaultPad ≠ .error .syntaxError := by
  generalize hname : toAsciiLowercase (trim name) = folded at h
  have hzero : ∀ {bus text more : List Char} {n : Nat}, Denotes bus 0 → Denotes text n → n ≤ 255 →
      EndOrComma more → folded = "gpib".toList ++ bus ++ ',' :: (text ++ more) →
      parseDeviceName name defaultPad ≠ .error .syntaxError := by
    intro bus text more n hbus htext hhigh hends hfolded
    rw [parseDeviceName_fields (hname.trans hfolded) hbus.not_comma (.inr ⟨_, rfl⟩)
      (fun _ => List.cons_ne_nil _ _), laterFields, splitOn_field htext.not_comma hends,
      parseBusAddress_zero hbus htext hhigh]
    split_ifs <;> simp
  cases h with
  | signedInterface numeral low high ends =>
    have hdenotes : Denotes _ _ := .inr ⟨_, rfl, numeral⟩
    rw [parseDeviceName_fields hname hdenotes.not_comma ends (fun h => by cases h),
      parseBusAddress_other hdenotes low high]
    simp
  | otherZero zero spelt denotes high ends => exact hzero zero denotes high ends rfl
  | signedAddress numeral high ends =>
    refine hzero (.inl numeral_zero) (.inr ⟨_, rfl, numeral⟩) high ends ?_
    rw [List.append_assoc, gpib0_comma]

end language

/-- The parser gives a name its meaning in the language exactly when it does not take it
leniently. -/
theorem deviceName_means_iff (name : List Char) (defaultPad : UInt8) :
    (∀ result, parseDeviceName name defaultPad = result ↔
      Means defaultPad (toAsciiLowercase (trim name)) result) ↔
    ¬Lenient (toAsciiLowercase (trim name)) := by
  constructor
  · intro h hlenient
    rcases (h _).mp rfl with hnamed | ⟨herror, -⟩
    · exact hlenient.not_named hnamed
    · exact hlenient.parsed herror
  · intro hlenient result
    constructor
    · rintro rfl
      by_cases herror : parseDeviceName name defaultPad = .error .syntaxError
      · refine .inr ⟨herror, fun other hnamed => ?_⟩
        exact hnamed.ne_syntaxError ((parseDeviceName_of_named hnamed).symm.trans herror)
      · obtain ⟨other, hnamed⟩ := (named_of_parseDeviceName herror).resolve_left hlenient
        rw [parseDeviceName_of_named hnamed]
        exact .inl hnamed
    · rintro (hnamed | ⟨rfl, hnone⟩)
      · exact parseDeviceName_of_named hnamed
      · by_contra herror
        obtain ⟨other, hnamed⟩ := (named_of_parseDeviceName herror).resolve_left hlenient
        exact hnone other hnamed

/-- A sign is dropped, and a second zero is taken for the interface as well. -/
theorem lenient_names_parsed :
    parseDeviceName "gpib0,+5".toList 3 = .ok (.pad 5) ∧
    Means 3 (toAsciiLowercase (trim "gpib0,+5".toList)) (.error .syntaxError) ∧
    parseDeviceName "gpib00,5".toList 3 = .ok (.pad 5) ∧
    Means 3 (toAsciiLowercase (trim "gpib00,5".toList)) (.error .syntaxError) := by
  have hsigned : Lenient (toAsciiLowercase (trim "gpib0,+5".toList)) := by
    have hname : toAsciiLowercase (trim "gpib0,+5".toList) =
        "gpib0,".toList ++ '+' :: ['5'] ++ [] := by
      decide +kernel
    rw [hname]
    exact .signedAddress ⟨by decide, by simp, rfl⟩ (by decide) (.inl rfl)
  have hzeros : Lenient (toAsciiLowercase (trim "gpib00,5".toList)) := by
    have hname : toAsciiLowercase (trim "gpib00,5".toList) =
        "gpib".toList ++ ['0', '0'] ++ ',' :: (['5'] ++ []) := by
      decide +kernel
    rw [hname]
    exact .otherZero (.inl ⟨by decide, by simp, rfl⟩) (by decide) (.inl ⟨by decide, by simp, rfl⟩)
      (by decide) (.inl rfl)
  exact ⟨by decide +kernel, .inr ⟨rfl, fun _ => hsigned.not_named⟩, by decide +kernel,
    .inr ⟨rfl, fun _ => hzeros.not_named⟩⟩

end Ugpibd.Vxi11

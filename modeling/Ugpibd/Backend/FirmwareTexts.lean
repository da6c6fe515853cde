import Ugpibd.Backend.AgilentFirmware

/-! Firmware texts as they are written, and what becomes of them when one character of a record is
replaced. Another digit changes one byte and so the sum of the record. A character that is no digit
cannot be read, and one that is trimmed or ends the line leaves too few digits. -/
namespace Ugpibd.Backend.Agilent
open Library

variable {written front back digits line before after left right s : List Char} {c c' : Char}
  {r : Record} {lead : Char → Option Nat} {records new : List HexRecord} {earlier later : List (List Char)}

/-- Data records in lines of their own, with blank lines between them, up to an EOF record. -/
inductive Written : List HexRecord → List Char → Prop
  | eof (r : Record) {written after} (hkind : r.kind = 0x01) (hline : r.Line hexDigit written)
      (hafter : after = [] ∨ ∃ ending rest, LineEnd ending ∧ after = ending ++ rest) :
      Written [] (written ++ after)
  | blank {line ending text records} (hblank : ∀ c ∈ line, isWhitespace c) (hline : '\n' ∉ line)
      (hending : LineEnd ending) (hrest : Written records text) :
      Written records (line ++ ending ++ text)
  | data (r : Record) {written ending text records} (hkind : r.kind = 0x00)
      (hline : r.Line hexDigit written) (hending : LineEnd ending) (hrest : Written records text) :
      Written (r.content :: records) (written ++ ending ++ text)

/-- A record in a line of its own, with blanks around it, behind lines that are read and have no EOF
record. -/
structure Occurrence where
  before : List Char
  left : List Char
  written : List Char
  right : List Char
  after : List Char
  starts : before = [] ∨ ∃ front, before = front ++ ['\n']
  ends : after = [] ∨ ∃ back, after = '\n' :: back
  left_blank : ∀ c ∈ left, isWhitespace c
  right_blank : ∀ c ∈ right, isWhitespace c
  left_line : '\n' ∉ left
  right_line : '\n' ∉ right
  read : ∃ records, Loads leadDigit (lines before) records
  record : Record
  line : record.Line hexDigit written

/-- The text when `written` stands in place of the record. -/
def Occurrence.textWith (o : Occurrence) (written : List Char) : List Char :=
  o.before ++ (o.left ++ written ++ o.right ++ o.after)

/-- A line that is not blank and cannot be read. -/
def Unreadable (line : List Char) : Prop :=
  trim line ≠ [] ∧ ∃ cause, parseLine (trim line) = .error (.error cause)

/-- Both are digits, and of one value. -/
def SameDigit (c c' : Char) : Prop := ∃ v, hexDigit c = some v ∧ hexDigit c' = some v

namespace Record.Line

theorem mem (h : r.Line hexDigit written) (hc : c ∈ written) : c = ':' ∨ ∃ v, hexDigit c = some v := by
  obtain ⟨digits, rfl, hdigits⟩ := h
  exact (List.mem_cons.mp hc).imp_right (hexDigit_of_readPairs hdigits c)

theorem not_isWhitespace (h : r.Line hexDigit written) (hc : c ∈ written) : ¬isWhitespace c := by
  rcases h.mem hc with rfl | ⟨v, hv⟩
  · decide
  · exact hexDigit_not_isWhitespace hv

theorem newline_not_mem (h : r.Line hexDigit written) : '\n' ∉ written :=
  fun hmem => h.not_isWhitespace hmem rfl

end Record.Line

/-- No part of a record has anything to trim. -/
theorem trim_of_not_isWhitespace (h : ∀ c ∈ s, ¬isWhitespace c) : trim s = s :=
  trim_eq_self (fun c hc => h c (List.mem_of_mem_head? hc)) fun c hc => h c (List.mem_of_mem_getLast? hc)

theorem Record.Line.trim_eq (h : r.Line hexDigit written) : trim written = written :=
  trim_of_not_isWhitespace fun _ => h.not_isWhitespace

/-- Texts as they are written are accepted. -/
theorem Written.accepts {text : List Char} (h : Written records text) :
    Accepts hexDigit (lines text) records := by
  induction h with
  | @eof r written after hkind hline hafter =>
    have hfirst : ∃ line' later, lines (written ++ after) = line' :: later ∧ trim line' = written := by
      rcases hafter with rfl | ⟨ending, rest, hending, rfl⟩
      · rw [List.append_nil]
        exact ⟨written, [], lines_last hline.newline_not_mem hline.ne_nil, hline.trim_eq⟩
      · obtain ⟨line', hlines, htrim⟩ := lines_ended hending hline.newline_not_mem rest
        rw [← List.append_assoc]
        exact ⟨line', _, hlines, htrim.trans hline.trim_eq⟩
    obtain ⟨line', later, hlines, htrim⟩ := hfirst
    rw [hlines]
    exact .inr ⟨[], line', later, rfl, .none, r, hkind, htrim.symm ▸ hline⟩
  | @blank line ending text records hblank hline hending _ ih =>
    obtain ⟨line', hlines, htrim⟩ := lines_ended hending hline text
    rw [hlines]
    exact .after (.blank (htrim.trans (trim_eq_nil_iff.mpr hblank)) .none) ih
  | @data r written ending text records hkind hline hending _ ih =>
    obtain ⟨line', hlines, htrim⟩ := lines_ended hending hline.newline_not_mem text
    have hrecord : trim line' = written := htrim.trans hline.trim_eq
    rw [hlines]
    exact .after (.data r hkind (hrecord.symm ▸ hline) .none) ih

/-- A record's own line, in capital or small letters as the digits come. -/
theorem Record.exists_line (r : Record) : ∃ written, r.Line hexDigit written :=
  ⟨_, _, rfl, readPairs_hexPair r.bytes⟩

/-- Data records that fit can be written. -/
theorem exists_written (hfits : ∀ record ∈ records, record.data.length ≤ 255) :
    ∃ text, Written records text := by
  induction records with
  | nil =>
    obtain ⟨written, hline⟩ := Record.exists_line ⟨0x01, ⟨0, []⟩, by decide⟩
    exact ⟨_, .eof _ rfl hline (.inl rfl)⟩
  | cons record records ih =>
    obtain ⟨hrecord, hrecords⟩ := List.forall_mem_cons.mp hfits
    obtain ⟨text, htext⟩ := ih hrecords
    obtain ⟨written, hline⟩ := Record.exists_line ⟨0x00, record, hrecord⟩
    exact ⟨_, .data _ rfl hline (.inl rfl) htext⟩

/-- A line that cannot be read ends the reading. -/
theorem parseLines_refused {lineNum : Nat} {cause : LineFailure} (hearlier : Loads leadDigit earlier new)
    (hbound : ∀ line ∈ earlier, byteLen line < 2 ^ 63) (hne : trim line ≠ [])
    (hline : parseLine (trim line) = .error (.error cause))
    (hnum : lineNum + earlier.length + 1 < 2 ^ 64) :
    parseLines lineNum (earlier ++ line :: later) records =
      .error (.error ⟨lineNum + earlier.length + 1, cause⟩) := by
  rw [parseLines_append hearlier hbound, parseLines, if_neg hne, hline]
  change (checkedAdd (lineNum + earlier.length) 1 >>= _) = _
  rw [checkedAdd_eq hnum]
  rfl

/-- The same of a line in a text. -/
theorem parseHex_refused (text : Str) (htext : text.chars = before ++ (line ++ after))
    (hbefore : before = [] ∨ ∃ front, before = front ++ ['\n'])
    (hafter : after = [] ∨ ∃ back, after = '\n' :: back) (hearlier : Loads leadDigit (lines before) new)
    (hnewline : '\n' ∉ line) (hline : Unreadable line) : ∃ e, parseHex text = .error (.error e) := by
  obtain ⟨hne, cause, hcause⟩ := hline
  have hempty : line ≠ [] := by
    rintro rfl
    exact hne rfl
  obtain ⟨line', later, hlines, htrim⟩ := lines_between hbefore hafter hnewline hempty
  rw [← htext] at hlines
  have hlen := lines_length_le text.chars
  have hbytes := length_le_byteLen text.chars
  have hbound := text.bound
  rw [hlines, List.length_append, List.length_cons] at hlen
  have hearlierBound : ∀ line ∈ lines before, byteLen line < 2 ^ 63 := by
    intro line hmem
    refine byteLen_of_mem_lines text ?_
    rw [hlines]
    exact List.mem_append_left _ hmem
  have hrefused : parseLines 0 (lines before ++ line' :: later) [] = _ :=
    parseLines_refused hearlier hearlierBound (htrim.symm ▸ hne) (htrim.symm ▸ hcause) (by omega)
  rw [← hlines] at hrefused
  exact ⟨_, hrefused⟩

theorem Unreadable.of_trim (htrim : trim line = trim s) (h : Unreadable s) : Unreadable line := by
  rw [Unreadable, htrim]
  exact h

theorem Unreadable.blanks (hleft : ∀ c ∈ left, isWhitespace c) (hright : ∀ c ∈ right, isWhitespace c)
    (h : Unreadable s) : Unreadable (left ++ s ++ right) := h.of_trim (trim_blanks hleft hright s)

theorem unreadable_of_trim_eq {cause : LineFailure} (htrim : trim line = c :: s)
    (hparse : parseLine (c :: s) = .error (.error cause)) : Unreadable line := by
  rw [Unreadable, htrim]
  exact ⟨List.cons_ne_nil c s, cause, hparse⟩

/-- Too few digits by one, or a character of an even number of bytes among them. -/
theorem parseLine_odd (hbound : byteLen s < 2 ^ 63) (hodd : byteLen s % 2 ≠ 0) :
    parseLine (':' :: s) = .error (.error (.invalidHex .oddLength)) := by
  rw [parseLine_colon, hexDecode_eq hbound, if_pos hodd]
  rfl

/-- No record is the beginning of another: its first byte tells its length. -/
theorem Record.bytes_append {r' : Record} {more : List UInt8} (h : r.bytes = r'.bytes ++ more) :
    more = [] := by
  obtain ⟨high, low, -, hbytes⟩ := r.bytes_eq
  obtain ⟨high', low', -, hbytes'⟩ := r'.bytes_eq
  have hlen : r.content.data.length = r'.content.data.length := by
    rw [hbytes, hbytes'] at h
    have hfirst := congrArg UInt8.toNat (List.cons.inj h).1
    rwa [UInt8.toNat_ofNat_of_lt' (Nat.lt_succ_of_le r.fits),
      UInt8.toNat_ofNat_of_lt' (Nat.lt_succ_of_le r'.fits)] at hfirst
  have htotal := congrArg List.length h
  rw [List.length_append, r.length_bytes, r'.length_bytes, hlen] at htotal
  exact List.eq_nil_of_length_eq_zero (by omega)

section
variable (hrecord : readPairs hexDigit digits = some r.bytes)
include hrecord

theorem digits_ascii : ∀ c ∈ digits, c.utf8Size = 1 := by
  intro c hc
  obtain ⟨v, hv⟩ := hexDigit_of_readPairs hrecord c hc
  exact utf8Size_of_hexDigit hv

theorem digits_not_isWhitespace : ∀ c ∈ digits, ¬isWhitespace c := by
  intro c hc
  obtain ⟨v, hv⟩ := hexDigit_of_readPairs hrecord c hc
  exact hexDigit_not_isWhitespace hv

/-- Fewer digits than the first byte tells. -/
theorem parseLine_cut (hdigits : digits = front ++ c :: back)
    (hbound : byteLen (':' :: front) < 2 ^ 63) :
    ∃ cause, parseLine (':' :: front) = .error (.error cause) := by
  have hascii : ∀ c ∈ ':' :: front, c.utf8Size = 1 := by
    refine List.forall_mem_cons.mpr ⟨rfl, fun d hd => ?_⟩
    exact digits_ascii hrecord d (hdigits ▸ List.mem_append_left _ hd)
  refine (parseLine_reports hascii hbound).error_of_ne_ok fun found hok => ?_
  obtain ⟨r', ⟨digits', hcolon, hdigits'⟩, -⟩ := (parseLine_eq_ok hbound).mp hok
  obtain rfl := (List.cons.inj hcolon).2
  have heven : front.length % 2 = 0 := by
    rw [readPairs_length hdigits']
    omega
  have hlead := readPairs_mono (fun _ _ _ => leadDigit_of_hexDigit) hrecord
  rw [hdigits] at hlead
  obtain ⟨bs, bs', hfront, hback, hbytes⟩ := (readPairs_append heven).mp hlead
  rw [hdigits'] at hfront
  cases hfront
  rw [Record.bytes_append hbytes] at hback
  cases readPairs_length hback

theorem cut_refused (hdigits : digits = front ++ c :: back)
    (hbound : byteLen (':' :: front) < 2 ^ 63) : Unreadable (':' :: front) := by
  have hblank := digits_not_isWhitespace hrecord
  rw [hdigits] at hblank
  have htrim : trim (':' :: front) = ':' :: front := trim_of_not_isWhitespace
    (List.forall_mem_cons.mpr ⟨by decide, (List.forall_mem_append.mp hblank).1⟩)
  obtain ⟨cause, hcause⟩ := parseLine_cut hrecord hdigits hbound
  exact unreadable_of_trim_eq htrim hcause

/-- A character of one byte in place of another digit. -/
theorem parseLine_replaced (hdigits : digits = front ++ c :: back) (hsize : c'.utf8Size = 1)
    (hplus : c' = '+' → c ≠ '0') (hdigit : ¬SameDigit c c')
    (hbound : byteLen (':' :: (front ++ c' :: back)) < 2 ^ 63) :
    ∃ cause, parseLine (':' :: (front ++ c' :: back)) = .error (.error cause) := by
  have hascii : ∀ d ∈ ':' :: (front ++ c' :: back), d.utf8Size = 1 := by
    have hall := digits_ascii hrecord
    rw [hdigits] at hall
    obtain ⟨hfront, hback⟩ := List.forall_mem_append.mp hall
    exact List.forall_mem_cons.mpr ⟨rfl, List.forall_mem_append.mpr
      ⟨hfront, List.forall_mem_cons.mpr ⟨hsize, (List.forall_mem_cons.mp hback).2⟩⟩⟩
  refine (parseLine_reports hascii hbound).error_of_ne_ok fun found hok => ?_
  obtain ⟨r', ⟨digits', hcolon, hdigits'⟩, -⟩ := (parseLine_eq_ok hbound).mp hok
  obtain rfl := (List.cons.inj hcolon).2
  obtain ⟨v, hv⟩ := hexDigit_of_readPairs hrecord c (by simp [hdigits])
  have hlead := readPairs_mono (fun _ _ _ => leadDigit_of_hexDigit) hrecord
  rw [hdigits] at hlead
  have hsum : byteSum r.bytes = byteSum r'.bytes := r.sum_bytes.trans r'.sum_bytes.symm
  rcases readPairs_replace leadDigit_lt hlead hdigits' hsum with hsame | hsame
  · rw [leadDigit_of_hexDigit hv, leadDigit] at hsame
    split at hsame
    · rename_i hsign
      cases hsame
      exact hplus hsign (hexDigit_eq_zero hv)
    · exact hdigit ⟨v, hv, hsame.symm⟩
  · exact hdigit ⟨v, hv, hsame.symm.trans hv⟩

end

/-- Among characters that are not blank, a character is trimmed only if it is blank and at an end. -/
theorem trim_among (hfront : ∀ d ∈ front, ¬isWhitespace d) (hback : ∀ d ∈ back, ¬isWhitespace d)
    (h : ¬isWhitespace c ∨ front ≠ [] ∧ back ≠ []) : trim (front ++ c :: back) = front ++ c :: back := by
  refine trim_eq_self (fun d hd => ?_) fun d hd => ?_
  · cases front with
    | nil =>
      cases hd
      exact h.resolve_right fun hboth => hboth.1 rfl
    | cons e front =>
      cases hd
      exact hfront d List.mem_cons_self
  · rcases List.eq_nil_or_concat' back with rfl | ⟨back, e, rfl⟩
    · rw [List.getLast?_concat] at hd
      cases hd
      exact h.resolve_right fun hboth => hboth.2 rfl
    · rw [← List.cons_append, ← List.append_assoc, List.getLast?_concat] at hd
      cases hd
      exact hback d (by simp)

/-- A line that does not begin with a colon. -/
theorem parseLine_head (hne : c ≠ ':') : parseLine (c :: s) = .error (.error .missingColon) :=
  parseLine_no_colon (by simp [hne])

section
variable (hrecord : readPairs hexDigit digits = some r.bytes)
include hrecord

/-- The digits alone, without their colon. -/
theorem digits_refused : Unreadable digits := by
  have htrim := trim_of_not_isWhitespace (digits_not_isWhitespace hrecord)
  have hlen := readPairs_length hrecord
  rw [r.length_bytes] at hlen
  cases digits with
  | nil => cases hlen
  | cons c rest =>
    obtain ⟨v, hv⟩ := hexDigit_of_readPairs hrecord c List.mem_cons_self
    exact unreadable_of_trim_eq htrim (parseLine_head (hexDigit_ne hv rfl))

/-- The colon replaced: what is left begins with another character, or with a digit. -/
theorem colon_replaced_refused (hne : c ≠ ':') : Unreadable (c :: digits) := by
  by_cases hblank : isWhitespace c
  · have hgone : trim ([c] ++ digits ++ []) = trim digits :=
      trim_blanks (List.forall_mem_singleton.mpr hblank) (List.forall_mem_nil _) digits
    rw [List.append_nil] at hgone
    exact (digits_refused hrecord).of_trim hgone
  · exact unreadable_of_trim_eq
      (trim_among (List.forall_mem_nil _) (digits_not_isWhitespace hrecord) (.inl hblank))
      (parseLine_head hne)

/-- Two bytes or four, where one was. -/
theorem odd_of_replaced (hdigits : digits = front ++ c :: back) (hone : c'.utf8Size ≠ 1)
    (hsize : c'.utf8Size ≠ 3) : byteLen (front ++ c' :: back) % 2 ≠ 0 := by
  have hcount := byteLen_of_ascii (digits_ascii hrecord)
  have hdigit : c.utf8Size = 1 := digits_ascii hrecord c (by simp [hdigits])
  have hpos := c'.utf8Size_pos
  have hfour := c'.utf8Size_le_four
  rw [readPairs_length hrecord, hdigits, byteLen_append, byteLen_cons, hdigit] at hcount
  rw [byteLen_append, byteLen_cons]
  omega

/-- A digit replaced. A blank in place of the last one is trimmed. -/
theorem digit_replaced_refused (hdigits : digits = front ++ c :: back) (hdigit : ¬SameDigit c c')
    (hsize : c'.utf8Size ≠ 3) (hplus : c' = '+' → c ≠ '0')
    (hbound : byteLen (':' :: (front ++ c' :: back)) < 2 ^ 63) :
    Unreadable (':' :: (front ++ c' :: back)) := by
  have hall := digits_not_isWhitespace hrecord
  rw [hdigits] at hall
  obtain ⟨hfront, hcback⟩ := List.forall_mem_append.mp hall
  by_cases hlast : isWhitespace c' ∧ back = []
  · obtain ⟨hblank, rfl⟩ := hlast
    have hgone : trim ([] ++ (':' :: front) ++ [c']) = trim (':' :: front) :=
      trim_blanks (List.forall_mem_nil _) (List.forall_mem_singleton.mpr hblank) _
    refine (cut_refused hrecord hdigits ?_).of_trim hgone
    exact (byteLen_le_of_sublist (List.sublist_append_left (':' :: front) [c'])).trans_lt hbound
  · have hkept : trim ((':' :: front) ++ c' :: back) = (':' :: front) ++ c' :: back :=
      trim_among (List.forall_mem_cons.mpr ⟨by decide, hfront⟩) (List.forall_mem_cons.mp hcback).2
        ((not_and_or.mp hlast).imp_right fun hback => ⟨List.cons_ne_nil _ _, hback⟩)
    by_cases hone : c'.utf8Size = 1
    · obtain ⟨cause, hcause⟩ := parseLine_replaced hrecord hdigits hone hplus hdigit hbound
      exact unreadable_of_trim_eq hkept hcause
    · rw [byteLen_cons] at hbound
      have hodd := odd_of_replaced hrecord hdigits hone hsize
      have hcause : parseLine (':' :: (front ++ c' :: back)) = _ := parseLine_odd (by omega) hodd
      exact unreadable_of_trim_eq hkept hcause

end

/-- A line with one character replaced. -/
theorem replaced_line_refused (hline : r.Line hexDigit (front ++ c :: back)) (hne : c' ≠ c)
    (hdigit : ¬SameDigit c c') (hsize : c'.utf8Size ≠ 3) (hplus : c' = '+' → c ≠ '0')
    (hbound : byteLen (front ++ c' :: back) < 2 ^ 63) : Unreadable (front ++ c' :: back) := by
  obtain ⟨digits, hwritten, hrecord⟩ := hline
  cases front with
  | nil =>
    obtain ⟨rfl, rfl⟩ := List.cons.inj hwritten
    exact colon_replaced_refused hrecord hne
  | cons colon front =>
    obtain ⟨rfl, hdigits⟩ : colon = ':' ∧ front ++ c :: back = digits := List.cons.inj hwritten
    exact digit_replaced_refused hrecord hdigits.symm hdigit hsize hplus hbound

namespace Occurrence

/-- A line feed in place of the colon leaves a blank line, and the digits behind it. -/
theorem unled_refused (o : Occurrence) (text : Str) (hrecord : readPairs hexDigit digits = some r.bytes)
    (htext : text.chars = o.textWith ('\n' :: digits)) : ∃ e, parseHex text = .error (.error e) := by
  obtain ⟨records, hearlier⟩ := o.read
  have hblank : lines (o.before ++ (o.left ++ ['\n'])) = lines o.before ++ [stripCr o.left] := by
    rw [lines_append o.starts, lines_line o.left_line]
    rfl
  have hleft : trim (stripCr o.left) = [] := by
    rw [trim_stripCr, trim_eq_nil_iff]
    exact o.left_blank
  have hsplit : text.chars = o.before ++ (o.left ++ ['\n']) ++ (digits ++ o.right ++ o.after) := by
    rw [htext, textWith]
    simp
  have hnewline : '\n' ∉ digits ++ o.right := by
    rw [List.mem_append, not_or]
    exact ⟨fun hmem => digits_not_isWhitespace hrecord _ hmem rfl, o.right_line⟩
  exact parseHex_refused text hsplit (.inr ⟨o.before ++ o.left, (List.append_assoc ..).symm⟩) o.ends
    (hblank ▸ hearlier.append (.blank hleft .none)) hnewline
    ((digits_refused hrecord).blanks (List.forall_mem_nil _) o.right_blank)

/-- A line feed in place of a digit cuts the record. -/
theorem cut_record_refused (o : Occurrence) (text : Str)
    (hrecord : readPairs hexDigit digits = some r.bytes) (hdigits : digits = front ++ c :: back)
    (htext : text.chars = o.textWith (':' :: front ++ '\n' :: back)) :
    ∃ e, parseHex text = .error (.error e) := by
  obtain ⟨records, hearlier⟩ := o.read
  have hsplit : text.chars =
      o.before ++ (o.left ++ ':' :: front ++ [] ++ '\n' :: (back ++ o.right ++ o.after)) := by
    rw [htext, textWith]
    simp
  have hbound : byteLen (':' :: front) < 2 ^ 63 := by
    have := text.bound
    rw [hsplit] at this
    simp only [byteLen_append] at this
    omega
  have hnewline : '\n' ∉ o.left ++ ':' :: front ++ [] := by
    have hblank := digits_not_isWhitespace hrecord
    rw [hdigits] at hblank
    rw [List.append_nil, List.mem_append, List.mem_cons, not_or, not_or]
    exact ⟨o.left_line, by decide, fun hmem => (List.forall_mem_append.mp hblank).1 _ hmem rfl⟩
  exact parseHex_refused text hsplit o.starts (.inr ⟨_, rfl⟩) hearlier hnewline
    ((cut_refused hrecord hdigits hbound).blanks o.left_blank (List.forall_mem_nil _))

/-- The text with one character of the record replaced. -/
theorem replaced_refused (o : Occurrence) (text : Str) (hwritten : o.written = front ++ c :: back)
    (htext : text.chars = o.textWith (front ++ c' :: back)) (hne : c' ≠ c) (hdigit : ¬SameDigit c c')
    (hsize : c'.utf8Size ≠ 3) (hplus : c' = '+' → c ≠ '0') :
    ∃ e, parseHex text = .error (.error e) := by
  have hline := hwritten ▸ o.line
  by_cases hbreak : c' = '\n'
  · subst hbreak
    obtain ⟨digits, hcolon, hrecord⟩ := hline
    cases front with
    | nil =>
      obtain ⟨rfl, rfl⟩ := List.cons.inj hcolon
      exact o.unled_refused text hrecord htext
    | cons colon front =>
      obtain ⟨rfl, hdigits⟩ : colon = ':' ∧ front ++ c :: back = digits := List.cons.inj hcolon
      exact o.cut_record_refused text hrecord hdigits.symm htext
  · obtain ⟨records, hearlier⟩ := o.read
    have hbound := text.bound
    rw [htext, textWith] at hbound
    have hnewline := hline.newline_not_mem
    have hchanged : '\n' ∉ o.left ++ (front ++ c' :: back) ++ o.right := by
      have hleft := o.left_line
      have hright := o.right_line
      simp only [List.mem_append, List.mem_cons, not_or] at hnewline ⊢
      exact ⟨⟨hleft, hnewline.1, Ne.symm hbreak, hnewline.2.2⟩, hright⟩
    have hrefused : Unreadable (front ++ c' :: back) := by
      refine replaced_line_refused hline hne hdigit hsize hplus ?_
      simp only [byteLen_append] at hbound ⊢
      omega
    exact parseHex_refused text htext o.starts o.ends hearlier hchanged
      (hrefused.blanks o.left_blank o.right_blank)

end Occurrence

theorem Accepts.first_line (h : Accepts lead (line :: later) records) :
    trim line = [] ∨ ∃ r : Record, r.Line lead (trim line) := by
  have hloads : ∀ {rest}, Loads lead (line :: rest) records →
      trim line = [] ∨ ∃ r : Record, r.Line lead (trim line) := by
    intro rest h
    cases h with
    | blank hline => exact .inl hline
    | data r _ hline => exact .inr ⟨r, hline⟩
    | skipped r _ _ hline => exact .inr ⟨r, hline⟩
  rcases h with h | ⟨front, last, back, hlines, h, r, -, hlast⟩
  · exact hloads h
  · cases front with
    | nil =>
      obtain ⟨rfl, -⟩ := List.cons.inj hlines
      exact .inr ⟨r, hlast⟩
    | cons first front =>
      obtain ⟨rfl, -⟩ := List.cons.inj hlines
      exact hloads h

end Ugpibd.Backend.Agilent

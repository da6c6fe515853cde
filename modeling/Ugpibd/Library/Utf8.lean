import Mathlib.Data.List.DropRight
import Ugpibd.Library.Panics
import Ugpibd.Library.Text

/-! Texts with the bytes they take in UTF-8. A program counts and cuts them by bytes, and a cut inside
a character panics. The lines of a text are what its line feeds end, without a carriage return before. -/
namespace Ugpibd.Library

variable {ε : Type} {a b line rest text done blanks : List Char} {c : Char} {n : Nat}

def byteLen : List Char → Nat
  | [] => 0
  | c :: rest => c.utf8Size + byteLen rest

/-- A borrowed text. -/
structure Str where
  chars : List Char
  bound : byteLen chars < 2 ^ 63

/-- What the first `n` bytes hold and what is behind them, unless they end inside a character. -/
def splitBytes : Nat → List Char → Option (List Char × List Char)
  | 0, text => some ([], text)
  | _ + 1, [] => none
  | n + 1, c :: rest =>
    if c.utf8Size ≤ n + 1 then
      (splitBytes (n + 1 - c.utf8Size) rest).map fun parts => (c :: parts.1, parts.2)
    else none

/-- The text from byte `start` up to byte `stop`. -/
def sliceBytes (text : List Char) (start stop : Nat) : MayPanic ε (List Char) :=
  match splitBytes start text with
  | none => .error .panicked
  | some (_, behind) =>
    if start ≤ stop then
      match splitBytes (stop - start) behind with
      | none => .error .panicked
      | some (part, _) => .ok part
    else .error .panicked

def stripCr (line : List Char) : List Char :=
  if line.getLast? = some '\r' then line.dropLast else line

/-- The lines of a text when `line` is what has been seen of the first. -/
def linesFrom (line : List Char) : List Char → List (List Char)
  | [] => if line = [] then [] else [line]
  | c :: rest =>
    if c = '\n' then stripCr line :: linesFrom [] rest else linesFrom (line ++ [c]) rest

def lines (text : List Char) : List (List Char) := linesFrom [] text

@[simp] theorem byteLen_nil : byteLen [] = 0 := rfl

@[simp] theorem byteLen_cons : byteLen (c :: rest) = c.utf8Size + byteLen rest := rfl

@[simp] theorem byteLen_append : byteLen (a ++ b) = byteLen a + byteLen b := by
  induction a with
  | nil => rw [List.nil_append, byteLen_nil, Nat.zero_add]
  | cons c a ih => rw [List.cons_append, byteLen_cons, byteLen_cons, ih, Nat.add_assoc]

theorem byteLen_le_of_sublist (h : a.Sublist b) : byteLen a ≤ byteLen b := by
  induction h with
  | slnil => exact Nat.le_refl _
  | cons c _ ih =>
    rw [byteLen_cons]
    omega
  | cons_cons c _ ih =>
    rw [byteLen_cons, byteLen_cons]
    omega

theorem length_le_byteLen (text : List Char) : text.length ≤ byteLen text := by
  induction text with
  | nil => exact Nat.le_refl _
  | cons c rest ih =>
    have := c.utf8Size_pos
    rw [byteLen_cons, List.length_cons]
    omega

/-- One byte for each character, where all are of one byte. -/
theorem byteLen_of_ascii (h : ∀ c ∈ text, c.utf8Size = 1) : byteLen text = text.length := by
  induction text with
  | nil => rfl
  | cons c rest ih =>
    obtain ⟨hc, hrest⟩ := List.forall_mem_cons.mp h
    rw [byteLen_cons, hc, ih hrest, List.length_cons, Nat.add_comm]

theorem splitBytes_append (a b : List Char) : splitBytes (byteLen a) (a ++ b) = some (a, b) := by
  induction a with
  | nil => simp [splitBytes]
  | cons c a ih =>
    obtain ⟨n, hn⟩ := Nat.exists_eq_add_of_le' (show 1 ≤ byteLen (c :: a) by
      have := c.utf8Size_pos
      rw [byteLen_cons]
      omega)
    have hrest : n + 1 - c.utf8Size = byteLen a := by
      rw [← hn, byteLen_cons]
      omega
    rw [hn, List.cons_append, splitBytes, if_pos (by rw [← hn, byteLen_cons]; omega), hrest, ih]
    rfl

/-- A slice that starts where a part of the text ends. -/
theorem sliceBytes_append (done rest : List Char) (n : Nat) :
    (sliceBytes (done ++ rest) (byteLen done) (byteLen done + n) : MayPanic ε (List Char)) =
      match splitBytes n rest with
      | none => .error .panicked
      | some (part, _) => .ok part := by
  rw [sliceBytes, splitBytes_append]
  dsimp only
  rw [if_pos (Nat.le_add_right _ _), Nat.add_sub_cancel_left]

theorem linesFrom_append (h : '\n' ∉ line) :
    linesFrom done (line ++ rest) = linesFrom (done ++ line) rest := by
  induction line generalizing done with
  | nil => simp
  | cons c line ih =>
    obtain ⟨hc, hline⟩ := not_or.mp (mt List.mem_cons.mpr h)
    rw [List.cons_append, linesFrom, if_neg (Ne.symm hc), ih hline, List.append_assoc,
      List.singleton_append]

/-- A line feed ends a line. -/
theorem lines_line (h : '\n' ∉ line) :
    lines (line ++ '\n' :: rest) = stripCr line :: lines rest := by
  rw [lines, linesFrom_append h, List.nil_append, linesFrom, if_pos rfl, lines]

/-- The last line need not be ended. -/
theorem lines_last (h : '\n' ∉ line) (hne : line ≠ []) : lines line = [line] := by
  have hline : linesFrom [] (line ++ []) = linesFrom ([] ++ line) [] := linesFrom_append h
  rw [List.append_nil, List.nil_append] at hline
  rw [lines, hline, linesFrom, if_neg hne]

/-- Where a line starts, the lines before and behind are apart. -/
theorem lines_append {before : List Char} (hbefore : before = [] ∨ ∃ front, before = front ++ ['\n'])
    (rest : List Char) : lines (before ++ rest) = lines before ++ lines rest := by
  have hbreak : ∀ line front : List Char, linesFrom line (front ++ ['\n'] ++ rest) =
      linesFrom line (front ++ ['\n']) ++ lines rest := by
    intro line front
    induction front generalizing line with
    | nil => simp [linesFrom, lines]
    | cons c front ih =>
      rw [List.cons_append, List.cons_append, linesFrom, linesFrom]
      split
      · rw [ih, List.cons_append]
      · exact ih _
  rcases hbefore with rfl | ⟨front, rfl⟩
  · rfl
  · exact hbreak [] front

theorem stripCr_sublist (line : List Char) : (stripCr line).Sublist line := by
  unfold stripCr
  split
  · exact List.dropLast_sublist line
  · exact List.Sublist.refl line

theorem sublist_of_mem_lines (h : line ∈ lines text) : line.Sublist text := by
  suffices ∀ done, line ∈ linesFrom done text → line.Sublist (done ++ text) from this [] h
  clear h
  induction text with
  | nil =>
    intro done h
    rw [linesFrom] at h
    split at h
    · cases h
    · rw [List.mem_singleton.mp h, List.append_nil]
  | cons c rest ih =>
    intro done h
    rw [linesFrom] at h
    split at h
    · rcases List.mem_cons.mp h with rfl | h
      · exact (stripCr_sublist done).trans (List.sublist_append_left _ _)
      · exact (ih [] h).trans ((List.sublist_cons_self c rest).trans (List.sublist_append_right _ _))
    · have := ih _ h
      rwa [List.append_assoc, List.singleton_append] at this

theorem lines_length_le (text : List Char) : (lines text).length ≤ text.length := by
  suffices ∀ done, (linesFrom done text).length ≤ text.length + min done.length 1 from this []
  induction text with
  | nil =>
    intro done
    rw [linesFrom]
    split
    · exact Nat.zero_le _
    · rename_i hne
      have := List.length_pos_of_ne_nil hne
      rw [List.length_singleton, List.length_nil]
      omega
  | cons c rest ih =>
    intro done
    rw [linesFrom, List.length_cons]
    split
    · have := ih []
      rw [List.length_nil] at this
      rw [List.length_cons]
      omega
    · have := ih (done ++ [c])
      rw [List.length_append, List.length_singleton] at this
      omega

/-- Blanks around a text are all that trimming takes. -/
theorem trim_blanks (hblanks : ∀ c ∈ blanks, isWhitespace c) (hdone : ∀ c ∈ done, isWhitespace c)
    (text : List Char) : trim (blanks ++ text ++ done) = trim text := by
  have hback : ∀ front : List Char,
      (front ++ done).rdropWhile isWhitespace = front.rdropWhile isWhitespace := by
    intro front
    induction done using List.reverseRecOn with
    | nil => rw [List.append_nil]
    | append_singleton done c ih =>
      rw [← List.append_assoc, List.rdropWhile_concat_pos _ _ _ (hdone c (by simp))]
      exact ih fun d hd => hdone d (List.mem_append_left _ hd)
  rw [trim, trim, List.append_assoc, List.dropWhile_append_of_pos hblanks, List.dropWhile_append]
  split
  · rename_i hempty
    rw [List.isEmpty_iff.mp hempty, List.dropWhile_eq_nil_iff.mpr hdone]
  · exact hback _

theorem trim_stripCr (line : List Char) : trim (stripCr line) = trim line := by
  unfold stripCr
  split
  · rename_i hlast
    have hline := List.dropLast_append_getLast? _ hlast
    have hcr : ∀ c ∈ ['\r'], isWhitespace c := by
      intro c hc
      rw [List.mem_singleton.mp hc]
      rfl
    have htrim : trim ([] ++ line.dropLast ++ ['\r']) = trim line.dropLast :=
      trim_blanks (List.forall_mem_nil _) hcr line.dropLast
    rwa [List.nil_append, hline, eq_comm] at htrim
  · rfl

theorem trim_eq_nil_iff : trim text = [] ↔ ∀ c ∈ text, isWhitespace c := by
  rw [trim, List.rdropWhile_eq_nil_iff]
  constructor
  · intro h
    induction text with
    | nil => exact List.forall_mem_nil _
    | cons c rest ih =>
      by_cases hc : isWhitespace c
      · rw [List.dropWhile_cons_of_pos hc] at h
        exact List.forall_mem_cons.mpr ⟨hc, ih h⟩
      · rw [List.dropWhile_cons_of_neg hc] at h
        exact absurd (h c List.mem_cons_self) hc
  · intro h c hc
    exact h c ((List.dropWhile_sublist _).subset hc)

/-- There is nothing to trim where neither end is blank. -/
theorem trim_eq_self (hhead : ∀ c ∈ text.head?, ¬isWhitespace c)
    (hlast : ∀ c ∈ text.getLast?, ¬isWhitespace c) : trim text = text := by
  cases text with
  | nil => rfl
  | cons c rest =>
    rw [trim, List.dropWhile_cons_of_neg (hhead c rfl), List.rdropWhile_eq_self_iff]
    exact fun hne => hlast _ (List.getLast?_eq_some_getLast hne)

theorem trim_sublist (text : List Char) : (trim text).Sublist text :=
  (List.rdropWhile_prefix _ _).sublist.trans (List.dropWhile_sublist _)

theorem byteLen_trim_le (text : List Char) : byteLen (trim text) ≤ byteLen text :=
  byteLen_le_of_sublist (trim_sublist text)

/-- A line feed, perhaps behind a carriage return. -/
def LineEnd (ending : List Char) : Prop := ending = ['\n'] ∨ ending = ['\r', '\n']

/-- A line that is ended either way is the same line but for blanks. -/
theorem lines_ended {ending : List Char} (hending : LineEnd ending) (hline : '\n' ∉ line)
    (rest : List Char) :
    ∃ line', lines (line ++ ending ++ rest) = line' :: lines rest ∧ trim line' = trim line := by
  rcases hending with rfl | rfl
  · rw [List.append_assoc, List.singleton_append]
    exact ⟨stripCr line, lines_line hline, trim_stripCr line⟩
  · have hcr : '\n' ∉ line ++ ['\r'] := by simp [hline]
    have hsplit : line ++ ['\r', '\n'] ++ rest = (line ++ ['\r']) ++ '\n' :: rest := by simp
    refine ⟨stripCr (line ++ ['\r']), ?_, ?_⟩
    · rw [hsplit, lines_line hcr]
    · have htrim : trim ([] ++ line ++ ['\r']) = trim line :=
        trim_blanks (List.forall_mem_nil _) (List.forall_mem_singleton.mpr rfl) line
      rw [trim_stripCr]
      exact htrim

/-- A line between line feeds, the last of which may be missing. -/
theorem lines_between {before after : List Char}
    (hbefore : before = [] ∨ ∃ front, before = front ++ ['\n'])
    (hafter : after = [] ∨ ∃ back, after = '\n' :: back) (hline : '\n' ∉ line) (hne : line ≠ []) :
    ∃ line' later, lines (before ++ (line ++ after)) = lines before ++ line' :: later ∧
      trim line' = trim line := by
  have hfirst : ∃ line' later, lines (line ++ after) = line' :: later ∧ trim line' = trim line := by
    rcases hafter with rfl | ⟨back, rfl⟩
    · rw [List.append_nil]
      exact ⟨line, [], lines_last hline hne, rfl⟩
    · exact ⟨stripCr line, lines back, lines_line hline, trim_stripCr line⟩
  obtain ⟨line', later, hlines, htrim⟩ := hfirst
  exact ⟨line', later, by rw [lines_append hbefore, hlines], htrim⟩

end Ugpibd.Library

import Mathlib.Data.List.Basic
import Mathlib.Data.List.Infix

/-! Readers over a byte string and what it means that one reads back what was written: the whole
encoding gives the value and leaves the rest, and every strict prefix of it gives one and the same
error. Both laws go through the composition of readers. -/
namespace Ugpibd.Library

variable {ε α β : Type} {short e : ε}

/-- A reader of one value from the front of a byte string. -/
abbrev Reader (ε α : Type) := StateT (List UInt8) (Except ε) α

/-- The reader gives the value for these bytes, whatever follows, and fails on less of them. -/
structure Reads (short : ε) (reader : Reader ε α) (bytes : List UInt8) (a : α) : Prop where
  whole : ∀ rest, reader.run (bytes ++ rest) = .ok (a, rest)
  cut : ∀ front, front <+: bytes → front ≠ bytes → reader.run front = .error short

/-- The reader refuses these bytes, whatever follows. -/
def Refuses (reader : Reader ε α) (bytes : List UInt8) (e : ε) : Prop :=
  ∀ rest, reader.run (bytes ++ rest) = .error e

variable {reader : Reader ε α} {next : α → Reader ε β} {bytes bytes' : List UInt8} {a : α} {b : β}

theorem run_bind_ok {input rest : List UInt8} (h : reader.run input = .ok (a, rest)) :
    (reader >>= next).run input = (next a).run rest := by
  rw [StateT.run_bind, h]
  rfl

theorem run_bind_error {input : List UInt8} (h : reader.run input = .error e) :
    (reader >>= next).run input = .error e := by
  rw [StateT.run_bind, h]
  rfl

/-- A strict prefix of two fields in a row ends inside the first or inside the second. -/
theorem strict_prefix_append {front : List UInt8} (h : front <+: bytes ++ bytes')
    (hne : front ≠ bytes ++ bytes') :
    (front <+: bytes ∧ front ≠ bytes) ∨ ∃ tail, front = bytes ++ tail ∧ tail <+: bytes' ∧
      tail ≠ bytes' := by
  obtain ⟨rest, hrest⟩ := h
  obtain ⟨tail, hbytes, htail⟩ | ⟨tail, hfront, htail⟩ := List.append_eq_append_iff.mp hrest
  · by_cases hnil : tail = []
    · subst hnil
      rw [List.append_nil] at hbytes
      refine .inr ⟨[], by rw [List.append_nil, hbytes], List.nil_prefix, ?_⟩
      rintro rfl
      exact hne (by rw [hbytes, List.append_nil])
    · refine .inl ⟨⟨tail, hbytes.symm⟩, ?_⟩
      rintro rfl
      exact hnil (List.append_right_eq_self.mp hbytes.symm)
  · refine .inr ⟨tail, hfront, ⟨rest, htail.symm⟩, ?_⟩
    rintro rfl
    exact hne hfront

/-- Nothing to read: the encoding of a record after its last field. -/
theorem reads_pure (short : ε) (a : α) : Reads short (pure a : Reader ε α) [] a where
  whole := fun _ => rfl
  cut := by
    intro front hfront hne
    exact absurd (List.prefix_nil.mp hfront) hne

/-- Fields one after the other. -/
theorem Reads.bind (h : Reads short reader bytes a) (h' : Reads short (next a) bytes' b) :
    Reads short (reader >>= next) (bytes ++ bytes') b where
  whole := by
    intro rest
    rw [List.append_assoc, run_bind_ok (h.whole _), h'.whole]
  cut := by
    intro front hfront hne
    obtain ⟨hcut, hcut'⟩ | ⟨tail, rfl, hcut, hcut'⟩ := strict_prefix_append hfront hne
    · exact run_bind_error (h.cut front hcut hcut')
    · rw [run_bind_ok (h.whole tail)]
      exact h'.cut tail hcut hcut'

theorem Reads.map (h : Reads short reader bytes a) (f : α → β) :
    Reads short (f <$> reader) bytes (f a) := by
  have hbind : Reads short (reader >>= fun a => pure (f a)) (bytes ++ []) (f a) :=
    h.bind (reads_pure short (f a))
  rwa [List.append_nil, bind_pure_comp] at hbind

/-- A field that is refused after others that are read. -/
theorem Reads.bind_refuses (h : Reads short reader bytes a) (h' : Refuses (next a) bytes' e) :
    Refuses (reader >>= next) (bytes ++ bytes') e := by
  intro rest
  rw [List.append_assoc, run_bind_ok (h.whole _)]
  exact h' rest

theorem Refuses.bind (h : Refuses reader bytes e) (bytes' : List UInt8) :
    Refuses (reader >>= next) (bytes ++ bytes') e := by
  intro rest
  rw [List.append_assoc]
  exact run_bind_error (h _)

/-- Every successful read takes this many bytes off the front. -/
def Consumes (reader : Reader ε α) (n : Nat) : Prop :=
  ∀ data a rest, reader.run data = .ok (a, rest) → rest.length + n = data.length

theorem consumes_pure (a : α) : Consumes (pure a : Reader ε α) 0 := by
  intro data a' rest h
  obtain ⟨-, rfl⟩ := Prod.mk.inj (Except.ok.inj h)
  rfl

theorem Consumes.bind {n k : Nat} (h : Consumes reader n) (h' : ∀ a, Consumes (next a) k) :
    Consumes (reader >>= next) (n + k) := by
  intro data b rest hrun
  cases hread : reader.run data with
  | error e =>
    rw [run_bind_error hread] at hrun
    cases hrun
  | ok result =>
    obtain ⟨a, middle⟩ := result
    rw [run_bind_ok hread] at hrun
    have hfirst := h data a middle hread
    have hsecond := h' a middle b rest hrun
    omega

/-- Every successful read takes off the front bytes that spell the value, and only these. -/
def Spells (short : ε) (reader : Reader ε α) (spelling : α → List UInt8 → Prop) : Prop :=
  ∀ data a rest, reader.run data = .ok (a, rest) →
    ∃ bytes, data = bytes ++ rest ∧ Reads short reader bytes a ∧ spelling a bytes

section
variable {spelling spelling' : α → List UInt8 → Prop} {whole : β → List UInt8 → Prop}

theorem spells_pure (h : spelling a []) : Spells short (pure a : Reader ε α) spelling := by
  intro data a' rest hrun
  obtain ⟨rfl, rfl⟩ := Prod.mk.inj (Except.ok.inj hrun)
  exact ⟨[], rfl, reads_pure short a, h⟩

/-- Fields one after the other: what follows is to be spelled so that all of it together is. -/
theorem Spells.bind (h : Spells short reader spelling)
    (h' : ∀ a front, spelling a front →
      Spells short (next a) fun b back => whole b (front ++ back)) :
    Spells short (reader >>= next) whole := by
  intro data b rest hrun
  cases hread : reader.run data with
  | error e =>
    rw [run_bind_error hread] at hrun
    cases hrun
  | ok result =>
    obtain ⟨a, middle⟩ := result
    rw [run_bind_ok hread] at hrun
    obtain ⟨front, rfl, hfront, hspelled⟩ := h data a middle hread
    obtain ⟨back, rfl, hback, hwhole⟩ := h' a front hspelled middle b rest hrun
    exact ⟨front ++ back, (List.append_assoc ..).symm, hfront.bind hback, hwhole⟩

/-- A reader that always fails spells anything. -/
theorem spells_throw (e : ε) : Spells short (throw e : Reader ε α) spelling := by
  intro data a rest hrun
  cases hrun

end
end Ugpibd.Library

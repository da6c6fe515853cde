import Mathlib.Algebra.Group.Nat.Defs
import Mathlib.Data.List.Infix
import Ugpibd.Library.Template

/-! What the backends' errors print as, and the USB transfers they come from. An error is printed with
its contexts in front of it, `: ` between them. -/
namespace Ugpibd.Backend
open Library

/-- Neither of the texts the front end looks for has one of these. -/
def Separates (c : Char) : Prop := c.isDigit = true ∨ c = ':'

instance : DecidablePred Separates := fun c =>
  inferInstanceAs (Decidable (c.isDigit = true ∨ c = ':'))

abbrev Inserted := Filler Char.toLower 't' Separates
abbrev Text := Template Char.toLower 't' Separates

theorem toLower_of_isDigit {c : Char} (h : c.isDigit = true) : c.toLower = c := by
  have hbound : 48 ≤ c.val ∧ c.val ≤ 57 := by simpa [Char.isDigit] using h
  unfold Char.toLower
  split
  · rename_i hupper
    exact absurd (UInt32.le_trans hupper.1 hbound.2) (by decide)
  · rfl

/-- The part of a printed value that is behind its first symbol. -/
def Plain (l : List Char) : Prop := ∀ c ∈ l, c.toLower ≠ 't'

theorem plain_of_isDigit {l : List Char} (h : ∀ c ∈ l, c.isDigit = true) : Plain l := by
  intro c hc
  rw [toLower_of_isDigit (h c hc)]
  rintro rfl
  cases h 't' hc

theorem Plain.append {l m : List Char} (hl : Plain l) (hm : Plain m) : Plain (l ++ m) := by
  intro c hc
  rcases List.mem_append.mp hc with hc | hc
  · exact hl c hc
  · exact hm c hc

theorem plain_digitChar {n : Nat} (h : n < 16) : Plain [Nat.digitChar n] := by
  have hall : ∀ n < 16, (Nat.digitChar n).toLower ≠ 't' := by decide
  simpa [Plain] using hall n h

def colon : Inserted := ⟨[':', ' '], ':', [' '], rfl, by decide, by simp⟩

/-- A number with a unit, which may be empty. -/
def quantity (n : Nat) (unit : List Char) (hunit : Plain unit) : Inserted where
  symbols := Nat.toDigits 10 n ++ unit
  clear := by
    have hdigit : ∀ c ∈ Nat.toDigits 10 n, c.isDigit = true := fun c hc =>
      Nat.isDigit_of_mem_toDigits (by decide) (by decide) hc
    cases hn : Nat.toDigits 10 n with
    | nil => exact absurd hn Nat.toDigits_ne_nil
    | cons first rest =>
      rw [hn] at hdigit
      have hfirst := hdigit first List.mem_cons_self
      have hrest : Plain rest := plain_of_isDigit fun c hc => hdigit c (List.mem_cons_of_mem first hc)
      exact ⟨first, rest ++ unit, rfl, .inl (by rwa [toLower_of_isDigit hfirst]), hrest.append hunit⟩

def decimal (n : Nat) : Inserted := quantity n [] nofun

/-- `{:#x}` of a byte. -/
def hex (byte : UInt8) : Inserted where
  symbols := '0' :: 'x' :: ((if byte.toNat < 16 then [] else [Nat.digitChar (byte.toNat / 16)]) ++
    [Nat.digitChar (byte.toNat % 16)])
  clear := by
    have hbyte := byte.toNat_lt
    refine ⟨'0', _, rfl, by decide, Plain.append (l := ['x']) (by simp [Plain]) (.append ?_ ?_)⟩
    · split
      · exact nofun
      · exact plain_digitChar (by omega)
    · exact plain_digitChar (by omega)

/-- `{:#04x}` of a byte. -/
def hexByte (byte : UInt8) : Inserted where
  symbols := ['0', 'x', Nat.digitChar (byte.toNat / 16), Nat.digitChar (byte.toNat % 16)]
  clear := by
    have hbyte := byte.toNat_lt
    exact ⟨'0', _, rfl, by decide, Plain.append (l := ['x']) (by simp [Plain])
      (.append (plain_digitChar (by omega)) (plain_digitChar (by omega)))⟩

/-- The decimals of so many thousandths, without the zeros at their end. -/
def decimals (thousandths : Nat) : List Char :=
  let digits := [Nat.digitChar (thousandths / 100 % 10), Nat.digitChar (thousandths / 10 % 10),
    Nat.digitChar (thousandths % 10)]
  if thousandths % 1000 = 0 then []
  else if thousandths % 100 = 0 then '.' :: digits.take 1
  else if thousandths % 10 = 0 then '.' :: digits.take 2
  else '.' :: digits

theorem plain_decimals (thousandths : Nat) : Plain (decimals thousandths) := by
  have h₁ := plain_digitChar (n := thousandths / 100 % 10) (by omega)
  have h₂ := plain_digitChar (n := thousandths / 10 % 10) (by omega)
  have h₃ := plain_digitChar (n := thousandths % 10) (by omega)
  have hpoint : Plain ['.'] := by simp [Plain]
  unfold decimals
  dsimp only
  split
  · exact nofun
  · split
    · exact hpoint.append h₁
    · split
      · exact hpoint.append (h₁.append h₂)
      · exact hpoint.append (h₁.append (h₂.append h₃))

/-- `{:?}` of a duration of so many milliseconds. -/
def duration (ms : Nat) : Inserted :=
  if ms = 0 then quantity 0 "ns".toList (by simp [Plain])
  else if ms < 1000 then quantity ms "ms".toList (by simp [Plain])
  else quantity (ms / 1000) (decimals ms ++ "s".toList) ((plain_decimals ms).append (by simp [Plain]))

/-- A text without inserted values. -/
def fixed (s : String) : Text := .last s.toList

/-- `s` and then the value, which ends the text. -/
def fixedThen (s : String) (value : Inserted) : Text := .cons s.toList value (.last [])

def Text.context (s : String) (e : Text) : Text := .cons s.toList colon e

/-- What tokio prints for a wait that ran out. -/
def elapsed : Text := fixed "deadline has elapsed"

/-- How the USB library prints its errors; a control transfer whose wait ran out ends with
`cancelled`. -/
structure UsbErrors (E : Type) where
  display : E → List Char
  cancelled : List Char

/-- How a USB transfer ended: with its data, with an error of the USB library, or not in time. -/
inductive Answer (E : Type)
  | completed (data : List UInt8)
  | failed (error : E)
  | late
  deriving DecidableEq, Repr

/-- A backend's operation: the transfers it makes are answered from a list, and while there is no
answer it has not returned. -/
abbrev Usb (E ε α : Type) := ExceptT ε (StateT (List (Answer E)) Option) α

variable {E ε δ α : Type}

def transfer : Usb E ε (Answer E) := ExceptT.mk fun answers => match answers with
  | [] => none
  | answer :: rest => some (.ok answer, rest)

/-- A transfer whose wait has no limit. -/
def untimed : Usb E ε (Except E (List UInt8)) := ExceptT.mk fun answers => match answers with
  | .completed data :: rest => some (.ok (.ok data), rest)
  | .failed error :: rest => some (.ok (.error error), rest)
  | _ => none

/-- The operation fails as the result does. -/
def check (f : ε → δ) (result : Except ε α) : Usb E δ α := ExceptT.mk (pure (result.mapError f))

/-- What a read returns: the data, and whether END came with it. `fault` is not part of the program:
the adapter reported a fault of the bus with the data. -/
structure Received where
  data : List UInt8
  ended : Bool
  fault : Bool := false
  deriving DecidableEq, Repr

end Ugpibd.Backend

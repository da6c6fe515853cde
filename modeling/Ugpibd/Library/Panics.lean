import Mathlib.Algebra.Group.Nat.Defs
import Mathlib.Data.List.Basic

/-! Code that may panic. Arithmetic of the machine's words and access by an index give a value only
where they have one, and a loop that is still running when its fuel is used up gives none. Code that
never panics returns what a function of ordinary numbers and lists returns. -/
namespace Ugpibd.Library

/-- Why code stopped without a value: an error it reports, or something no caller can handle. -/
inductive Stop (ε : Type)
  | error (e : ε)
  | panicked
  | outOfFuel
  deriving DecidableEq, Repr

def Stop.map {ε ε' : Type} (f : ε → ε') : Stop ε → Stop ε'
  | .error e => .error (f e)
  | .panicked => .panicked
  | .outOfFuel => .outOfFuel

abbrev MayPanic (ε α : Type) := Except (Stop ε) α

/-- A borrowed sequence. The language has none that fills half of the address space. -/
structure Slice (α : Type) where
  items : List α
  bound : items.length < 2 ^ 63

variable {ε ε' α β : Type}

/-- Addition of 64-bit words with overflow checks on; likewise the next two. -/
def checkedAdd (a b : Nat) : MayPanic ε Nat :=
  if a + b < 2 ^ 64 then .ok (a + b) else .error .panicked

def checkedSub (a b : Nat) : MayPanic ε Nat :=
  if b ≤ a then .ok (a - b) else .error .panicked

def checkedMul (a b : Nat) : MayPanic ε Nat :=
  if a * b < 2 ^ 64 then .ok (a * b) else .error .panicked

def index (items : List α) (i : Nat) : MayPanic ε α :=
  match items[i]? with
  | some a => .ok a
  | none => .error .panicked

/-- The items from `start` up to `stop`. -/
def slice (items : List α) (start stop : Nat) : MayPanic ε (List α) :=
  if start ≤ stop ∧ stop ≤ items.length then .ok ((items.drop start).take (stop - start))
  else .error .panicked

/-- Room for so many bytes: an allocation that would fill half of the address space panics. -/
def withCapacity (bytes : Nat) : MayPanic ε Unit :=
  if bytes < 2 ^ 63 then .ok () else .error .panicked

/-- Code that returned this, or reported it. -/
def reported (result : Except ε α) : MayPanic ε α := result.mapError .error

/-- Code that returns or reports an error, whatever happens. -/
def Reports (code : MayPanic ε α) : Prop := ∃ result, code = reported result

theorem checkedAdd_eq {a b : Nat} (h : a + b < 2 ^ 64) :
    (checkedAdd a b : MayPanic ε Nat) = .ok (a + b) := if_pos h

theorem checkedSub_eq {a b : Nat} (h : b ≤ a) :
    (checkedSub a b : MayPanic ε Nat) = .ok (a - b) := if_pos h

theorem checkedMul_eq {a b : Nat} (h : a * b < 2 ^ 64) :
    (checkedMul a b : MayPanic ε Nat) = .ok (a * b) := if_pos h

theorem withCapacity_eq {bytes : Nat} (h : bytes < 2 ^ 63) :
    (withCapacity bytes : MayPanic ε Unit) = .ok () := if_pos h

theorem index_eq {items : List α} {i : Nat} (h : i < items.length) (default : α) :
    (index items i : MayPanic ε α) = .ok (items.getD i default) := by
  rw [index, List.getD_eq_getElem?_getD, List.getElem?_eq_getElem h]
  rfl

theorem slice_eq {items : List α} {start stop : Nat} (hstart : start ≤ stop)
    (hstop : stop ≤ items.length) :
    (slice items start stop : MayPanic ε (List α)) = .ok ((items.drop start).take (stop - start)) :=
  if_pos ⟨hstart, hstop⟩

@[simp] theorem reported_ok (a : α) : (reported (.ok a) : MayPanic ε α) = .ok a := rfl

theorem reported_bind (result : Except ε α) (next : α → Except ε β) :
    reported (result >>= next) = reported result >>= fun a => reported (next a) := by
  cases result <;> rfl

theorem mapError_reported (f : ε → ε') (result : Except ε α) :
    (reported result).mapError (Stop.map f) = reported (result.mapError f) := by
  cases result <;> rfl

theorem Reports.ok (a : α) : Reports (.ok a : MayPanic ε α) := ⟨.ok a, rfl⟩

theorem Reports.error (e : ε) : Reports (.error (.error e) : MayPanic ε α) := ⟨.error e, rfl⟩

theorem Reports.bind {code : MayPanic ε α} {next : α → MayPanic ε β} (hcode : Reports code)
    (hnext : ∀ a, code = .ok a → Reports (next a)) : Reports (code >>= next) := by
  obtain ⟨result, rfl⟩ := hcode
  cases result with
  | error e => exact .error e
  | ok a => exact hnext a rfl

theorem Reports.mapError {code : MayPanic ε α} (h : Reports code) (f : ε → ε') :
    Reports (code.mapError (Stop.map f)) := by
  obtain ⟨result, rfl⟩ := h
  exact ⟨result.mapError f, mapError_reported f result⟩

/-- What reports and does not return has an error. -/
theorem Reports.error_of_ne_ok {code : MayPanic ε α} (h : Reports code) (hok : ∀ a, code ≠ .ok a) :
    ∃ e, code = .error (.error e) := by
  obtain ⟨result, rfl⟩ := h
  cases result with
  | error e => exact ⟨e, rfl⟩
  | ok a => exact absurd rfl (hok a)

end Ugpibd.Library

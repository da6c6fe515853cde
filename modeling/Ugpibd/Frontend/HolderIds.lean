import Ugpibd.Frontend.LockSpec

/-! The front-ends' identities in the shared registry: each protocol numbers its own holders,
and the two ranges do not meet. -/
namespace Ugpibd.Frontend

/-- A registry call before it is known whose it is. -/
inductive LockCall
  | request (resource lockString : String)
  | release (resource : String)
  | releaseAll
  deriving DecidableEq, Repr

/-- The call as one holder makes it. -/
def LockCall.madeBy (holder : HolderId) : LockCall → LockOp
  | .request resource lockString => .request resource holder lockString
  | .release resource => .release resource holder
  | .releaseAll => .releaseAll holder

theorem hislipId_toNat (sessionId : UInt16) :
    (hislipId sessionId).toNat = 2 ^ 32 + sessionId.toNat := by
  have h := sessionId.toNat_lt
  rw [hislipId, UInt64.toNat_or]
  change 2 ^ 32 * 1 ||| sessionId.toNat = _
  exact (Nat.two_pow_add_eq_or_of_lt (by omega) 1).symm

theorem vxi11Id_toNat (lid : Int32) : (vxi11Id lid).toNat = 2 ^ 33 + lid.toUInt32.toNat := by
  rw [vxi11Id, UInt64.toNat_or]
  change 2 ^ 32 * 2 ||| lid.toUInt32.toNat = _
  exact (Nat.two_pow_add_eq_or_of_lt lid.toUInt32.toNat_lt 2).symm

theorem hislipId_injective : Function.Injective hislipId := by
  intro a b h
  have hn := congrArg UInt64.toNat h
  rw [hislipId_toNat, hislipId_toNat] at hn
  exact UInt16.toNat_inj.mp (by omega)

theorem vxi11Id_injective : Function.Injective vxi11Id := by
  intro a b h
  have hn := congrArg UInt64.toNat h
  rw [vxi11Id_toNat, vxi11Id_toNat] at hn
  have he : a.toUInt32 = b.toUInt32 := UInt32.toNat_inj.mp (Nat.add_left_cancel hn)
  obtain ⟨a⟩ := a
  obtain ⟨b⟩ := b
  exact congrArg Int32.ofUInt32 he

theorem hislipId_ne_vxi11Id (sessionId : UInt16) (lid : Int32) :
    hislipId sessionId ≠ vxi11Id lid := by
  intro h
  have hn := congrArg UInt64.toNat h
  have hs := sessionId.toNat_lt
  rw [hislipId_toNat, vxi11Id_toNat] at hn
  omega

/-- A call touches no holder but its own. -/
theorem LockRegistry.madeBy_holds_other {reg : LockRegistry} (hne : reg.NoEmptyTable)
    {holder other : HolderId} (hother : other ≠ holder) (call : LockCall) (resource : String) :
    (reg.apply (call.madeBy holder)).2.holds resource other = reg.holds resource other := by
  cases call with
  | request resource' lockString =>
    simp only [LockCall.madeBy, LockRegistry.apply]
    cases hr : reg.tryRequest resource' holder lockString with
    | mk answer reg' =>
      cases answer with
      | none => rw [tryRequest_refused hne hr]
      | some response =>
        rw [Bool.eq_iff_iff, granted_holds hr]
        simp [hother]
  | release resource' => exact release_holds_other rfl fun h => hother h.2
  | releaseAll =>
    rw [Bool.eq_iff_iff]
    simp only [LockCall.madeBy, LockRegistry.apply, releaseAll_holds]
    simp [hother]

end Ugpibd.Frontend

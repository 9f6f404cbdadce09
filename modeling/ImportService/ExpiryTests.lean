/-
This file compares the two tests for a lease that has run out. The column `leasedUntil` is a
`TIMESTAMP` without a time zone. In SQL, `now()` is an instant, which the session turns into
the time its own clock on the wall shows when it is stored, and a column is read by that clock
when it is compared with `now()`. Prisma writes a `Date` as the time in UTC. So `claimNext`
tests the instant that was written, and the sweep tests that instant moved by the offset of the
session (`reclaimTest_grant`). The tests agree exactly in UTC, and there they are those of the
rest of the model.

Instants and times are milliseconds. The offset of a session is what its clock is ahead of UTC.
-/

import ImportService.Repositories

namespace ImportService

open JobRepository

/-! ### The column -/

/-- A `TIMESTAMP` without a time zone. -/
structure WallTime where
  milliseconds : Int
  deriving DecidableEq

/-- An instant stored by a session. -/
def WallTime.ofSession (offset instant : Int) : WallTime where
  milliseconds := instant + offset

/-- A time compared with an instant by a session. -/
def WallTime.toSession (offset : Int) (time : WallTime) : Int := time.milliseconds - offset

/-- A JavaScript `Date` sent by Prisma. -/
def WallTime.ofDate (date : Int) : WallTime where
  milliseconds := date

/-- The columns the tests read. -/
structure LeaseColumns where
  status : JobStatus
  leasedUntil : Option WallTime
  deriving DecidableEq

/-- The lease that `claimNext` and `renewLease` write:
`now() + leaseSeconds * interval '1 second'`. -/
def grantLease (offset : Int) (leaseDurationMs : Nat) (now : Int) (row : LeaseColumns) :
    LeaseColumns :=
  { row with
    leasedUntil := some (WallTime.ofSession offset (now + leaseSeconds leaseDurationMs * 1000)) }

/-- `status IN ('CLAIMED', 'PROCESSING') AND "leasedUntil" < now()` -/
def claimNextTest (offset now : Int) (row : LeaseColumns) : Bool :=
  isLeasedStatus row.status && row.leasedUntil.any fun limit => limit.toSession offset < now

/-- `status: { in: ['CLAIMED', 'PROCESSING'] }, leasedUntil: { lt: now }` -/
def reclaimTest (now : Int) (row : LeaseColumns) : Bool :=
  isLeasedStatus row.status &&
    row.leasedUntil.any fun limit => limit.milliseconds < (WallTime.ofDate now).milliseconds

/-! ### Sessions in UTC -/

/-- The columns of a job written by a session in UTC. -/
def JobRow.leaseColumns (row : JobRow) : LeaseColumns where
  status := row.status
  leasedUntil := row.leasedUntil.map fun limit : Nat => WallTime.ofSession 0 limit

section

variable (leaseDurationMs now : Nat) (row : JobRow)

theorem leaseColumns_renewData :
    (renewData leaseDurationMs now row).leaseColumns =
      grantLease 0 leaseDurationMs now row.leaseColumns := by
  simp only [renewData, JobRow.leaseColumns, grantLease, leaseEnd, Option.map_some, Nat.cast_add,
    Nat.cast_mul, Nat.cast_ofNat]

theorem leaseColumns_claimData (workerId : WorkerId) :
    (claimData workerId leaseDurationMs now row).leaseColumns =
      grantLease 0 leaseDurationMs now { row.leaseColumns with status := .CLAIMED } := by
  simp only [claimData, JobRow.leaseColumns, grantLease, leaseEnd, Option.map_some, Nat.cast_add,
    Nat.cast_mul, Nat.cast_ofNat]

theorem claimNextTest_leaseColumns :
    claimNextTest 0 now row.leaseColumns = (isLeasedStatus row.status && leaseExpired now row) := by
  simp only [claimNextTest, JobRow.leaseColumns, leaseExpired, Option.any_map,
    WallTime.toSession, WallTime.ofSession, add_zero, sub_zero, Nat.cast_lt]

theorem reclaimTest_leaseColumns : reclaimTest now row.leaseColumns = isExpired now row := by
  simp only [reclaimTest, JobRow.leaseColumns, isExpired, leaseExpired, Option.any_map,
    WallTime.ofDate, WallTime.ofSession, add_zero, Nat.cast_lt]

end

/-! ### The two tests -/

section

variable (offset : Int) (leaseDurationMs : Nat) (writtenAt now : Int) (row : LeaseColumns)

/-- `claimNext` tests the instant at which the lease ends. -/
theorem claimNextTest_grant :
    claimNextTest offset now (grantLease offset leaseDurationMs writtenAt row) =
      (isLeasedStatus row.status &&
        decide (writtenAt + leaseSeconds leaseDurationMs * 1000 < now)) := by
  simp only [claimNextTest, grantLease, Option.any_some, WallTime.toSession, WallTime.ofSession,
    add_sub_cancel_right]

/-- A sweep tests the instant at which the lease ends, moved by the offset of the session. -/
theorem reclaimTest_grant :
    reclaimTest now (grantLease offset leaseDurationMs writtenAt row) =
      (isLeasedStatus row.status &&
        decide (writtenAt + leaseSeconds leaseDurationMs * 1000 + offset < now)) := by
  simp only [reclaimTest, grantLease, Option.any_some]
  rfl

/-- In a session far enough west of UTC a sweep takes every lease away as soon as it is
granted. -/
theorem reclaimTest_grant_at_once
    (west : leaseSeconds leaseDurationMs * 1000 + offset < 0) :
    reclaimTest writtenAt (grantLease offset leaseDurationMs writtenAt row) =
      isLeasedStatus row.status := by
  have isUp : writtenAt + leaseSeconds leaseDurationMs * 1000 + offset < writtenAt := by linarith
  rw [reclaimTest_grant, decide_eq_true isUp, Bool.and_true]

/-- The tests differ from the end of the lease to that end moved by the offset. -/
theorem tests_agree_iff (leased : isLeasedStatus row.status = true) :
    claimNextTest offset now (grantLease offset leaseDurationMs writtenAt row) =
        reclaimTest now (grantLease offset leaseDurationMs writtenAt row) ↔
      (writtenAt + leaseSeconds leaseDurationMs * 1000 < now ↔
        writtenAt + leaseSeconds leaseDurationMs * 1000 + offset < now) := by
  rw [claimNextTest_grant, reclaimTest_grant, leased, Bool.true_and, Bool.true_and,
    decide_eq_decide]

end

/-- For a lease of any duration, the tests select the same jobs at every instant after any write
of the lease exactly when the session is in UTC. The instants are milliseconds, as a column of
three decimals and a `Date` hold them; the fractions of one that `NOW()` has are left out. -/
theorem expiry_tests_agree_iff (offset : Int) (leaseDurationMs : Nat) :
    (∀ (row : LeaseColumns) (writtenAt now : Int), writtenAt ≤ now →
      claimNextTest offset now (grantLease offset leaseDurationMs writtenAt row) =
        reclaimTest now (grantLease offset leaseDurationMs writtenAt row)) ↔
      offset = 0 := by
  constructor
  · intro agree
    have leaseEnds : (0 : Int) ≤ leaseSeconds leaseDurationMs * 1000 := by positivity
    have agreeAt (now : Int) (later : 0 ≤ now) :=
      (tests_agree_iff offset leaseDurationMs 0 now ⟨.CLAIMED, none⟩ rfl).mp (agree _ 0 now later)
    rcases lt_trichotomy offset 0 with west | utc | east
    · have atEnd := agreeAt (leaseSeconds leaseDurationMs * 1000) leaseEnds
      omega
    · exact utc
    · have afterEnd := agreeAt (leaseSeconds leaseDurationMs * 1000 + 1) (by omega)
      omega
  · rintro rfl row writtenAt now _
    rw [claimNextTest_grant, reclaimTest_grant, add_zero]

/-- The lease of `LEASE_DURATION_MS`, written and swept at once in a session five hours west of
UTC. -/
theorem fresh_lease_swept :
    claimNextTest (-18000000) 0 (grantLease (-18000000) 120000 0 ⟨.CLAIMED, none⟩) = false ∧
      reclaimTest 0 (grantLease (-18000000) 120000 0 ⟨.CLAIMED, none⟩) = true := by
  decide

end ImportService

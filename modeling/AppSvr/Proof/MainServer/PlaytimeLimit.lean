/-
This file proves when an account gets a new play time, and that sessions of a day add up to the
limit.
-/

import AppSvr.Construction.MainServer.Playtime
import Mathlib.Algebra.Ring.Int.Defs

namespace AppSvr.MainServer

/-- Three hours of play end in a rest of five hours. -/
def playLimit : Nat := 3 * 3600

def restTime : Nat := 5 * 3600

/-- The limit is reached and the rest is too short. -/
def MustRest (played last now : Nat) : Prop := playLimit ≤ played ∧ now - last < restTime

/-- The rest is over, or another day has begun. -/
def Rested (played last now : Nat) : Prop :=
  restTime < now - last ∨ playLimit ≤ played ∧ restTime ≤ now - last ∨ now / 86400 ≠ last / 86400

/-- The play time is not taken for one of another day. -/
def KnowsDay (played last now : Nat) : Prop :=
  playLimit ≤ played ∨ played = 0 ∨ now / 3600 = last / 3600 ∨ Rested played last now

instance (played last now : Nat) : Decidable (MustRest played last now) :=
  inferInstanceAs (Decidable (_ ∧ _))

instance (played last now : Nat) : Decidable (Rested played last now) :=
  inferInstanceAs (Decidable (_ ∨ _))

instance (played last now : Nat) : Decidable (KnowsDay played last now) :=
  inferInstanceAs (Decidable (_ ∨ _))

namespace AccountRow

def played (row : AccountRow) : Nat := row.topTime.toUInt32.toNat

def last (row : AccountRow) : Nat := row.lastloginTime.toUInt32.toNat

/-- The flag of the account is read as a byte. -/
def Minor (row : AccountRow) : Prop := row.isAdult.toUInt32.toUInt8 = 0

end AccountRow

/-- The difference of the hours is zero in the same hour and small in a short rest. -/
theorem hours_differ_iff {last now : Nat} (ordered : last ≤ now) :
    (0 < ((now : Int) / 3600 * 24 - ((last / 3600 * 24 : Nat) : Int)) % 2 ^ 32 ∨
      5 * 3600 < (now : Int) - last) ↔ now / 3600 ≠ last / 3600 := by
  constructor
  · rintro (later | longer) same
    · have zero : (now : Int) / 3600 * 24 - ((last / 3600 * 24 : Nat) : Int) = 0 := by omega
      rw [zero] at later
      exact absurd later (by decide)
    · omega
  · intro differ
    refine or_iff_not_imp_right.mpr fun shorter => ?_
    have more : 0 < (now : Int) / 3600 * 24 - ((last / 3600 * 24 : Nat) : Int) := by omega
    have few : (now : Int) / 3600 * 24 - ((last / 3600 * 24 : Nat) : Int) < 2 ^ 32 := by omega
    rwa [Int.emod_eq_of_lt (Int.le_of_lt more) few]

/-- The comparison of days finds another hour, and so does every longer rest. -/
theorem compared_iff {lastlogintime : UInt32} {now : Nat} (ordered : lastlogintime.toNat ≤ now) :
    (0 < UInt32.ofInt (now / 3600 * 24 - (lastlogintime / 3600 * 24).toNat) ∨
      5 * 3600 < (now : Int) - lastlogintime.toNat) ↔
      now / 3600 ≠ lastlogintime.toNat / 3600 := by
  have bound := lastlogintime.toNat_lt
  have hour : (3600 : UInt32).toNat = 3600 := rfl
  have day : (24 : UInt32).toNat = 24 := rfl
  have hours : (lastlogintime / 3600 * 24).toNat = lastlogintime.toNat / 3600 * 24 := by
    rw [UInt32.toNat_mul, UInt32.toNat_div, hour, day]
    omega
  have positive (difference : Int) : 0 < UInt32.ofInt difference ↔ 0 < difference % 2 ^ 32 := by
    rw [UInt32.lt_iff_toNat_lt, UInt32.ofInt, UInt32.toNat_ofNat', UInt32.toNat_zero]
    omega
  rw [positive, hours]
  exact hours_differ_iff ordered

namespace AccountTable

variable {accounts : AccountTable} {accountID : UInt32} {row : AccountRow} {now : Nat}

/-- The login is refused and the play time is reset as the limit asks. -/
structure KeepsLimit (accounts : AccountTable) (now : Nat) (accountID : UInt32)
    (row : AccountRow) : Prop where
  refuses : (accounts.accountPlaytimeAccess now accountID).1 ≠ 0 ↔
    MustRest row.played row.last now
  resets : (accounts.accountPlaytimeAccess now accountID).2 =
    if ¬ MustRest row.played row.last now ∧ Rested row.played row.last now then
      accounts.updateToptime accountID
    else accounts

section Found

variable (found : accounts (printed accountID) = some row)
include found

theorem update_of_found (set : AccountRow → AccountRow) :
    accounts.update accountID set (printed accountID) = some (set row) := by
  rw [update, Function.update_self, found]
  rfl

/-- A play time of zero stays as it is. -/
theorem updateToptime_eq_iff : accounts.updateToptime accountID = accounts ↔ row.played = 0 := by
  constructor
  · intro same
    have entry := congrFun same (printed accountID)
    rw [updateToptime, update_of_found found, found] at entry
    have zero := congrArg AccountRow.played (Option.some.inj entry)
    exact zero.symm
  · intro zero
    have topTime : row.topTime = 0 := by
      rw [← Int32.toInt32_toUInt32 row.topTime, UInt32.toNat.inj (a := row.topTime.toUInt32)
        (b := 0) zero]
      rfl
    rw [updateToptime, update, found]
    refine (congrArg _ ?_).trans (Function.update_eq_self _ _)
    rw [found, ← topTime]
    rfl

/-- Below the limit the play time is reset in every new hour. -/
theorem accountPlaytimeAccess_eq (minor : row.Minor) (ordered : row.last ≤ now) :
    accounts.accountPlaytimeAccess now accountID =
      if playLimit ≤ row.played then
        if restTime ≤ now - row.last then (0, accounts.updateToptime accountID) else (1, accounts)
      else if now / 3600 = row.last / 3600 then (0, accounts)
      else (0, accounts.updateToptime accountID) := by
  have limit : 3600 * 3 ≤ row.topTime.toUInt32 ↔ playLimit ≤ row.played :=
    UInt32.le_iff_toNat_le
  have rest : 3600 * 5 ≤ (now : Int) - row.lastloginTime.toUInt32.toNat ↔
      restTime ≤ now - row.last := by
    rw [restTime, AccountRow.last] at *
    omega
  have hours : _ ↔ now / 3600 ≠ row.last / 3600 := compared_iff ordered
  have young : row.isAdult.toUInt32.toUInt8 = 0 := minor
  simp only [accountPlaytimeAccess, getAccount, found]
  rw [if_pos young]
  simp only [limit, rest]
  split
  case isTrue => rfl
  case isFalse =>
    by_cases same : now / 3600 = row.last / 3600
    · rw [if_pos same, if_neg fun later => hours.mp (Or.inl later) same,
        if_neg fun longer => hours.mp (Or.inr longer) same]
    · rw [if_neg same]
      obtain later | longer := hours.mpr same
      · rw [if_pos later]
      · rw [if_pos longer, ite_self]

/-- The limit is kept exactly when the account is not taken to play on another day. -/
theorem keepsLimit_iff (minor : row.Minor) (ordered : row.last ≤ now) :
    KeepsLimit accounts now accountID row ↔ KnowsDay row.played row.last now := by
  have access := accountPlaytimeAccess_eq found minor ordered
  by_cases reached : playLimit ≤ row.played
  case pos =>
    rw [if_pos reached] at access
    refine iff_of_true ?_ (Or.inl reached)
    by_cases rest : restTime ≤ now - row.last
    · have free : ¬ MustRest row.played row.last now := fun must => Nat.not_lt.mpr rest must.2
      rw [if_pos rest] at access
      constructor
      · rw [access]
        exact iff_of_false (fun refused => refused rfl) free
      · rw [access, if_pos ⟨free, Or.inr (Or.inl ⟨reached, rest⟩)⟩]
    · have must : MustRest row.played row.last now := ⟨reached, Nat.lt_of_not_le rest⟩
      rw [if_neg rest] at access
      constructor
      · rw [access]
        exact iff_of_true (by decide : (1 : Int32) ≠ 0) must
      · rw [access, if_neg fun both => both.1 must]
  case neg =>
    have free : ¬ MustRest row.played row.last now := fun must => reached must.1
    have kept : KeepsLimit accounts now accountID row ↔
        (accounts.accountPlaytimeAccess now accountID).2 =
          if Rested row.played row.last now then accounts.updateToptime accountID
          else accounts := by
      constructor
      · intro keeps
        rw [keeps.resets]
        exact if_congr (and_iff_right free) rfl rfl
      · intro resets
        refine ⟨iff_of_false ?_ free, resets.trans (if_congr (and_iff_right free) rfl rfl).symm⟩
        rw [access, if_neg reached]
        split <;> exact fun refused => refused rfl
    rw [kept, access, if_neg reached, KnowsDay, or_iff_right reached]
    by_cases same : now / 3600 = row.last / 3600
    · have awake : ¬ Rested row.played row.last now := by
        rintro (longer | both | other)
        · rw [restTime] at longer
          omega
        · exact reached both.1
        · omega
      rw [if_pos same, if_neg awake]
      exact iff_of_true rfl (Or.inr (Or.inl same))
    · rw [if_neg same, or_iff_right same]
      by_cases rested : Rested row.played row.last now
      · rw [if_pos rested]
        exact iff_of_true rfl (Or.inr rested)
      · rw [if_neg rested, or_iff_left rested]
        exact updateToptime_eq_iff found

end Found

end AccountTable

/-- A role of the account enters, logs in and leaves at these times. -/
structure Session where
  enter : UInt32
  login : UInt32
  leave : UInt32
  deriving DecidableEq, Repr

/-- The account changes only if the role may enter. -/
def AccountTable.play (accountID : UInt32) (accounts : AccountTable) (session : Session) :
    AccountTable :=
  let (flag, accounts) := accounts.accountPlaytimeAccess session.enter.toNat accountID
  if flag = 0 then
    accounts.updateAccount session.leave.toNat accountID
      (accounts.processRoleLogin session.login.toNat accountID)
  else accounts

/-- The play time of a day and the end of the last session. -/
structure PlayTime where
  played : Nat
  last : Nat
  deriving DecidableEq, Repr

namespace PlayTime

/-- A session below the limit counts in full. -/
def add (time : PlayTime) (session : Session) : PlayTime :=
  if playLimit ≤ time.played then time
  else ⟨time.played + (session.leave.toNat - session.login.toNat), session.leave.toNat⟩

/-- The session follows on the same day after a short break. -/
structure Continues (time : PlayTime) (session : Session) : Prop where
  entered : time.last ≤ session.enter.toNat
  loggedIn : session.enter.toNat ≤ session.login.toNat
  left : session.login.toNat ≤ session.leave.toNat
  sameDay : session.leave.toNat / 86400 = time.last / 86400
  shortBreak : session.enter.toNat - time.last < restTime

/-- Every session continues the day and is known to. -/
def KnownDay : PlayTime → List Session → Prop
  | _, [] => True
  | time, session :: sessions =>
      time.Continues session ∧ KnowsDay time.played time.last session.enter.toNat ∧
        KnownDay (time.add session) sessions

end PlayTime

namespace AccountTable

variable {accounts : AccountTable} {accountID : UInt32} {row : AccountRow}

/-- The account of this row is a minor and has this play time. -/
structure Holds (accounts : AccountTable) (accountID : UInt32) (time : PlayTime)
    (row : AccountRow) : Prop where
  found : accounts (printed accountID) = some row
  minor : row.Minor
  played : row.played = time.played
  last : row.last = time.last

/-- The account keeps a play time below the limit at its login. -/
theorem processRoleLogin_eq (found : accounts (printed accountID) = some row)
    (below : row.played < playLimit) (now : UInt32) :
    accounts.processRoleLogin now.toNat accountID =
      ⟨row.lastloginTime.toUInt32, row.topTime.toUInt32, row.isAdult.toUInt32.toUInt8, now⟩ := by
  have few : ¬ 3600 * 3 ≤ row.topTime.toUInt32 := fun reached =>
    Nat.not_le.mpr below (UInt32.le_iff_toNat_le.mp reached)
  simp only [processRoleLogin, getAccount, found]
  rw [if_neg fun all => few all.2.1, UInt32.ofNat_toNat]

theorem updateAccount_holds {time : PlayTime} {session : Session}
    (holds : Holds accounts accountID time row) (below : time.played < playLimit)
    (continues : time.Continues session) :
    ∃ row, Holds (accounts.updateAccount session.leave.toNat accountID
      (accounts.processRoleLogin session.login.toNat accountID)) accountID (time.add session)
      row := by
  obtain ⟨found, minor, played, last⟩ := holds
  obtain ⟨entered, loggedIn, left, sameDay, -⟩ := continues
  rw [processRoleLogin_eq found (played ▸ below), updateAccount, UInt32.ofNat_toNat]
  refine ⟨_, update_of_found found _, minor, ?_, ?_⟩
  · have sum : (row.topTime.toUInt32 + (session.leave - session.login)).toNat =
        time.played + (session.leave.toNat - session.login.toNat) := by
      have start : row.topTime.toUInt32.toNat = time.played := played
      rw [UInt32.toNat_add, UInt32.toNat_sub_of_le _ _ (UInt32.le_iff_toNat_le.mpr left), start]
      rw [playLimit] at below
      omega
    rw [PlayTime.add, if_neg (Nat.not_le.mpr below), ← sum]
    rfl
  · rw [PlayTime.add, if_neg (Nat.not_le.mpr below)]
    rfl

/-- A session adds its time to the account. -/
theorem play_holds {time : PlayTime} {session : Session} (holds : Holds accounts accountID time row)
    (continues : time.Continues session)
    (known : KnowsDay time.played time.last session.enter.toNat) :
    ∃ row, Holds (accounts.play accountID session) accountID (time.add session) row := by
  have ordered : row.last ≤ session.enter.toNat := holds.last ▸ continues.entered
  have keeps := (keepsLimit_iff holds.found holds.minor ordered).mpr
    (holds.played ▸ holds.last ▸ known)
  have tired : ¬ restTime ≤ session.enter.toNat - row.last :=
    holds.last ▸ Nat.not_le.mpr continues.shortBreak
  have access := accountPlaytimeAccess_eq holds.found holds.minor ordered
  by_cases reached : playLimit ≤ row.played
  · rw [if_pos reached, if_neg tired] at access
    refine ⟨row, ?_⟩
    rw [play, access, PlayTime.add, if_pos (holds.played ▸ reached)]
    exact holds
  · have awake : ¬ Rested row.played row.last session.enter.toNat := by
      have order := continues.loggedIn
      have day := continues.sameDay
      have left := continues.left
      rw [← holds.last] at day
      rintro (longer | both | other)
      · exact tired (Nat.le_of_lt longer)
      · exact reached both.1
      · omega
    have same : accounts.accountPlaytimeAccess session.enter.toNat accountID = (0, accounts) := by
      refine Prod.ext ?_ (keeps.resets.trans (if_neg fun both => awake both.2))
      by_contra refused
      exact reached (keeps.refuses.mp refused).1
    rw [play, same]
    exact updateAccount_holds holds (Nat.lt_of_not_le (holds.played ▸ reached)) continues

/-- The sessions of a day add up. -/
theorem foldl_play_holds {sessions : List Session} {time : PlayTime}
    (holds : Holds accounts accountID time row) (known : time.KnownDay sessions) :
    ∃ row, Holds (sessions.foldl (play accountID) accounts) accountID
      (sessions.foldl PlayTime.add time) row := by
  induction sessions generalizing accounts time row with
  | nil => exact ⟨row, holds⟩
  | cons session sessions ih =>
      obtain ⟨continues, knows, rest⟩ := known
      obtain ⟨next, after⟩ := play_holds holds continues knows
      exact ih after rest

/-- The limit is kept exactly when the hour is known, and then the sessions of a day add up. -/
theorem playtime_limit_iff (found : accounts (printed accountID) = some row)
    (minor : row.Minor) :
    (∀ now, row.last ≤ now →
      (KeepsLimit accounts now accountID row ↔ KnowsDay row.played row.last now)) ∧
    ∀ sessions, PlayTime.KnownDay ⟨row.played, row.last⟩ sessions →
      ∃ row', Holds (sessions.foldl (play accountID) accounts) accountID
        (sessions.foldl PlayTime.add ⟨row.played, row.last⟩) row' :=
  ⟨fun _ ordered => keepsLimit_iff found minor ordered, fun _ known =>
    foldl_play_holds ⟨found, minor, rfl, rfl⟩ known⟩

/-- A minor left at ten to eleven after two hours of play. -/
def twoHours : AccountRow := ⟨0, 39000, 7200⟩

def oneAccount : AccountTable := fun accountID => if accountID = 7 then some twoHours else none

/-- The minor comes back before eleven and plays for almost an hour. -/
theorem playtime_limit_hour : KeepsLimit oneAccount 39500 7 twoHours ∧
    ∃ row, Holds (oneAccount.play 7 ⟨39500, 39510, 43000⟩) 7 ⟨10690, 43000⟩ row := by
  have limit := @playtime_limit_iff oneAccount 7 twoHours rfl rfl
  exact ⟨(limit.1 39500 (by decide)).mpr (by decide),
    limit.2 [⟨39500, 39510, 43000⟩]
      ⟨⟨by decide, by decide, by decide, by decide, by decide⟩, by decide, trivial⟩⟩

/-- The minor comes back at five past eleven and has all three hours again. -/
theorem playtime_not_limited : oneAccount (printed 7) = some twoHours ∧ twoHours.Minor ∧
    twoHours.last ≤ 39900 ∧ ¬ KeepsLimit oneAccount 39900 7 twoHours := by
  refine ⟨rfl, rfl, by decide, fun keeps => ?_⟩
  have entry := congrFun keeps.resets (printed 7)
  exact absurd entry (by decide)

end AccountTable

end AppSvr.MainServer

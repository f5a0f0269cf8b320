/-
This file proves that the address counts are exact and when they respect the configured limit.
-/

import AppSvr.Proof.Gateway.PkgHead
import AppSvr.Proof.Gateway.Steps
import Mathlib.Data.Finset.Card

namespace AppSvr.Gateway.AppGwSvc
open PartialMap TransitionSystem

/-- The session is an outside connection of the address. -/
def isOutsideOf (ip : UInt32) (s : ConnectSession) : Bool :=
  s.connType = .outside ∧ connectionIp s.connID = ip

variable (ini : IniOption) (svc : AppGwSvc)

/-- These outside sessions of an address were accepted and not yet deleted. -/
def outsideSessions (ip : UInt32) : Finset SessionPtr :=
  (Finset.range svc.nextSession).filter fun ptr => (svc.sessions ptr).any (isOutsideOf ip)

theorem mem_outsideSessions {svc : AppGwSvc} (well : svc.WellFormed) {ip : UInt32}
    {ptr : SessionPtr} :
    ptr ∈ svc.outsideSessions ip ↔
      ∃ s, svc.sessions ptr = some s ∧ s.connType = .outside ∧ connectionIp s.connID = ip := by
  simp only [outsideSessions, Finset.mem_filter, Finset.mem_range, Option.any_eq_true, isOutsideOf,
    decide_eq_true_eq]
  constructor
  · rintro ⟨-, s, live, outside⟩
    exact ⟨s, live, outside⟩
  · rintro ⟨s, live, outside⟩
    refine ⟨?_, s, live, outside⟩
    by_contra beyond
    rw [well.fresh ptr (Nat.le_of_not_lt beyond)] at live
    cases live

/-- Related heaps have the same outside sessions. -/
theorem outsideSessions_related {View : Type} {view : ConnectSession → View} {svc next : AppGwSvc}
    (well : svc.WellFormed) (wellNext : next.WellFormed)
    (related : Related (Follows view) svc.sessions next.sessions) (ip : UInt32) :
    next.outsideSessions ip = svc.outsideSessions ip := by
  ext ptr
  rw [mem_outsideSessions well, mem_outsideSessions wellNext]
  constructor
  · rintro ⟨later, live, outside, own⟩
    obtain ⟨s, before, follows⟩ := related.backward live
    exact ⟨s, before, by rw [← follows.connType, outside], by rw [← follows.connID, own]⟩
  · rintro ⟨s, live, outside, own⟩
    obtain ⟨later, after, follows⟩ := related.forward live
    exact ⟨later, after, by rw [follows.connType, outside], by rw [follows.connID, own]⟩

/-- An accepted outside connection adds one session of its address. -/
theorem Accepts.outsideSessions {svc next : AppGwSvc} {lsfd : TcpStream} {ip : UInt32}
    {s : ConnectSession} (accepts : Accepts svc lsfd ip s next) (well : svc.WellFormed)
    (other : UInt32) :
    next.outsideSessions other =
      if s.connType = .outside ∧ connectionIp s.connID = other then
        insert svc.nextSession (svc.outsideSessions other)
      else svc.outsideSessions other := by
  have wellNext := accepts.wellFormed well
  have unused := well.fresh svc.nextSession (le_refl _)
  ext ptr
  rw [mem_outsideSessions wellNext, accepts.sessions]
  by_cases new : ptr = svc.nextSession
  · subst new
    have absent : svc.nextSession ∉ svc.outsideSessions other := by
      rw [mem_outsideSessions well, unused]
      simp
    split
    · rename_i own
      simpa using own
    · rename_i foreign
      simp [absent, foreign]
  · rw [Function.update_of_ne new, ← mem_outsideSessions well]
    split
    · simp [new]
    · rfl

/-- A deletion removes the session from the sessions of its address. -/
theorem Reaps.outsideSessions {svc next : AppGwSvc} {fd : Int} {ptr : SessionPtr}
    {s : ConnectSession} (reaps : Reaps svc fd ptr s next) (well : svc.WellFormed)
    (ip : UInt32) : next.outsideSessions ip = (svc.outsideSessions ip).erase ptr := by
  ext other
  rw [mem_outsideSessions (reaps.wellFormed well), Finset.mem_erase, mem_outsideSessions well]
  constructor
  · rintro ⟨later, live, outside, own⟩
    obtain ⟨different, before, present, follows⟩ := reaps.backward live
    exact ⟨different, before, present, by rw [← follows.connType, outside],
      by rw [← follows.connID, own]⟩
  · rintro ⟨different, before, present, outside, own⟩
    obtain ⟨later, live, follows⟩ := reaps.forward different present
    exact ⟨later, live, by rw [follows.connType, outside], by rw [follows.connID, own]⟩

/-- The count of every address is the number of its outside sessions. -/
def CountsExact : Prop :=
  ∀ ip, (svc.ipCount ip).getD 0 = ((svc.outsideSessions ip).card : Int)

/-- An accept counts the new outside session. -/
theorem Accepts.countsExact {svc next : AppGwSvc} {lsfd : TcpStream} {ip : UInt32}
    {s : ConnectSession} (accepts : Accepts svc lsfd ip s next) (well : svc.WellFormed)
    (kind : s.connType = lsfd) (own : connectionIp s.connID = ip) (exact : svc.CountsExact) :
    next.CountsExact := by
  intro other
  rw [accepts.outsideSessions well, accepts.ipCount, kind, own]
  cases lsfd with
  | inside => simpa using exact other
  | outside =>
      dsimp only
      by_cases same : ip = other
      · subst same
        have unused : svc.nextSession ∉ svc.outsideSessions ip := by
          simp [AppGwSvc.outsideSessions]
        rw [if_pos ⟨rfl, rfl⟩, Finset.card_insert_of_notMem unused, Function.update_self,
          Option.getD_some, exact ip]
        push_cast
        rfl
      · rw [if_neg fun pair => same pair.2, Function.update_of_ne (Ne.symm same), exact other]

/-- The decrease lowers the count of its address by one. -/
theorem decreaseIpCount_getD (ip other : UInt32) (positive : 0 < (svc.ipCount ip).getD 0) :
    ((svc.decreaseIpCount ip).ipCount other).getD 0 =
      (svc.ipCount other).getD 0 - if other = ip then 1 else 0 := by
  unfold decreaseIpCount
  cases present : svc.ipCount ip with
  | none => simp [present] at positive
  | some count =>
      rw [present, Option.getD_some] at positive
      by_cases same : other = ip
      · subst same
        simp only [Function.update_self, present, Option.getD_some, if_true]
        split
        · rw [Option.getD_none]
          omega
        · rfl
      · simp [same]

/-- A deletion lowers exactly the count of the deleted outside session. -/
theorem Reaps.countsExact {svc next : AppGwSvc} {fd : Int} {ptr : SessionPtr}
    {s : ConnectSession} (reaps : Reaps svc fd ptr s next) (well : svc.WellFormed)
    (exact : svc.CountsExact) : next.CountsExact := by
  intro ip
  rw [reaps.outsideSessions well, reaps.ipCount]
  have member : ptr ∈ svc.outsideSessions ip ↔
      s.connType = .outside ∧ connectionIp s.connID = ip := by
    rw [mem_outsideSessions well, reaps.live]
    simp
  by_cases outside : s.connType = .outside
  · have counted : ptr ∈ svc.outsideSessions (connectionIp s.connID) := by
      rw [mem_outsideSessions well]
      exact ⟨s, reaps.live, outside, rfl⟩
    have positive : 0 < (svc.ipCount (connectionIp s.connID)).getD 0 := by
      rw [exact]
      exact_mod_cast Finset.card_pos.mpr ⟨ptr, counted⟩
    rw [if_pos outside, decreaseIpCount_getD _ _ _ positive, exact ip]
    by_cases same : ip = connectionIp s.connID
    · subst same
      rw [if_pos rfl, Finset.card_erase_of_mem counted]
      have atLeast : 0 < (svc.outsideSessions (connectionIp s.connID)).card :=
        Finset.card_pos.mpr ⟨ptr, counted⟩
      omega
    · have foreign : ptr ∉ svc.outsideSessions ip := by
        rw [member]
        exact fun pair => same pair.2.symm
      rw [if_neg same, Finset.erase_eq_of_notMem foreign, sub_zero]
  · have foreign : ptr ∉ svc.outsideSessions ip := by
      rw [member]
      exact fun pair => outside pair.1
    rw [if_neg outside, Finset.erase_eq_of_notMem foreign, exact ip]

/-- Every gateway step keeps the counts exact. -/
theorem countsExact_rule (allowed : AppGwSvc → Event → Prop) :
    StepRule ini allowed CountsExact := by
  apply StepRule.ofConnections
  · intro svc next well exact kept ip
    rw [kept.ipCount, outsideSessions_related well (kept.wellFormed well) kept.sessions, exact ip]
  · intro svc next lsfd ip port connFd now well exact _ small _ accepts
    have own := connectionIp_connectionId ip port connFd (by omega)
    exact accepts.countsExact well rfl own exact
  · intro svc next fd ptr s well exact reaps
    exact reaps.countsExact well exact

/-- No outside connection arrives from an address that already holds the configured number. -/
def BelowLimit : Event → Prop
  | .handleAccept .outside ip _ _ _ => ((svc.outsideSessions ip).card : Int) ≠ ini.ipConnectLimit
  | _ => True

/-- The sessions of every address stay within the limit. -/
def WithinLimit : Prop :=
  ∀ ip, ((svc.outsideSessions ip).card : Int) ≤ ini.ipConnectLimit

theorem withinLimit_rule : StepRule ini (BelowLimit ini) (WithinLimit ini) := by
  apply StepRule.ofConnections
  · intro svc next well within kept ip
    rw [outsideSessions_related well (kept.wellFormed well) kept.sessions]
    exact within ip
  · intro svc next lsfd ip port connFd now well within below small _ accepts other
    have own := connectionIp_connectionId ip port connFd (by omega)
    have old := within other
    rw [accepts.outsideSessions well]
    split
    · rename_i counted
      obtain ⟨kind, same⟩ := counted
      obtain rfl : lsfd = .outside := kind
      obtain rfl : ip = other := own.symm.trans same
      have below : ((svc.outsideSessions ip).card : Int) ≠ ini.ipConnectLimit := below
      have grown := Finset.card_insert_le svc.nextSession (svc.outsideSessions ip)
      omega
    · exact old
  · intro svc next fd ptr s well within reaps ip
    have shrunk : ((svc.outsideSessions ip).erase ptr).card ≤ (svc.outsideSessions ip).card :=
      Finset.card_erase_le
    have old := within ip
    rw [reaps.outsideSessions well]
    omega

/-- The counts are exact in every run, and they stay within the limit when no connection arrives
from an address that holds exactly the limit. -/
theorem ipCount_within_limit (positive : 0 ≤ ini.ipConnectLimit)
    {history : History AppGwSvc Event} {svc : AppGwSvc}
    (reached : Run (step ini) (BelowLimit ini) initial history svc) (ip : UInt32) :
    (svc.ipCount ip).getD 0 = ((svc.outsideSessions ip).card : Int) ∧
      ((svc.outsideSessions ip).card : Int) ≤ ini.ipConnectLimit := by
  have exact := (countsExact_rule ini (BelowLimit ini)).run (fun _ => rfl) reached
  have within := (withinLimit_rule ini).run (fun _ => positive) reached
  exact ⟨exact.2 ip, within.2 ip⟩

/-- One outside connection under the limit one is such a run. -/
theorem ipCount_within_limit_single :
    ((initial.handleAccept ⟨1⟩ .outside 7 80 5 0).ipCount 7).getD 0 =
        (((initial.handleAccept ⟨1⟩ .outside 7 80 5 0).outsideSessions 7).card : Int) ∧
      (((initial.handleAccept ⟨1⟩ .outside 7 80 5 0).outsideSessions 7).card : Int) ≤ 1 := by
  have below : BelowLimit ⟨1⟩ initial (.handleAccept .outside 7 80 5 0) := by
    show ((initial.outsideSessions 7).card : Int) ≠ 1
    decide
  have enabled : step ⟨1⟩ initial (.handleAccept .outside 7 80 5 0) =
      some (initial.handleAccept ⟨1⟩ .outside 7 80 5 0) := rfl
  exact ipCount_within_limit ⟨1⟩ (by decide) (.snoc .nil below enabled) 7

/-- The address check admits one connection more than the limit. -/
theorem ipCount_exceeds_limit :
    ¬ ∀ (ini : IniOption) (history : History AppGwSvc Event) (svc : AppGwSvc),
      Run (step ini) FreshDescriptor initial history svc → ∀ ip,
        (svc.ipCount ip).getD 0 = ((svc.outsideSessions ip).card : Int) ∧
          ((svc.outsideSessions ip).card : Int) ≤ ini.ipConnectLimit := by
  intro claim
  obtain ⟨history, svc, reached, exceeded⟩ := exists_run_of_replay (step ⟨1⟩) FreshDescriptor
    initial [.handleAccept .outside 7 80 5 0, .handleAccept .outside 7 81 6 0]
    (fun _ svc => (svc.outsideSessions 7).card = 2) (by decide)
  have within := (claim ⟨1⟩ history svc reached 7).2
  rw [of_decide_eq_true exceeded] at within
  exact absurd within (by decide)

end AppSvr.Gateway.AppGwSvc

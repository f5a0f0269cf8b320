/-
This file defines the rewards of the winners of a battle.
-/

import AppSvr.Construction.MainServer.PKBriefs
import AppSvr.Construction.MainServer.ItemUse
import AppSvr.Construction.PkServer.Numbers

namespace AppSvr.MainServer
open PkServer (double toInt)

/-- These are the columns of a role that the rewards read. -/
structure WinnerInfo where
  level : UInt32
  vip : UInt8
  /-- The last experience rune was used less than two hours ago. -/
  expRune : Bool
  deriving DecidableEq, Repr

structure MonsterInfo where
  level : UInt32
  exp : UInt32
  money : UInt32
  /-- The number of a drop is its chance in percent. -/
  itemDropTask : List (UInt32 × ItemList)
  deriving DecidableEq, Repr

structure SenceMonster where
  monsterType : UInt32
  num : UInt16
  deriving DecidableEq, Repr

structure ArchvUnfinishedTask where
  roleID : UInt32
  licTaskID : List UInt32
  deriving DecidableEq, Repr

/-- The rewards depend on these tables and outcomes. -/
structure RewardWorld where
  role : UInt32 → WinnerInfo
  monster : UInt32 → MonsterInfo
  unfinishedTask : List ArchvUnfinishedTask
  /-- This is `pow(_, 1.0 / 3.0)`. -/
  cubeRoot : Nat → ℚ
  /-- The draws are numbered. -/
  rand : Nat → Nat
  /-- These are the items that a call of `RoleGetItem` stores of the ones it gets. -/
  stored : Nat → List UInt32 → List UInt32

/-- A change that the rewards make outside of the report. -/
inductive Credit where
  | killed (roleID monsterType : UInt32) (num : UInt16)
  | bindMoney (roleID num : UInt32)
  | exp (roleID num : UInt32)
  | items (roleID : UInt32) (items : List UInt32)
  deriving DecidableEq, Repr

structure ArchvPKReward where
  pkType : UInt8
  exp : UInt32
  money : UInt32
  items : List UInt32
  deriving DecidableEq, Repr

structure PKEndInfo where
  roleID : UInt32
  pkr : ArchvPKReward
  pkei : ArchvPKEndInfo
  deriving DecidableEq, Repr

/-- The conversion of a `double` cuts the fraction off. -/
def castUInt32 (value : ℚ) : UInt32 :=
  UInt32.ofNat (value.num.tdiv value.den % 4294967296).toNat

/-- The monsters leave these sums. -/
structure Loot where
  expdouble : ℚ
  money : UInt32
  items : List UInt32
  /-- This is the number of the next draw. -/
  draws : Nat
  deriving DecidableEq, Repr

/-- Every role gets the kills of every group. -/
def killCredits (roleIDs : List UInt32) (monsters : List SenceMonster) : List Credit :=
  monsters.flatMap fun group =>
    roleIDs.map fun roleID => .killed roleID group.monsterType group.num

namespace RewardWorld

variable (world : RewardWorld)

def isVip (roleID : UInt32) : Prop := 1 ≤ (world.role roleID).vip ∧ (world.role roleID).vip ≤ 6

instance (roleID : UInt32) : Decidable (world.isVip roleID) := inferInstanceAs (Decidable (_ ∧ _))

variable (roleIDs : List UInt32)

def totalLevel : UInt32 :=
  roleIDs.foldl (fun total roleID => (world.role roleID).level + total) 0

/-- This is the argument of the root: the average level minus the monster's, plus one. -/
def levelDistance (monsterType : UInt32) : Nat :=
  let average : Int := (world.totalLevel roleIDs).toNat / roleIDs.length
  let difference := average - (world.monster monsterType).level.toNat
  ((difference + 2147483648) % 4294967296 - 2147483648 + 1).natAbs

/-- Every role with the task draws for its item. -/
def dropForTask (drop : UInt32 × ItemList) (loot : Loot) : Loot :=
  world.unfinishedTask.foldl (fun loot task =>
    if drop.1 ∈ task.licTaskID then
      let loot' := { loot with draws := loot.draws + 1 }
      if world.rand loot.draws % 10000 < drop.2.num.toNat * 100 then
        { loot' with items := loot.items ++ [drop.2.itemID] }
      else loot'
    else loot) loot

def killMonster (loot : Loot) (group : SenceMonster) : Loot :=
  let monster := world.monster group.monsterType
  let exp := double ((group.num.toUInt32 * monster.exp).toNat /
    world.cubeRoot (world.levelDistance roleIDs group.monsterType))
  let loot := { loot with
    expdouble := double (loot.expdouble + exp)
    money := loot.money + group.num.toUInt32 * monster.money }
  monster.itemDropTask.foldl (fun loot drop => world.dropForTask drop loot) loot

def lootOf (monsters : List SenceMonster) : Loot :=
  monsters.foldl (world.killMonster roleIDs) ⟨0, 0, [], 0⟩

/-- Zero stands for an unknown role. -/
def findtheLev (roleLev : List UInt32) (roleID : UInt32) : UInt32 :=
  match roleLev.find? (· = roleID) with
  | none => 0
  | some found => (world.role found).level

/-- The four factors of the VIP levels. -/
def vipFactor (vip : UInt8) : ℚ :=
  if vip = 1 then double (12 / 10)
  else if vip = 2 then double (13 / 10)
  else if vip = 3 then double (14 / 10)
  else double (15 / 10)

def vipShare (vip : UInt8) (value : UInt32) : UInt32 :=
  UInt32.ofNat (toInt (double (vipFactor vip * value.toNat)) % 4294967296).toNat

/-- The caller passes the money and the experience in each other's place, and both grow alike. -/
def vipExtraExpAndMoney (licRoleVip : List UInt32) (roleID : UInt32) (values : UInt32 × UInt32) :
    Option (UInt32 × UInt32) :=
  (licRoleVip.find? (· = roleID)).map fun found =>
    (vipShare (world.role found).vip values.1, vipShare (world.role found).vip values.2)

/-- The product with 1.5 is exact in a `double`. -/
def addExpByExpRune (roleID exp : UInt32) : UInt32 :=
  if (world.role roleID).expRune then UInt32.ofNat (exp.toNat * 3 / 2) else exp

/-- Each item goes to a drawn place. The array has five places. -/
def shareItems (numnum : Nat) : List UInt32 → Nat → List (List UInt32) → Option (List (List UInt32))
  | [], _, places => some places
  | item :: items, draws, places =>
      let place := world.rand draws % numnum
      if place < places.length then
        shareItems numnum items (draws + 1) (places.modify place (· ++ [item]))
      else none

/-- These calls credit the rewards of one role. -/
def creditsOf (call : Nat) (roleID money exp : UInt32) (items : List UInt32) : List Credit :=
  [.bindMoney roleID money, .exp roleID exp, .items roleID (world.stored call items)]

/-- The only winner gets everything. The rune changes the report behind the credit. -/
def rewardSingle (licRoleVip : List UInt32) (loot : Loot) (record : ArchvPKEndInfo) :
    PKEndInfo × List Credit :=
  let roleID := record.roleID
  let exp := castUInt32 loot.expdouble
  let (money, exp) := (world.vipExtraExpAndMoney licRoleVip roleID (loot.money, exp)).getD
    (loot.money, exp)
  (⟨roleID, ⟨1, world.addExpByExpRune roleID exp, money, loot.items⟩, { record with live := 1 }⟩,
    world.creditsOf 0 roleID money exp loot.items)

/-- The share of one role depends on its level. Only the share of a VIP is what is credited. -/
def rewardShared (roleLev licRoleVip : List UInt32) (loot : Loot) (place : Nat)
    (items : List UInt32) (record : ArchvPKEndInfo) : PKEndInfo × List Credit :=
  let roleID := record.roleID
  let divisor := (world.findtheLev roleLev roleID * 5).toNat * roleLev.length
  let exp := castUInt32 (double (double (double (loot.expdouble * 4) *
    (world.totalLevel roleLev).toNat) / divisor))
  let money := UInt32.ofNat (loot.money.toNat / roleLev.length)
  match world.vipExtraExpAndMoney licRoleVip roleID (money, exp) with
  | some (vipMoney, vipExp) =>
      (⟨roleID, ⟨1, vipExp, vipMoney, items⟩, { record with live := 1 }⟩,
        world.creditsOf place roleID vipMoney vipExp items)
  | none =>
      (⟨roleID, ⟨1, exp, money, items⟩, { record with live := 1 }⟩,
        world.creditsOf place roleID loot.money exp items)

/-- The places are read in the order of the records. -/
def rewardAll (roleLev licRoleVip : List UInt32) (loot : Loot) (places : List (List UInt32)) :
    Nat → List ArchvPKEndInfo → Option (List (PKEndInfo × List Credit))
  | _, [] => some []
  | place, record :: records =>
      (places[place]?).bind fun items =>
        (rewardAll roleLev licRoleVip loot places (place + 1) records).map
          (world.rewardShared roleLev licRoleVip loot place items record :: ·)

end RewardWorld

/-- A record of a role on the first side. -/
def ArchvPKEndInfo.isWinner (record : ArchvPKEndInfo) : Bool :=
  record.opposition = 1 && record.creatureFlag = 1

structure PKRewards where
  lpkei : List PKEndInfo
  dropped : List UInt32
  credits : List Credit
  deriving DecidableEq, Repr

/-- Monsters without a winner divide by zero. Behind the end of the array lies other memory. -/
def getItemFromPkEnd (world : RewardWorld) (roleIDs : List UInt32) (lei : List ArchvPKEndInfo)
    (monsters : List SenceMonster) : Option PKRewards :=
  let licRoleVip := roleIDs.filter fun roleID => world.isVip roleID
  let loot := world.lootOf roleIDs monsters
  let winners := lei.filter ArchvPKEndInfo.isWinner
  let finish (rewards : List (PKEndInfo × List Credit)) : PKRewards :=
    ⟨rewards.map Prod.fst, loot.items, killCredits roleIDs monsters ++ rewards.flatMap Prod.snd⟩
  if roleIDs = [] ∧ monsters ≠ [] then none
  else if roleIDs.length = 1 then
    some (finish ((winners.take 1).map (world.rewardSingle licRoleVip loot)))
  else
    (world.shareItems roleIDs.length loot.items loot.draws (List.replicate 5 [])).bind fun places =>
      (world.rewardAll roleIDs licRoleVip loot places 0 winners).map finish

end AppSvr.MainServer

/-
This file defines the statements into which the handlers of accounts and friends paste the strings
of their clients, and the order in which they build them.
-/

import AppSvr.ToMathlib.SqlText

namespace AppSvr.MainServer

open SqlText

def maxFriendNum : UInt32 := 40

/-- The result of a query comes with the fields of the first row. -/
structure QueryAnswer where
  iRet : Int
  getIntField : Nat → Int32
  getStringField : Nat → List UInt8

/-- The queries of one handler are answered in their order. `mapID` and `onlineID` are the answers
of the cache about a role. -/
structure Surroundings where
  query : Nat → QueryAnswer
  time : Int32
  mapID : UInt32 → UInt32
  onlineID : UInt32 → UInt32

def text (format : String) : Piece := .text (ascii format)

def tabs (count : Nat) : Piece := .text (List.replicate count 9)

namespace AccountSvcSS

/-- These numbers of the new role are printed into its row. -/
structure NewRole where
  level : Nat := 1
  exp : Nat := 0
  maxExp : Nat := 20
  camp : Nat := 1
  proID : Nat
  guildID : Nat := 0
  glory : Nat := 0
  addPoint : Nat := 0
  strength : Nat
  intelligence : Nat
  agility : Nat
  hp : Nat
  mp : Nat
  maxHp : Nat
  maxMp : Nat
  hpRegen : Nat := 10
  mpRegen : Nat := 10
  attackPowerHigh : Nat
  attackPowerLow : Nat
  attackScope : Nat
  attackSpeed : Nat
  bulletSpeed : Nat
  defence : Nat := 0
  mDefence : Nat := 0
  critRate : Nat := 0
  hitRate : Nat := 70
  crime : Nat := 0
  totalOnlineSec : Nat := 0
  moveSpeed : Nat

def setProAttr : UInt8 → Option NewRole
  | 1 => some
      { proID := 1, strength := 15, intelligence := 5, agility := 10, hp := 510, mp := 180,
        maxHp := 510, maxMp := 180, attackPowerHigh := 55, attackPowerLow := 40, attackScope := 3,
        attackSpeed := 21, bulletSpeed := 0, moveSpeed := 240 }
  | 2 => some
      { proID := 2, strength := 10, intelligence := 10, agility := 10, hp := 460, mp := 260,
        maxHp := 460, maxMp := 260, attackPowerHigh := 48, attackPowerLow := 42, attackScope := 3,
        attackSpeed := 20, bulletSpeed := 0, moveSpeed := 260 }
  | 3 => some
      { proID := 3, strength := 9, intelligence := 6, agility := 15, hp := 410, mp := 240,
        maxHp := 410, maxMp := 240, attackPowerHigh := 44, attackPowerLow := 36, attackScope := 18,
        attackSpeed := 19, bulletSpeed := 2, moveSpeed := 300 }
  | 4 => some
      { proID := 4, strength := 8, intelligence := 13, agility := 9, hp := 430, mp := 380,
        maxHp := 430, maxMp := 380, attackPowerHigh := 42, attackPowerLow := 32, attackScope := 15,
        attackSpeed := 20, bulletSpeed := 2, moveSpeed := 270 }
  | 5 => some
      { proID := 5, strength := 5, intelligence := 14, agility := 11, hp := 380, mp := 360,
        maxHp := 380, maxMp := 360, attackPowerHigh := 40, attackPowerLow := 32, attackScope := 15,
        attackSpeed := 21, bulletSpeed := 2, moveSpeed := 290 }
  | 6 => some
      { proID := 6, strength := 11, intelligence := 6, agility := 13, hp := 450, mp := 280,
        maxHp := 450, maxMp := 280, attackPowerHigh := 60, attackPowerLow := 42, attackScope := 12,
        attackSpeed := 19, bulletSpeed := 2, moveSpeed := 280 }
  | _ => none

end AccountSvcSS

open AccountSvcSS in
/-- A statement is built in `szSql` from a format and its arguments. -/
inductive StringStatement where
  | selectAccountID (accountName : List UInt8)
  | insertAccount (accountName passwd : List UInt8) (isAdult : UInt8) (time : Int32)
  | selectPassword (accountName : List UInt8)
  | updateSessionID (sessionID : Int32) (accountName : List UInt8)
  | selectAccount (accountName : List UInt8)
  | selectRoleName (inputRoleName : List UInt8)
  | insertRole (accountID : Int32) (roleName passwd : List UInt8) (role : NewRole)
  | selectFriendRole (friendName : List UInt8)
  | insertFriend (roleID friendRoleID : UInt32) (friendName : List UInt8)
      (friendType proID : UInt8)
  | selectAgreedRole (friendRoleName : List UInt8)
  | insertAgreedFriend (roleID friendRoleID : UInt32) (friendRoleName : List UInt8)
      (fType proID : UInt8)

def StringStatement.pieces : StringStatement → List Piece
  | selectAccountID accountName =>
      [ text "select AccountID ", tabs 9, text "from Account ", tabs 9,
        text "where AccountName = ", .literal accountName, text " " ]
  | insertAccount accountName passwd isAdult time =>
      [ text "insert into Account( AccountName, Password, IsAdult, SessionID ) ", tabs 11,
        text "values( ", .literal accountName, text ", ", .literal passwd, text ", ",
        .number isAdult.toNat, text ", ", .number time.toInt, text " ) " ]
  | selectPassword accountName =>
      [ text "select Password ", tabs 9, text "from Account ", tabs 9,
        text "where AccountName = ", .literal accountName, text " " ]
  | updateSessionID sessionID accountName =>
      [ text "update Account", tabs 11, text "set SessionID = ", .number sessionID.toInt, text " ",
        tabs 10, text "where AccountName = ", .literal accountName, text " " ]
  | selectAccount accountName =>
      [ text "select AccountID, Password ", tabs 9, text "from Account ", tabs 9,
        text "where AccountName = ", .literal accountName, text " " ]
  | selectRoleName inputRoleName =>
      [ text "select RoleName ", tabs 9, text "from Role ", tabs 9,
        text "where RoleName = ", .literal inputRoleName, text " " ]
  | insertRole accountID roleName passwd role =>
      [ text "insert into Role( RoleID, AccountID  ,RoleName, Password ,Level    ,Exp,MaxExp,Camp ",
        tabs 11, text ",ProID ,GuildID ,Glory ,AddPoint,Strength ,Intelligence   ,Agility ",
        tabs 11, text ",HP    ,MP   ,MaxHP, MaxMP, HPRegen, MPRegen ",
        tabs 11, text ",AttackPowerHigh, AttackPowerLow, AttackScope, AttackSpeed, BulletSpeed ",
        tabs 11, text ",Defence  ,MDefence ,CritRate , HitRate, Crime ",
        tabs 11, text ",TotalOnlineSec, MoveSpeed ) ",
        tabs 10, text "values( NULL, ", .number accountID.toInt, text ", ", .literal roleName,
        text ", ", .literal passwd, text ", ", .number role.level, text ", ", .number role.exp,
        text ", ", .number role.maxExp, text ", ", .number role.camp, text " ",
        tabs 11, text ",", .number role.proID, text " ,", .number role.guildID, text " ,",
        .number role.glory, text ", ", .number role.addPoint, text ", ", .number role.strength,
        text ", ", .number role.intelligence, text ", ", .number role.agility, text " ",
        tabs 11, text ",", .number role.hp, text ", ", .number role.mp, text ", ",
        .number role.maxHp, text ", ", .number role.maxMp, text ", ", .number role.hpRegen,
        text ", ", .number role.mpRegen, text " ",
        tabs 11, text ",", .number role.attackPowerHigh, text ", ", .number role.attackPowerLow,
        text ", ", .number role.attackScope, text ", ", .number role.attackSpeed, text ", ",
        .number role.bulletSpeed, text " ",
        tabs 11, text ",", .number role.defence, text ", ", .number role.mDefence, text ", ",
        .number role.critRate, text ", ", .number role.hitRate, text ", ", .number role.crime,
        text " ", tabs 11, text ",", .number role.totalOnlineSec, text ", ", .number role.moveSpeed,
        tabs 1, text " ) " ]
  | selectFriendRole friendName =>
      [ text "select RoleID,ProID from Role", tabs 10, text "where RoleName = ",
        .literal friendName, text ";" ]
  | insertFriend roleID friendRoleID friendName friendType proID =>
      [ text "insert into Friend(", tabs 2, text "  ", tabs 17, text "RoleID,", tabs 2, text "  ",
        tabs 17, text "FriendRoleID,", tabs 2, text "  ", tabs 17, text "FriendName,", tabs 2,
        text "  ", tabs 17, text "FriendType,", tabs 2, text "  ", tabs 17, text "ProID ", tabs 2,
        text "  ", tabs 17, text ")", tabs 2, text "  ", tabs 7, text "              value(",
        .number roleID.toInt32.toInt, text ",", .number friendRoleID.toInt32.toInt, text ",",
        .literal friendName, text ",", .number friendType.toNat, text ",", .number proID.toNat,
        text ");" ]
  | selectAgreedRole friendRoleName =>
      [ text "select RoleID,ProID from Role              where RoleName = ",
        .literal friendRoleName, text ";" ]
  | insertAgreedFriend roleID friendRoleID friendRoleName fType proID =>
      [ text "insert Friend(RoleID,FriendRoleID,FriendName,FriendType,ProID)    ", tabs 2,
        text "               value(", .number roleID.toInt32.toInt, text ",",
        .number friendRoleID.toInt32.toInt, text ",", .literal friendRoleName, text ",",
        .number fType.toNat, text ",", .number proID.toNat, text ");" ]

namespace AccountSvcSS

variable (surroundings : Surroundings)

/-- The account is inserted after a query that finds no account of this name. -/
def processAccountReg (accountName passwd : List UInt8) (isAdult : UInt8) : List StringStatement :=
  let accountName := accountName.take 64
  let passwd := passwd.take 64
  .selectAccountID accountName ::
    if (surroundings.query 0).iRet = 1 then
      [.insertAccount accountName passwd isAdult surroundings.time]
    else []

/-- `strncmp` compares at most 64 bytes in front of the first zero. -/
def samePasswd (inputPasswd passwd : List UInt8) : Prop :=
  (cString inputPasswd).take 64 = (cString passwd).take 64

instance (inputPasswd passwd : List UInt8) : Decidable (samePasswd inputPasswd passwd) :=
  inferInstanceAs (Decidable (_ = _))

def processAccountLogin (accountName inputPasswd : List UInt8) : List StringStatement :=
  let accountName := accountName.take 64
  let inputPasswd := inputPasswd.take 64
  let account := surroundings.query 0
  .selectPassword accountName ::
    if account.iRet = 1 ∨ account.iRet < 0 ∨ ¬ samePasswd inputPasswd (account.getStringField 0)
    then []
    else [.updateSessionID surroundings.time accountName]

/-- The handler counts the roles of the account before it looks for the name. -/
def processAddRole (accountName : List UInt8) (proID : UInt8)
    (inputRoleName : List UInt8) : List StringStatement :=
  let accountName := accountName.take 64
  let account := surroundings.query 0
  let roles := surroundings.query 1
  let named := surroundings.query 2
  .selectAccount accountName ::
    if account.iRet = 1 ∨ account.iRet < 0 then []
    else if roles.iRet = 1 ∨ roles.iRet < 0 then []
    else if (roles.getIntField 0).toUInt32 ≥ 5 then []
    else if inputRoleName.length > 20 then []
    else .selectRoleName inputRoleName ::
      if named.iRet = 0 ∨ named.iRet < 0 then []
      else match setProAttr proID with
        | none => []
        | some role =>
            [.insertRole (account.getIntField 0) inputRoleName (cString (account.getStringField 1))
              role]

end AccountSvcSS

namespace FriendSvc

/-- A role with a rank from one to six has room for more friends. -/
def friendLimit (isVip : UInt8) : UInt32 :=
  if isVip ≥ 1 ∧ isVip ≤ 6 then maxFriendNum + isVip.toUInt32 * 10 else maxFriendNum

/-- The second row of a new friendship carries a name from the database. -/
def processAddFriend (surroundings : Surroundings) (roleID : UInt32) (friendName : List UInt8)
    (friendType : UInt8) : List StringStatement :=
  let own := surroundings.query 0
  let friends := surroundings.query 1
  let friend := surroundings.query 2
  let friendRoleID := (friend.getIntField 0).toUInt32
  if friendType ≠ 1 ∧ friendType ≠ 2 ∧ friendType ≠ 3 then []
  else if own.iRet ≠ 0 then []
  else if friends.iRet < 0 then []
  else if (friends.getIntField 0).toUInt32 > friendLimit (own.getIntField 2).toUInt32.toUInt8
  then []
  else .selectFriendRole friendName ::
    if friend.iRet = 1 ∨ friend.iRet < 0 then []
    else if roleID = friendRoleID then []
    else if surroundings.mapID friendRoleID = 0 then []
    else if (friendType = 2 ∨ friendType = 3) ∧ (surroundings.query 3).iRet = 1 then
      [.insertFriend roleID friendRoleID friendName friendType
        (own.getIntField 1).toUInt32.toUInt8]
    else []

def processAgreeFriend (surroundings : Surroundings) (roleID : UInt32)
    (friendRoleName : List UInt8) : List StringStatement :=
  let friend := surroundings.query 0
  let own := surroundings.query 1
  let friends := surroundings.query 2
  let friendRoleID := (friend.getIntField 0).toUInt32
  .selectAgreedRole friendRoleName ::
    if friend.iRet < 0 ∨ friend.iRet = 1 then []
    else if own.iRet < 0 ∨ own.iRet = 1 then []
    else if friends.iRet < 0 then []
    else if (friends.getIntField 0).toUInt32 > 300 then []
    else if surroundings.onlineID friendRoleID = 0 then []
    else if (surroundings.query 3).iRet = 1 then
      [.insertAgreedFriend roleID friendRoleID friendRoleName 1
        (own.getIntField 1).toUInt32.toUInt8]
    else []

end FriendSvc

/-- A request is what the handler reads from its packet. -/
inductive StringRequest where
  | accountReg (accountName passwd : List UInt8) (isAdult : UInt8)
  | accountLogin (accountName inputPasswd : List UInt8)
  | addRole (accountName : List UInt8) (proID : UInt8) (inputRoleName : List UInt8)
  | addFriend (roleID : UInt32) (friendName : List UInt8) (friendType : UInt8)
  | agreeFriend (roleID : UInt32) (friendRoleName : List UInt8)
  deriving DecidableEq, Repr

/-- These statements are built from the strings of the request. -/
def StringRequest.statements (surroundings : Surroundings) : StringRequest → List StringStatement
  | accountReg accountName passwd isAdult =>
      AccountSvcSS.processAccountReg surroundings accountName passwd isAdult
  | accountLogin accountName inputPasswd =>
      AccountSvcSS.processAccountLogin surroundings accountName inputPasswd
  | addRole accountName proID inputRoleName =>
      AccountSvcSS.processAddRole surroundings accountName proID inputRoleName
  | addFriend roleID friendName friendType =>
      FriendSvc.processAddFriend surroundings roleID friendName friendType
  | agreeFriend roleID friendRoleName =>
      FriendSvc.processAgreeFriend surroundings roleID friendRoleName

/-- `szSql` has 1024 bytes, and the text ends with a zero. -/
def szSqlSize : Nat := 1024

end AppSvr.MainServer

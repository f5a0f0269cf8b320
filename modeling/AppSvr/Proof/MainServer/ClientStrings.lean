/-
This file proves which strings of clients stay data in the statements of the handlers.
-/

import AppSvr.Construction.MainServer.ClientStrings

namespace AppSvr.MainServer

open SqlText

def AccountSvcSS.NewRole.values (role : AccountSvcSS.NewRole) : List Int :=
  [ role.level, role.exp, role.maxExp, role.camp, role.proID, role.guildID, role.glory,
    role.addPoint, role.strength, role.intelligence, role.agility, role.hp, role.mp, role.maxHp,
    role.maxMp, role.hpRegen, role.mpRegen, role.attackPowerHigh, role.attackPowerLow,
    role.attackScope, role.attackSpeed, role.bulletSpeed, role.defence, role.mDefence,
    role.critRate, role.hitRate, role.crime, role.totalOnlineSec, role.moveSpeed ]

namespace StringStatement

/-- These numbers are printed with the sign of their bits. -/
def values : StringStatement → List Int
  | insertAccount _ _ isAdult time => [isAdult.toNat, time.toInt]
  | updateSessionID sessionID _ => [sessionID.toInt]
  | insertRole accountID _ _ role => accountID.toInt :: role.values
  | insertFriend roleID friendRoleID _ friendType proID =>
      [roleID.toInt32.toInt, friendRoleID.toInt32.toInt, friendType.toNat, proID.toNat]
  | insertAgreedFriend roleID friendRoleID _ fType proID =>
      [roleID.toInt32.toInt, friendRoleID.toInt32.toInt, fType.toNat, proID.toNat]
  | _ => []

def strings : StringStatement → List (List UInt8)
  | insertAccount accountName passwd _ _ => [accountName, passwd]
  | insertRole _ roleName passwd _ => [roleName, passwd]
  | selectAccountID name | selectPassword name | updateSessionID _ name | selectAccount name
  | selectRoleName name | selectFriendRole name | insertFriend _ _ name _ _ | selectAgreedRole name
  | insertAgreedFriend _ _ name _ _ => [name]

def formatBytes : StringStatement → Nat
  | selectAccountID _ => 71
  | insertAccount _ _ _ _ => 97
  | selectPassword _ => 70
  | updateSessionID _ _ => 75
  | selectAccount _ => 81
  | selectRoleName _ => 64
  | insertRole _ _ _ _ => 548
  | selectFriendRole _ => 59
  | insertFriend _ _ _ _ _ => 233
  | selectAgreedRole _ => 63
  | insertAgreedFriend _ _ _ _ _ => 97

variable (statement : StringStatement)

theorem numbers_pieces :
    numbers statement.pieces = statement.values := by
  cases statement <;> rfl

theorem literals_pieces :
    literals statement.pieces = statement.strings := by
  cases statement <;> rfl

/-- No format opens a literal or a comment outside of its strings. -/
theorem pieces_formed : Formed statement.pieces := by
  cases statement <;> simp only [pieces, text, tabs, Formed] <;> decide +kernel

theorem formatLength_pieces :
    formatLength statement.pieces = statement.formatBytes := by
  cases statement <;>
    simp only [pieces, text, tabs, formatLength_text, formatLength_number, formatLength_literal,
      formatBytes] <;> decide +kernel

end StringStatement

/-- The text is read as the statement with the strings as they are, and it fits into `szSql`. -/
def StringStatement.Intact (statement : StringStatement) : Prop :=
  lex .plain (print statement.pieces) = some (lexemes statement.pieces) ∧
    (print statement.pieces).length + 1 ≤ szSqlSize

instance (statement : StringStatement) : Decidable statement.Intact :=
  inferInstanceAs (Decidable (_ ∧ _))

def digits (value : Int) : Nat := (decimal value).length

namespace StringStatement

/-- Whole strings are printed as soon as they are verbatim. -/
theorem intact_iff (statement : StringStatement) :
    statement.Intact ↔ (∀ value ∈ statement.strings, Verbatim value) ∧
      statement.formatBytes + (statement.values.map digits).sum +
        (statement.strings.map List.length).sum < szSqlSize := by
  rw [Intact, lex_print_iff statement.pieces_formed, print_length, formatLength_pieces,
    numbers_pieces, literals_pieces]
  apply and_congr_right
  intro verbatim
  have whole : ∀ value ∈ statement.strings, (cString value).length = value.length := by
    intro value member
    rw [cString_of_notMem (verbatim value member).zero_notMem]
  rw [List.map_congr_left whole]
  rfl

variable {statement : StringStatement}

theorem single_intact_iff {value : List UInt8} (single : statement.strings = [value]) :
    statement.Intact ↔ Verbatim value ∧
      statement.formatBytes + (statement.values.map digits).sum + value.length < szSqlSize := by
  rw [intact_iff, single, List.forall_mem_singleton, List.map_singleton, List.sum_singleton]

theorem single_intact_of_room {value : List UInt8} (single : statement.strings = [value])
    (room : statement.formatBytes + (statement.values.map digits).sum + value.length < szSqlSize) :
    statement.Intact ↔ Verbatim value := by
  rw [single_intact_iff single, and_iff_left room]

theorem pair_intact_iff {first second : List UInt8} (pair : statement.strings = [first, second]) :
    statement.Intact ↔ (Verbatim first ∧ Verbatim second) ∧ statement.formatBytes +
      (statement.values.map digits).sum + (first.length + second.length) < szSqlSize := by
  rw [intact_iff, pair, List.forall_mem_cons, List.forall_mem_singleton, List.map_cons,
    List.sum_cons, List.map_singleton, List.sum_singleton]

end StringStatement

/-- The query returns a row. -/
def QueryAnswer.Found (answer : QueryAnswer) : Prop := ¬ (answer.iRet = 1 ∨ answer.iRet < 0)

section Handlers

variable (surroundings : Surroundings)

/-- The handler compares the name with the names of the other roles. -/
def LooksUpName (inputRoleName : List UInt8) : Prop :=
  (surroundings.query 0).Found ∧ (surroundings.query 1).Found ∧
    ((surroundings.query 1).getIntField 0).toUInt32 < 5 ∧ inputRoleName.length ≤ 20

def AddsRole (proID : UInt8) : Prop :=
  ¬ ((surroundings.query 2).iRet = 0 ∨ (surroundings.query 2).iRet < 0) ∧ 1 ≤ proID ∧ proID ≤ 6

/-- The answer to the first query keeps the password of the account. -/
def accountPasswd : List UInt8 := cString ((surroundings.query 0).getStringField 1)

/-- The role is looked up for a player with room for the friend. -/
def LooksUpFriend (friendType : UInt8) : Prop :=
  (friendType = 1 ∨ friendType = 2 ∨ friendType = 3) ∧ (surroundings.query 0).iRet = 0 ∧
    0 ≤ (surroundings.query 1).iRet ∧ ((surroundings.query 1).getIntField 0).toUInt32 ≤
      FriendSvc.friendLimit ((surroundings.query 0).getIntField 2).toUInt32.toUInt8

def friendOf (query : Nat) : UInt32 := ((surroundings.query query).getIntField 0).toUInt32

/-- Enemies and blocked roles become friends without their consent. -/
def InsertsFriend (roleID : UInt32) (friendType : UInt8) : Prop :=
  (surroundings.query 2).Found ∧ roleID ≠ friendOf surroundings 2 ∧
    surroundings.mapID (friendOf surroundings 2) ≠ 0 ∧ friendType ≠ 1 ∧
      (surroundings.query 3).iRet = 1

def InsertsAgreedFriend : Prop :=
  (surroundings.query 0).Found ∧ (surroundings.query 1).Found ∧
    0 ≤ (surroundings.query 2).iRet ∧ ((surroundings.query 2).getIntField 0).toUInt32 ≤ 300 ∧
      surroundings.onlineID (friendOf surroundings 0) ≠ 0 ∧ (surroundings.query 3).iRet = 1

/-- The strings need no escape, and the statements that paste them without a cut have room. -/
def StringRequest.Harmless : StringRequest → Prop
  | accountReg accountName passwd _ =>
      Verbatim (accountName.take 64) ∧
        ((surroundings.query 0).iRet = 1 → Verbatim (passwd.take 64))
  | accountLogin accountName _ => Verbatim (accountName.take 64)
  | addRole accountName proID inputRoleName =>
      Verbatim (accountName.take 64) ∧
        (LooksUpName surroundings inputRoleName → Verbatim inputRoleName ∧
          (AddsRole surroundings proID → Verbatim (accountPasswd surroundings) ∧
            digits ((surroundings.query 0).getIntField 0).toInt + inputRoleName.length +
              (accountPasswd surroundings).length ≤
                if proID = 2 ∨ proID = 5 ∨ proID = 6 then 426 else 427))
  | addFriend roleID friendName friendType =>
      LooksUpFriend surroundings friendType →
        Verbatim friendName ∧ friendName.length ≤ 964 ∧
          (InsertsFriend surroundings roleID friendType →
            digits roleID.toInt32.toInt + digits (friendOf surroundings 2).toInt32.toInt +
              digits ((surroundings.query 0).getIntField 1).toUInt32.toUInt8.toNat +
                friendName.length ≤ 789)
  | agreeFriend roleID friendRoleName =>
      Verbatim friendRoleName ∧ friendRoleName.length ≤ 960 ∧
        (InsertsAgreedFriend surroundings →
          digits roleID.toInt32.toInt + digits (friendOf surroundings 0).toInt32.toInt +
            digits ((surroundings.query 1).getIntField 1).toUInt32.toUInt8.toNat +
              friendRoleName.length ≤ 925)

end Handlers

section Handlers

variable {surroundings : Surroundings} {accountName passwd inputPasswd inputRoleName : List UInt8}
  {friendName : List UInt8} {isAdult proID friendType : UInt8} {roleID : UInt32}

/-- A check that refuses sends no statement. -/
theorem forall_mem_check {refused : Prop} [Decidable refused] {holds : StringStatement → Prop}
    {statements : List StringStatement} :
    (∀ statement ∈ if refused then [] else statements, holds statement) ↔
      (¬ refused → ∀ statement ∈ statements, holds statement) := by
  split
  case isTrue refuses =>
    exact iff_of_true (List.forall_mem_nil _) fun admits => absurd refuses admits
  case isFalse admits => rw [imp_iff_right admits]

theorem digits_byte_le (value : UInt8) : digits value.toNat ≤ 3 :=
  decimal_length_le (by decide) (by have := value.toNat_lt; omega)

theorem insertAccount_intact {time : Int32} (name : accountName.length ≤ 64)
    (cut : passwd.length ≤ 64) :
    (StringStatement.insertAccount accountName passwd isAdult time).Intact ↔
      Verbatim accountName ∧ Verbatim passwd := by
  have adult := digits_byte_le isAdult
  have clock : digits time.toInt ≤ 11 := decimal_int32_length_le time
  rw [StringStatement.pair_intact_iff rfl]
  apply and_iff_left
  simp only [StringStatement.formatBytes, StringStatement.values, List.map_cons, List.map_nil,
    List.sum_cons, List.sum_nil, szSqlSize]
  omega

/-- Both strings of the account are cut before they are printed, so that they have room. -/
theorem processAccountReg_intact :
    (∀ statement ∈ AccountSvcSS.processAccountReg surroundings accountName passwd isAdult,
      statement.Intact) ↔ (StringRequest.accountReg accountName passwd isAdult).Harmless
        surroundings := by
  have nameLength := List.length_take_le 64 accountName
  have selected : (StringStatement.selectAccountID (accountName.take 64)).Intact ↔
      Verbatim (accountName.take 64) := by
    apply StringStatement.single_intact_of_room rfl
    change 71 + 0 + (accountName.take 64).length < 1024
    omega
  rw [AccountSvcSS.processAccountReg, List.forall_mem_cons, selected, StringRequest.Harmless]
  split_ifs with fresh
  · rw [List.forall_mem_singleton,
      insertAccount_intact nameLength (List.length_take_le 64 passwd)]
    rw [imp_iff_right fresh, ← and_assoc, and_self]
  · simp [fresh]

theorem processAccountLogin_intact :
    (∀ statement ∈ AccountSvcSS.processAccountLogin surroundings accountName inputPasswd,
      statement.Intact) ↔ (StringRequest.accountLogin accountName inputPasswd).Harmless
        surroundings := by
  have nameLength := List.length_take_le 64 accountName
  have time : digits surroundings.time.toInt ≤ 11 := decimal_int32_length_le surroundings.time
  have selected : (StringStatement.selectPassword (accountName.take 64)).Intact ↔
      Verbatim (accountName.take 64) := by
    apply StringStatement.single_intact_of_room rfl
    change 70 + 0 + (accountName.take 64).length < 1024
    omega
  have updated : (StringStatement.updateSessionID surroundings.time
      (accountName.take 64)).Intact ↔ Verbatim (accountName.take 64) := by
    apply StringStatement.single_intact_of_room rfl
    change 75 + (digits surroundings.time.toInt + 0) + (accountName.take 64).length < 1024
    omega
  rw [AccountSvcSS.processAccountLogin, List.forall_mem_cons, selected, StringRequest.Harmless]
  split_ifs
  · simp
  · rw [List.forall_mem_singleton, updated, and_self]

theorem setProAttr_eq_none (out : ¬ (1 ≤ proID ∧ proID ≤ 6)) :
    AccountSvcSS.setProAttr proID = none := by
  unfold AccountSvcSS.setProAttr
  split <;> first | rfl | exact absurd (by decide) out

theorem setProAttr_eq_some (range : 1 ≤ proID ∧ proID ≤ 6) :
    ∃ role, AccountSvcSS.setProAttr proID = some role ∧
      (role.values.map digits).sum = if proID = 2 ∨ proID = 5 ∨ proID = 6 then 49 else 48 := by
  have professions : proID = 1 ∨ proID = 2 ∨ proID = 3 ∨ proID = 4 ∨ proID = 5 ∨ proID = 6 := by
    simp only [← UInt8.toNat_inj, UInt8.le_iff_toNat_le] at range ⊢
    have one : (1 : UInt8).toNat = 1 := rfl
    have six : (6 : UInt8).toNat = 6 := rfl
    change proID.toNat = 1 ∨ proID.toNat = 2 ∨ proID.toNat = 3 ∨ proID.toNat = 4 ∨
      proID.toNat = 5 ∨ proID.toNat = 6
    omega
  rcases professions with rfl | rfl | rfl | rfl | rfl | rfl <;> exact ⟨_, rfl, by decide +kernel⟩

theorem insertRole_intact {accountID : Int32} {role : AccountSvcSS.NewRole} {total : Nat}
    (sum : (role.values.map digits).sum = total) :
    (StringStatement.insertRole accountID inputRoleName passwd role).Intact ↔
      Verbatim inputRoleName ∧ Verbatim passwd ∧
        digits accountID.toInt + inputRoleName.length + passwd.length + total ≤ 475 := by
  rw [StringStatement.pair_intact_iff rfl, and_assoc]
  simp only [StringStatement.formatBytes, StringStatement.values, List.map_cons, List.sum_cons,
    sum, szSqlSize]
  apply and_congr_right
  intro _
  apply and_congr_right
  intro _
  omega

/-- Only the row of the new role may lack room, since it repeats the stored password. -/
theorem processAddRole_intact :
    (∀ statement ∈ AccountSvcSS.processAddRole surroundings accountName proID inputRoleName,
      statement.Intact) ↔ (StringRequest.addRole accountName proID inputRoleName).Harmless
        surroundings := by
  have nameLength := List.length_take_le 64 accountName
  have selected : (StringStatement.selectAccount (accountName.take 64)).Intact ↔
      Verbatim (accountName.take 64) := by
    apply StringStatement.single_intact_of_room rfl
    change 81 + 0 + (accountName.take 64).length < 1024
    omega
  rw [AccountSvcSS.processAddRole, List.forall_mem_cons, selected, StringRequest.Harmless]
  apply and_congr_right
  intro _
  by_cases looksUp : LooksUpName surroundings inputRoleName
  · obtain ⟨account, roles, room, short⟩ := looksUp
    have compared : (StringStatement.selectRoleName inputRoleName).Intact ↔
        Verbatim inputRoleName := by
      apply StringStatement.single_intact_of_room rfl
      change 64 + 0 + inputRoleName.length < 1024
      omega
    rw [if_neg account, if_neg roles, if_neg (by simpa using room), if_neg (by omega),
      List.forall_mem_cons, compared, imp_iff_right ⟨account, roles, room, short⟩]
    apply and_congr_right
    intro _
    by_cases adds : AddsRole surroundings proID
    · obtain ⟨role, attributes, total⟩ := setProAttr_eq_some adds.2
      rw [if_neg adds.1, imp_iff_right adds, attributes, List.forall_mem_singleton,
        insertRole_intact total, accountPasswd]
      split_ifs <;> exact ⟨fun intact => ⟨intact.2.1, by omega⟩, fun fits => ⟨‹_›, fits.1, by omega⟩⟩
    · simp only [adds, false_imp_iff, iff_true, forall_mem_check]
      intro fresh
      rw [setProAttr_eq_none fun known => adds ⟨fresh, known⟩]
      exact List.forall_mem_nil _
  · simp only [looksUp, false_imp_iff, iff_true, forall_mem_check]
    intro account roles room short
    exact absurd ⟨account, roles, by simpa using room, by omega⟩ looksUp

theorem insertFriend_intact {friendRoleID : UInt32} (kind : friendType = 2 ∨ friendType = 3) :
    (StringStatement.insertFriend roleID friendRoleID friendName friendType proID).Intact ↔
      Verbatim friendName ∧ digits roleID.toInt32.toInt + digits friendRoleID.toInt32.toInt +
        digits proID.toNat + friendName.length ≤ 789 := by
  have single : digits friendType.toNat = 1 := by
    rcases kind with rfl | rfl <;> decide +kernel
  rw [StringStatement.single_intact_iff rfl]
  simp only [StringStatement.formatBytes, StringStatement.values, List.map_cons, List.map_nil,
    List.sum_cons, List.sum_nil, single, szSqlSize]
  apply and_congr_right
  intro _
  omega

theorem insertAgreedFriend_intact {friendRoleID : UInt32} :
    (StringStatement.insertAgreedFriend roleID friendRoleID friendName 1 proID).Intact ↔
      Verbatim friendName ∧ digits roleID.toInt32.toInt + digits friendRoleID.toInt32.toInt +
        digits proID.toNat + friendName.length ≤ 925 := by
  have single : digits (1 : UInt8).toNat = 1 := by decide +kernel
  rw [StringStatement.single_intact_iff rfl]
  simp only [StringStatement.formatBytes, StringStatement.values, List.map_cons, List.map_nil,
    List.sum_cons, List.sum_nil, single, szSqlSize]
  apply and_congr_right
  intro _
  omega

theorem known_type_iff : ¬ (friendType ≠ 1 ∧ friendType ≠ 2 ∧ friendType ≠ 3) ↔
    friendType = 1 ∨ friendType = 2 ∨ friendType = 3 := by
  rw [not_and_or, not_and_or, not_not, not_not, not_not]

/-- The name of a friend is never cut. -/
theorem processAddFriend_intact :
    (∀ statement ∈ FriendSvc.processAddFriend surroundings roleID friendName friendType,
      statement.Intact) ↔ (StringRequest.addFriend roleID friendName friendType).Harmless
        surroundings := by
  have selected : (StringStatement.selectFriendRole friendName).Intact ↔
      Verbatim friendName ∧ friendName.length ≤ 964 := by
    rw [StringStatement.single_intact_iff rfl]
    simp only [StringStatement.formatBytes, StringStatement.values, List.map_nil, List.sum_nil,
      szSqlSize]
    apply and_congr_right
    intro _
    omega
  rw [FriendSvc.processAddFriend, StringRequest.Harmless]
  by_cases looksUp : LooksUpFriend surroundings friendType
  · obtain ⟨kind, own, friends, room⟩ := looksUp
    rw [imp_iff_right ⟨kind, own, friends, room⟩, if_neg (known_type_iff.mpr kind),
      if_neg (not_not_intro own), if_neg (Int.not_lt.mpr friends), if_neg (UInt32.not_lt.mpr room),
      List.forall_mem_cons, selected, and_assoc]
    apply and_congr_right
    intro verbatim
    apply and_congr_right
    intro _
    by_cases inserts : InsertsFriend surroundings roleID friendType
    · rw [imp_iff_right inserts]
      obtain ⟨found, other, online, enemy, unknown⟩ := inserts
      rw [friendOf] at other online ⊢
      have kind := kind.resolve_left enemy
      rw [if_neg found, if_neg other, if_neg online, if_pos ⟨kind, unknown⟩,
        List.forall_mem_singleton, insertFriend_intact kind, and_iff_right verbatim]
    · simp only [inserts, false_imp_iff, iff_true, forall_mem_check]
      intro found own online
      split
      case isFalse => exact List.forall_mem_nil _
      case isTrue added =>
        refine absurd ⟨found, own, online, ?_, added.2⟩ inserts
        obtain rfl | rfl := added.1 <;> decide
  · simp only [looksUp, false_imp_iff, iff_true, forall_mem_check]
    intro kind own friends room
    exact absurd ⟨known_type_iff.mp kind, not_not.mp own, Int.not_lt.mp friends,
      UInt32.not_lt.mp room⟩ looksUp

theorem processAgreeFriend_intact :
    (∀ statement ∈ FriendSvc.processAgreeFriend surroundings roleID friendName,
      statement.Intact) ↔ (StringRequest.agreeFriend roleID friendName).Harmless surroundings := by
  have selected : (StringStatement.selectAgreedRole friendName).Intact ↔
      Verbatim friendName ∧ friendName.length ≤ 960 := by
    rw [StringStatement.single_intact_iff rfl]
    simp only [StringStatement.formatBytes, StringStatement.values, List.map_nil, List.sum_nil,
      szSqlSize]
    apply and_congr_right
    intro _
    omega
  rw [FriendSvc.processAgreeFriend, StringRequest.Harmless, List.forall_mem_cons, selected,
    and_assoc]
  apply and_congr_right
  intro verbatim
  apply and_congr_right
  intro _
  by_cases inserts : InsertsAgreedFriend surroundings
  · rw [imp_iff_right inserts]
    obtain ⟨found, own, friends, room, online, unknown⟩ := inserts
    rw [QueryAnswer.Found, or_comm] at found own
    rw [friendOf] at online ⊢
    rw [if_neg found, if_neg own, if_neg (Int.not_lt.mpr friends), if_neg (UInt32.not_lt.mpr room),
      if_neg online, if_pos unknown, List.forall_mem_singleton, insertAgreedFriend_intact,
      and_iff_right verbatim]
  · simp only [inserts, false_imp_iff, iff_true, forall_mem_check]
    intro found own friends room online
    split
    case isFalse => exact List.forall_mem_nil _
    case isTrue unknown =>
      rw [or_comm] at found own
      exact absurd ⟨found, own, Int.not_lt.mp friends, UInt32.not_lt.mp room, online, unknown⟩
        inserts

/-- The strings stay data exactly when they need no escape and have room. -/
theorem StringRequest.statements_intact_iff (surroundings : Surroundings)
    (request : StringRequest) :
    (∀ statement ∈ request.statements surroundings, statement.Intact) ↔
      request.Harmless surroundings := by
  cases request with
  | accountReg => exact processAccountReg_intact
  | accountLogin => exact processAccountLogin_intact
  | addRole => exact processAddRole_intact
  | addFriend => exact processAddFriend_intact
  | agreeFriend => exact processAgreeFriend_intact

/-- The database knows no account and no role. -/
def emptyDatabase : Surroundings where
  query _ := { iRet := 1, getIntField := fun _ => 0, getStringField := fun _ => [] }
  time := 0
  mapID _ := 0
  onlineID _ := 0

/-- A quote in the name of an account changes the statement, and a long name of a friend leaves
the buffer. -/
theorem StringRequest.statements_not_intact :
    (¬ ∀ statement ∈ (StringRequest.accountReg (ascii "a' or '1'='1") (ascii "x") 0).statements
      emptyDatabase, statement.Intact) ∧
    ¬ ∀ statement ∈ (StringRequest.agreeFriend 1 (List.replicate 1000 97)).statements
      emptyDatabase, statement.Intact := by
  constructor
  · intro intact
    have selected := intact _ List.mem_cons_self
    exact absurd selected (by decide +kernel)
  · intro intact
    have selected := intact _ List.mem_cons_self
    exact absurd selected (by decide +kernel)

end Handlers

end AppSvr.MainServer

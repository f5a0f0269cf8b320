import AppSvr.Proof.BaseCommon.IniLines
import AppSvr.Proof.BaseDB.ResultCursor
import AppSvr.Proof.BaseServer.BroadcastCopies
import AppSvr.Proof.BaseServer.BufferBounds
import AppSvr.Proof.BaseServer.PollBounds
import AppSvr.Proof.BaseServer.Replies
import AppSvr.Proof.BaseServer.TimerAccuracy
import AppSvr.Proof.BaseServer.Transmission
import AppSvr.Proof.Gateway.ConnectionTable
import AppSvr.Proof.Gateway.IpCount
import AppSvr.Proof.Gateway.LoginNoninterference
import AppSvr.Proof.Gateway.RoleRouting
import AppSvr.Proof.Gateway.Stream
import AppSvr.Proof.MainServer.BagSorting
import AppSvr.Proof.MainServer.BattleReleases
import AppSvr.Proof.MainServer.BoundItems
import AppSvr.Proof.MainServer.CellExchange
import AppSvr.Proof.MainServer.CellPurchases
import AppSvr.Proof.MainServer.ClientStrings
import AppSvr.Proof.MainServer.ContainerUse
import AppSvr.Proof.MainServer.DelegatedTasks
import AppSvr.Proof.MainServer.HeldItems
import AppSvr.Proof.MainServer.LimitedStock
import AppSvr.Proof.MainServer.MailFaults
import AppSvr.Proof.MainServer.MailPayments
import AppSvr.Proof.MainServer.MapNotices
import AppSvr.Proof.MainServer.MutualFriends
import AppSvr.Proof.MainServer.PetEquipment
import AppSvr.Proof.MainServer.PetExps
import AppSvr.Proof.MainServer.PlaytimeLimit
import AppSvr.Proof.MainServer.Runes
import AppSvr.Proof.MainServer.ShopPayments
import AppSvr.Proof.MainServer.SkillPoints
import AppSvr.Proof.MainServer.StackSizes
import AppSvr.Proof.MainServer.StartCells
import AppSvr.Proof.MainServer.StatementBuffers
import AppSvr.Proof.MainServer.TaskGoals
import AppSvr.Proof.MainServer.TeamMembership
import AppSvr.Proof.MainServer.TradeConsent
import AppSvr.Proof.MainServer.TradeSettlement
import AppSvr.Proof.MainServer.TrainingDeposit
import AppSvr.Proof.MainServer.TrainingForecast
import AppSvr.Proof.PkServer.BattleTable
import AppSvr.Proof.PkServer.BuffIterations
import AppSvr.Proof.PkServer.BulletFlights
import AppSvr.Proof.PkServer.Displacement
import AppSvr.Proof.PkServer.EmptyPos
import AppSvr.Proof.PkServer.EndReports
import AppSvr.Proof.PkServer.LineEnds
import AppSvr.Proof.PkServer.MonsterTargets
import AppSvr.Proof.PkServer.PacketSizes
import AppSvr.Proof.PkServer.PaidCasts
import AppSvr.Proof.PkServer.SubCellSteps
import AppSvr.Proof.PkServer.WholeMessages

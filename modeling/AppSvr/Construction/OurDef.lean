/-
This file states the shared constants of `OurDef.h`.
-/

import Mathlib.Init

namespace AppSvr

/-- The socket buffer holds this many bytes. -/
def maxSockBuff : Nat := 65535

/-- The close thread keeps a marked connection for this many seconds. -/
def gwConnCloseInternal : Int := 1

/-- A connection comes from the inside or the outside listener. -/
inductive TcpStream where
  | inside
  | outside
  deriving DecidableEq, Repr

/-- The server type of the main server. -/
def svrTypeMain : UInt8 := 1

/-- The sequence number of the main server. -/
def svrSeqMain : UInt8 := 1

/-- A server registers at the gateway with this message. -/
def msgTypeGwSvrConnect : UInt16 := 101

/-- A server closes a client connection with this message. -/
def msgTypeGwCloseClient : UInt16 := 102

/-- A client logs its role in with this message. -/
def msgTypeCsRoleLogin : UInt16 := 101

/-- The gateway reports a closed client with this message. -/
def msgTypeCsRoleLogout : UInt16 := 104

def directCSReq : UInt8 := 1
def directCSResp : UInt8 := 2
def directSCReq : UInt8 := 3
def directSCResp : UInt8 := 4
def directSSReq : UInt8 := 5
def directSSResp : UInt8 := 6

def errSystemSvrNotStart : UInt32 := 4
def errSystemSerError : UInt32 := 7
def errSystemSvrLogined : UInt32 := 8
def errSystemSvrAccess : UInt32 := 9
def errSystemRoleNotLogin : UInt32 := 10
def errSystemDbError : UInt32 := 5
def errSystemDbNoRecord : UInt32 := 6
def errAppRoleNotExists : UInt32 := 1001
def errAppOp : UInt32 := 1003
def errAppData : UInt32 := 1004
def bindItem : UInt32 := 1399

end AppSvr

import RgbNodeApi.WalletCmd
import RgbNodeApi.Lib.Actor

/-!
# The handle to the wallet thread

`WalletCtx` and its methods, as programs that read the clock and send commands.
A method waits for the reply of its command; a closed reply channel is an error
of its own.
-/
namespace RgbNodeApi

open Actor

/-- A command with the id it is sent under. -/
structure Request (D : Deps) where
  ido : Option String
  T : Option Payload
  cmd : WalletCmd D T

abbrev Async (D : Deps) := Program (Request D) (fun r => Answer D r.T) SystemTime

structure WalletCtx where
  id : Option String
  deriving DecidableEq, Repr

namespace WalletCtx

variable {D : Deps}

def new : WalletCtx := ⟨none⟩

def sendCmd (ctx : WalletCtx) {p : Payload} (cmd : WalletCmd D (some p)) :
    Async D (RResult (p.T D)) :=
  .ask ⟨ctx.id, some p, cmd⟩ fun
    | some res => .ret res
    | none => .ret (.error errDeadThread)

def withOptId (_ctx : WalletCtx) (id : Option String) : WalletCtx := ⟨id⟩

def withId (_ctx : WalletCtx) (id : String) : WalletCtx := ⟨some id⟩

def forRoWallet (ctx : WalletCtx) (xpubColored xpubVanilla masterFingerprint : String) :
    Async D (RResult WalletCtx) := do
  let res ← ctx.sendCmd (.addReadOnlyWallet xpubColored xpubVanilla masterFingerprint)
  match res with
  | .error err => pure (.error err)
  | .ok _ => pure (.ok (ctx.withId masterFingerprint))

def walletInfo (ctx : WalletCtx) : Async D (RResult Info) := ctx.sendCmd .walletInfo

def backup (ctx : WalletCtx) (password : String) : Async D (RResult (BackupPath Files.Path)) :=
  ctx.sendCmd (.backup password)

def address (ctx : WalletCtx) : Async D (RResult AddressRes) := ctx.sendCmd .address

def transfers (ctx : WalletCtx) : Async D (RResult (List D.Transfer)) := ctx.sendCmd .transfers

def transferByRecipientId (ctx : WalletCtx) (recipientId : String) :
    Async D (RResult (Option D.Transfer)) :=
  ctx.sendCmd (.transfersByRecipient recipientId)

def transfersByAsset (ctx : WalletCtx) (assetId : String) : Async D (RResult (List D.Transfer)) :=
  ctx.sendCmd (.transfersByAsset assetId)

def transactions (ctx : WalletCtx) : Async D (RResult (List D.Transaction)) :=
  ctx.sendCmd .transactions

def listUnspends (ctx : WalletCtx) : Async D (RResult (List D.Unspent)) :=
  ctx.sendCmd .listUnspends

def assets (ctx : WalletCtx) : Async D (RResult D.Assets) := ctx.sendCmd .assets

def assetInfo (ctx : WalletCtx) (assetId : String) : Async D (RResult D.Metadata) :=
  ctx.sendCmd (.assetInfo assetId)

def balanceBtc (ctx : WalletCtx) : Async D (RResult D.BtcBalance) := ctx.sendCmd .btcBalance

def balanceToken (ctx : WalletCtx) (assetId : String) : Async D (RResult D.Balance) :=
  ctx.sendCmd (.tokenBalance assetId)

def receiveToken (ctx : WalletCtx) (kind : ReceiveKind) (req : ReceiveReq) :
    Async D (RResult D.ReceiveData) :=
  ctx.sendCmd (.receive kind req)

def issueNiaToken (ctx : WalletCtx) (req : IssueNiaReq) : Async D (RResult D.AssetNIA) :=
  ctx.sendCmd (.issueNiaToken req)

def issueIfaToken (ctx : WalletCtx) (req : IssueIfaReq) : Async D (RResult D.AssetIFA) :=
  ctx.sendCmd (.issueIfaToken req)

def inflateBegin (ctx : WalletCtx) (req : InflateBeginReq) : Async D (RResult String) :=
  ctx.sendCmd (.inflateBegin req)

def inflateEnd (ctx : WalletCtx) (signedPsbt : String) : Async D (RResult OperationResult) :=
  ctx.sendCmd (.inflateEnd signedPsbt)

def createUtxoBegin (ctx : WalletCtx) (req : CreateUtxoBeginReq) : Async D (RResult String) :=
  ctx.sendCmd (.createUtxoBegin req)

def createUtxoEnd (ctx : WalletCtx) (signedPsbt : String) : Async D (RResult Nat) :=
  ctx.sendCmd (.createUtxoEnd signedPsbt)

def failTransfer (ctx : WalletCtx) (batchTransferIdx : Option Int) (noAssetOnly skipSync : Bool) :
    Async D (RResult Bool) :=
  ctx.sendCmd (.failTransfer batchTransferIdx noAssetOnly skipSync)

def sendBtcBegin (ctx : WalletCtx) (req : SendBtcReq) : Async D (RResult String) :=
  ctx.sendCmd (.sendBtcBegin req)

def sendBtcEnd (ctx : WalletCtx) (signedPsbt : String) : Async D (RResult String) :=
  ctx.sendCmd (.sendBtcEnd signedPsbt)

/-- The deadline is checked before the command is sent, and again by its handler. -/
def sendBegin (ctx : WalletCtx) (req : SendBeginReq D.WitnessData D.Encryption) :
    Async D (RResult String) :=
  .clock fun now =>
    match req.expiration now with
    | .error err => .ret (.error err)
    | .ok _ => ctx.sendCmd (.sendBegin req)

def burnBegin (ctx : WalletCtx) (req : BurnBeginReq) : Async D (RResult String) :=
  ctx.sendCmd (.burnBegin req)

def burnEnd (ctx : WalletCtx) (signedPsbt : String) : Async D (RResult OperationResult) :=
  ctx.sendCmd (.burnEnd signedPsbt)

def getConsignment (ctx : WalletCtx) (req : GetConsignmentReq) :
    Async D (RResult GetConsignmentRes) :=
  ctx.sendCmd (.getConsignment req)

def sendEnd (ctx : WalletCtx) (signedPsbt : String) : Async D (RResult OperationResult) :=
  ctx.sendCmd (.sendEnd signedPsbt)

def refreshWallet (ctx : WalletCtx) : Async D (RResult Unit) := ctx.sendCmd .refreshWallet

def dropWallet (ctx : WalletCtx) : Async D (RResult Unit) := ctx.sendCmd .dropWallet

def stop (ctx : WalletCtx) : Async D (RResult Unit) := ctx.sendCmd .stop

end WalletCtx

end RgbNodeApi

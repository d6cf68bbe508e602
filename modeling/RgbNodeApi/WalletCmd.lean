import RgbNodeApi.State
import RgbNodeApi.ApiErrors

/-!
# Wallet commands and their handling

A command is indexed by the kind of value its reply channel carries; `Refresh`
is the only one without a channel. `handleWalletCmd` returns what is sent on the
channel, or `none` when the channel is dropped without a reply.
-/
namespace RgbNodeApi

open Files RgbWalletState

/-- What a reply channel carries besides errors. -/
inductive Payload where
  | unit | info | backupPath | addressRes | assets | transfers | bool | transferOpt
  | transactions | unspents | metadata | btcBalance | balance | receiveData | assetNIA
  | assetIFA | string | operationResult | usize | getConsignmentRes
  deriving DecidableEq, Repr

def Payload.T (D : Deps) : Payload → Type
  | .unit => Unit
  | .info => Info
  | .backupPath => BackupPath Path
  | .addressRes => AddressRes
  | .assets => D.Assets
  | .transfers => List D.Transfer
  | .bool => Bool
  | .transferOpt => Option D.Transfer
  | .transactions => List D.Transaction
  | .unspents => List D.Unspent
  | .metadata => D.Metadata
  | .btcBalance => D.BtcBalance
  | .balance => D.Balance
  | .receiveData => D.ReceiveData
  | .assetNIA => D.AssetNIA
  | .assetIFA => D.AssetIFA
  | .string => String
  | .operationResult => OperationResult
  | .usize => Nat
  | .getConsignmentRes => GetConsignmentRes

/-- What can be sent on the reply channel of a command. -/
def Answer (D : Deps) : Option Payload → Type
  | none => Empty
  | some p => RResult (p.T D)

inductive WalletCmd (D : Deps) : Option Payload → Type
  | refresh : WalletCmd D none
  | refreshWallet : WalletCmd D (some .unit)
  | dropWallet : WalletCmd D (some .unit)
  | stop : WalletCmd D (some .unit)
  | walletInfo : WalletCmd D (some .info)
  | backup (password : String) : WalletCmd D (some .backupPath)
  | address : WalletCmd D (some .addressRes)
  | assets : WalletCmd D (some .assets)
  | transfers : WalletCmd D (some .transfers)
  | failTransfer (batchTransferIdx : Option Int) (noAssetOnly skipSync : Bool) :
      WalletCmd D (some .bool)
  | transfersByAsset (assetId : String) : WalletCmd D (some .transfers)
  | transfersByRecipient (recipientId : String) : WalletCmd D (some .transferOpt)
  | transactions : WalletCmd D (some .transactions)
  | listUnspends : WalletCmd D (some .unspents)
  | assetInfo (assetId : String) : WalletCmd D (some .metadata)
  | btcBalance : WalletCmd D (some .btcBalance)
  | tokenBalance (assetId : String) : WalletCmd D (some .balance)
  | receive (kind : ReceiveKind) (req : ReceiveReq) : WalletCmd D (some .receiveData)
  | issueNiaToken (req : IssueNiaReq) : WalletCmd D (some .assetNIA)
  | issueIfaToken (req : IssueIfaReq) : WalletCmd D (some .assetIFA)
  | inflateBegin (req : InflateBeginReq) : WalletCmd D (some .string)
  | inflateEnd (psbt : String) : WalletCmd D (some .operationResult)
  | createUtxoBegin (req : CreateUtxoBeginReq) : WalletCmd D (some .string)
  | createUtxoEnd (psbt : String) : WalletCmd D (some .usize)
  | sendBegin (req : SendBeginReq D.WitnessData D.Encryption) : WalletCmd D (some .string)
  | sendEnd (psbt : String) : WalletCmd D (some .operationResult)
  | burnBegin (req : BurnBeginReq) : WalletCmd D (some .string)
  | burnEnd (psbt : String) : WalletCmd D (some .operationResult)
  | getConsignment (req : GetConsignmentReq) : WalletCmd D (some .getConsignmentRes)
  | sendBtcBegin (req : SendBtcReq) : WalletCmd D (some .string)
  | sendBtcEnd (psbt : String) : WalletCmd D (some .string)
  | addReadOnlyWallet (xpubColored xpubVanilla masterFingerprint : String) :
      WalletCmd D (some .bool)

variable {D : Deps}

/-- The commands that the loop hands to the wallet they are addressed to. -/
def WalletCmd.isRouted : {T : Option Payload} → WalletCmd D T → Bool
  | _, .refresh | _, .dropWallet | _, .stop | _, .walletInfo | _, .addReadOnlyWallet .. => false
  | _, _ => true

/-- Send the result of a computation: the value of an `Ok` goes through `f`. -/
def respond {α : Type} {p : Payload} (m : WalletM D (RResult α)) (f : α → p.T D) :
    WalletM D (Option (Answer D (some p))) := do
  let r ← m
  pure (some (r.map f))

/-- The file a wallet is backed up to. -/
def backupFilename (id : String) : String := "rgb-wallet." ++ id ++ ".rgb-lib_backup"

/-- A consignment lookup, with the files that it reads. -/
structure Lookup where
  res : RResult GetConsignmentRes
  reads : List Path

/-- The closure of the `GetConsignment` arm. -/
def lookupConsignment (req : GetConsignmentReq) (w : D.Wallet) (fs : Fs) : Lookup :=
  match req.validateTxid with
  | .error err => ⟨.error err, []⟩
  | .ok () =>
  match D.getAssetMetadata w req.assetId with
  | .error err => ⟨.error err, []⟩
  | .ok _ =>
    let path := D.getSendConsignmentPath w req.assetId req.txid
    match read fs path with
    | .ok bytes => ⟨.ok ⟨D.hexEncode bytes⟩, [path]⟩
    | .error e =>
      if e.kind = .notFound then ⟨.error .noConsignment, [path]⟩
      else ⟨.error (D.ofIoError e), [path]⟩

/-- The `SendBegin` arm: a rejected deadline is answered before the wallet is locked. -/
def handleSendBegin (env : Env D) (req : SendBeginReq D.WitnessData D.Encryption) :
    WalletM D (Option (Answer D (some .string))) :=
  match req.expiration env.now with
  | .error err => pure (some (.error err))
  | .ok expirationTimestamp =>
    let recipientMap := req.recipientMap.entries.map fun e =>
      (e.1, e.2.map SendRecipient.toRecipient)
    respond (call env fun w => .sendBegin w.walletOnline recipientMap req.donation req.feeRate
      req.minConfirmations expirationTimestamp w.senderProxy false) BeginResult.psbt

def handleWalletCmd (tempDir : Path) (env : Env D) (id : String) : {T : Option Payload} →
    WalletCmd D T → WalletM D (Option (Answer D T))
  | _, .backup password => do
    let filename := backupFilename id
    let backupPath := tempDir.join filename
    modify fun s => (s.1, removeFile (env.removeFile backupPath) s.2 backupPath)
    respond (call env fun _ => .backup backupPath password) fun _ => ⟨filename, backupPath⟩
  | _, .address => respond (call env fun _ => .getAddress) AddressRes.mk
  | _, .failTransfer batchTransferIdx noAssetOnly skipSync =>
    respond (call env fun w => .failTransfers w.walletOnline batchTransferIdx noAssetOnly skipSync)
      fun val => val
  | _, .transfers => respond (call env fun _ => .listTransfers .anyOrNone) fun val => val
  | _, .transfersByAsset assetId =>
    respond (call env fun _ => .listTransfers (.id assetId)) fun val => val
  | _, .transfersByRecipient recipientId =>
    respond (call env fun _ => .listTransfers .anyOrNone) fun transfers =>
      transfers.find? fun t => D.recipientId t = some recipientId
  | _, .transactions =>
    respond (call env fun w => .listTransactions (some w.walletOnline) false) fun val => val
  | _, .listUnspends =>
    respond (call env fun w => .listUnspents (some w.walletOnline) false false) fun val => val
  | _, .assets => respond (call env fun _ => .listAssets []) fun val => val
  | _, .assetInfo assetId =>
    respond (fun s => (D.getAssetMetadata s.1.wallet assetId, s)) fun val => val
  | _, .btcBalance => respond (balanceBtc env) fun val => val
  | _, .tokenBalance assetId => respond (balanceToken env assetId) fun val => val
  | _, .receive kind req =>
    let assignment := match req.amount with
      | some amount => if amount > 0 then .fungible amount else .any
      | none => .any
    respond (receiveToken env kind req.assetId assignment req.duration req.minConfirmations)
      fun val => val
  | _, .createUtxoBegin req =>
    respond (call env fun w =>
      .createUtxosBegin w.walletOnline req.upTo req.num req.size req.feeRate false false)
      fun val => val
  | _, .createUtxoEnd psbt =>
    respond (call env fun w => .createUtxosEnd w.walletOnline psbt) fun val => val
  | _, .sendBegin req => handleSendBegin env req
  | _, .sendEnd psbt => respond (call env fun w => .sendEnd w.walletOnline psbt) fun val => val
  | _, .burnBegin req =>
    respond (call env fun w => .burnBegin w.walletOnline req.assetId req.amount req.burnReason
      req.feeRate req.minConfirmations false) BeginResult.psbt
  | _, .burnEnd psbt => respond (call env fun w => .burnEnd w.walletOnline psbt) fun val => val
  | _, .getConsignment req => fun s => (some (lookupConsignment req s.1.wallet s.2).res, s)
  | _, .sendBtcBegin req =>
    respond (call env fun w =>
      .sendBtcBegin w.walletOnline req.address req.amount req.feeRate false false) fun val => val
  | _, .sendBtcEnd psbt =>
    respond (call env fun w => .sendBtcEnd w.walletOnline psbt) fun val => val
  | _, .issueNiaToken req =>
    respond (call env fun _ => .issueAssetNia req.ticker req.name req.precision req.amounts)
      fun val => val
  | _, .issueIfaToken req =>
    respond (call env fun _ => .issueAssetIfa req.ticker req.name req.precision req.amounts
      req.inflationAmounts req.rejectListUrl) fun val => val
  | _, .inflateBegin req =>
    respond (call env fun w => .inflateBegin w.walletOnline req.assetId req.inflationAmounts
      req.feeRate req.minConfirmations false) BeginResult.psbt
  | _, .inflateEnd psbt =>
    respond (call env fun w => .inflateEnd w.walletOnline psbt) fun val => val
  | _, .refreshWallet =>
    respond (call env fun w => .refresh w.walletOnline none false) fun _ => ()
  | _, .refresh | _, .dropWallet | _, .stop | _, .walletInfo | _, .addReadOnlyWallet .. =>
    pure none

end RgbNodeApi

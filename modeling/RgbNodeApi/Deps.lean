import RgbNodeApi.Config
import RgbNodeApi.Models

/-!
# What the service takes from outside

rgb-lib's types, one constructor for each wallet call the service makes with
the arguments it passes, and the functions that run them. A call acts on the
one wallet it is made on and on the files it reaches; the rest of the world
(indexer, proxies, EVM nodes) enters as an argument, so the same call may
succeed in one place of a run and fail in another.
-/
namespace RgbNodeApi

open Files

structure RgbTypes where
  Wallet : Type
  Online : Type
  Net : Type
  Assets : Type
  Transfer : Type
  Transaction : Type
  Unspent : Type
  Metadata : Type
  BtcBalance : Type
  Balance : Type
  ReceiveData : Type
  AssetNIA : Type
  AssetIFA : Type
  WitnessData : Type
  Encryption : Type

structure WalletData where
  dataDir : Path
  bitcoinNetwork : BitcoinNetwork
  maxAllocationsPerUtxo : Nat
  supportedSchemas : List AssetSchema
  deriving DecidableEq, Repr

structure SinglesigKeys where
  accountXpubColored : String
  accountXpubVanilla : String
  mnemonic : Option String
  masterFingerprint : String
  vanillaKeychain : Option Nat
  deriving DecidableEq, Repr

inductive IndexerProtocol where
  | electrum | esplora | bitcoind
  deriving DecidableEq, Repr

inductive IndexerConfig where
  | electrum (url : String)
  | esplora (url : String)
  deriving DecidableEq, Repr

structure OnlineOptions where
  indexerConfig : IndexerConfig
  skipConsistencyCheck : Bool
  vanillaSyncLookback : Nat
  failedWitnessReceiveGraceSecs : Nat
  proxyAuthKeys : List (String × String)
  evmRpcUrls : List (Nat × String)
  deriving DecidableEq, Repr

inductive Assignment where
  | fungible (amount : Nat)
  | any
  deriving DecidableEq, Repr

inductive AssetFilter where
  | anyOrNone
  | id (assetId : String)
  deriving DecidableEq, Repr

structure Recipient (WitnessData Encryption : Type) where
  recipientId : String
  witnessData : Option WitnessData
  assignment : Assignment
  transportEndpoints : List String
  publicKey : Option String
  encryption : Encryption
  expirationTimestamp : Option Nat

def SendRecipient.toRecipient {WitnessData Encryption : Type}
    (r : SendRecipient WitnessData Encryption) : Recipient WitnessData Encryption :=
  { recipientId := r.recipientId
    witnessData := r.witnessData
    assignment := .fungible r.amount
    transportEndpoints := r.transportEndpoints
    publicKey := r.publicKey
    encryption := r.encryption
    expirationTimestamp := r.expirationTimestamp }

/-- The part of rgb-lib's begin results that the service returns. -/
structure BeginResult where
  psbt : String
  deriving DecidableEq, Repr

structure OperationResult where
  txid : String
  batchTransferIdx : Int
  deriving DecidableEq, Repr

/-- The calls made on a wallet, each with the type it returns. An argument that is
always the same empty value of an rgb-lib type is left out. -/
inductive Call (T : RgbTypes) : Type → Type
  | backup (path : Path) (password : String) : Call T Unit
  | getAddress : Call T String
  | failTransfers (online : T.Online) (batchTransferIdx : Option Int)
      (noAssetOnly skipSync : Bool) : Call T Bool
  | listTransfers (filter : AssetFilter) : Call T (List T.Transfer)
  | listTransactions (online : Option T.Online) (skipSync : Bool) : Call T (List T.Transaction)
  | listUnspents (online : Option T.Online) (settledOnly skipSync : Bool) :
      Call T (List T.Unspent)
  | listAssets (filter : List AssetSchema) : Call T T.Assets
  | getBtcBalance (online : Option T.Online) (skipSync : Bool) : Call T T.BtcBalance
  | getAssetBalance (assetId : String) : Call T T.Balance
  | blindReceive (online : Option T.Online) (assetId : Option String) (assignment : Assignment)
      (expirationTimestamp : Nat) (transportEndpoints : List String) (minConfirmations : Nat) :
      Call T T.ReceiveData
  | witnessReceive (online : Option T.Online) (assetId : Option String) (assignment : Assignment)
      (expirationTimestamp : Nat) (transportEndpoints : List String) (minConfirmations : Nat) :
      Call T T.ReceiveData
  | createUtxosBegin (online : T.Online) (upTo : Bool) (num size : Option Nat) (feeRate : Nat)
      (skipSync dryRun : Bool) : Call T String
  | createUtxosEnd (online : T.Online) (psbt : String) : Call T Nat
  | sendBegin (online : T.Online)
      (recipientMap : List (String × List (Recipient T.WitnessData T.Encryption)))
      (donation : Bool) (feeRate minConfirmations expirationTimestamp : Nat)
      (senderProxy : Option String) (dryRun : Bool) : Call T BeginResult
  | sendEnd (online : T.Online) (psbt : String) : Call T OperationResult
  | burnBegin (online : T.Online) (assetId : String) (amount : Nat) (burnReason : Option String)
      (feeRate minConfirmations : Nat) (dryRun : Bool) : Call T BeginResult
  | burnEnd (online : T.Online) (psbt : String) : Call T OperationResult
  | sendBtcBegin (online : T.Online) (address : String) (amount feeRate : Nat)
      (skipSync dryRun : Bool) : Call T String
  | sendBtcEnd (online : T.Online) (psbt : String) : Call T String
  | issueAssetNia (ticker name : String) (precision : Nat) (amounts : List Nat) :
      Call T T.AssetNIA
  | issueAssetIfa (ticker name : String) (precision : Nat) (amounts inflationAmounts : List Nat)
      (rejectListUrl : Option String) : Call T T.AssetIFA
  | inflateBegin (online : T.Online) (assetId : String) (inflationAmounts : List Nat)
      (feeRate minConfirmations : Nat) (dryRun : Bool) : Call T BeginResult
  | inflateEnd (online : T.Online) (psbt : String) : Call T OperationResult
  | refresh (online : T.Online) (assetId : Option String) (skipSync : Bool) : Call T Unit

/-- A construction that owns no wallet yet. -/
abbrev Building (α : Type) := StateM (Unit × Fs) α

structure Deps extends RgbTypes where
  /-- `Wallet::new`. -/
  newWallet : Net → WalletData → SinglesigKeys → Building (RResult Wallet)
  checkIndexerUrl : Net → String → BitcoinNetwork → RResult IndexerProtocol
  /-- A wallet that fails to go online is given up by its only caller. -/
  goOnline : Net → OnlineOptions → Wallet → Building (RResult (Online × Wallet))
  call : {α : Type} → Net → Call toRgbTypes α → StateM (Wallet × Fs) (RResult α)
  /-- A query through a shared reference. -/
  getAssetMetadata : Wallet → String → RResult Metadata
  getSendConsignmentPath : Wallet → (assetId txid : String) → Path
  recipientId : Transfer → Option String
  /-- `From<std::io::Error>`. -/
  ofIoError : IoError → Error
  debug : Error → String
  display : Error → String
  isAlphanumeric : Char → Bool
  hexEncode : Bytes → String

/-- The outside world as one command finds it. Creating a directory changes no
file, so only its outcome is given; whether a removal goes through is up to the
file system. -/
structure Env (D : Deps) where
  now : SystemTime
  net : D.Net
  createDirAll : Path → Except IoError Unit
  removeFile : Path → Except IoError Unit

end RgbNodeApi

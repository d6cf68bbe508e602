import RgbNodeApi.Errors
import RgbNodeApi.Lib.Text

/-!
# Requests and their defaults

The request bodies of the API, with the values rgb-lib gets for the fields a
client leaves out. `SystemTime` is a signed number of seconds since the epoch.
-/
namespace RgbNodeApi

abbrev SystemTime := Int

/-- `duration_since(UNIX_EPOCH)` in whole seconds; it fails before the epoch. -/
def SystemTime.durationSinceEpoch (now : SystemTime) : Option Nat :=
  if 0 ≤ now then some now.toNat else none

def u64Max : Nat := 0xFFFFFFFFFFFFFFFF
def i64Max : Nat := 0x7FFFFFFFFFFFFFFF

def defaultMinConfirmations : Nat := 1
def defaultFeeRate : Nat := 1
def defaultDurationSeconds : Option Nat := some 7200
def defaultNum : Option Nat := some 5
def defaultSize : Option Nat := some 1000

/-- The three request headers that name a wallet. -/
structure XWalletKey where
  xpubCol : String
  xpubVan : String
  masterFingerprint : String
  deriving DecidableEq, Repr

structure WalletInfo where
  walletId : String
  masterXpub : String
  fingerprint : String
  readOnly : Bool
  deriving DecidableEq, Repr

structure Info where
  status : Bool
  wallets : List WalletInfo
  deriving DecidableEq, Repr

structure AddressRes where
  address : String
  deriving DecidableEq, Repr

structure BackupPath (Path : Type) where
  filename : String
  path : Path
  deriving DecidableEq, Repr

structure ReceiveReq where
  assetId : Option String := none
  amount : Option Nat := none
  durationSeconds : Option Nat := defaultDurationSeconds
  minConfirmations : Nat := defaultMinConfirmations
  deriving DecidableEq, Repr

def defaultReceiveDurationSecs : Nat := 7200

/-- Omitted and null durations both use the default; explicit values win. -/
def ReceiveReq.duration (req : ReceiveReq) : Nat :=
  req.durationSeconds.getD defaultReceiveDurationSecs

inductive ReceiveKind where
  | blind | witness
  deriving DecidableEq, Repr

structure SendBtcReq where
  address : String
  amount : Nat
  feeRate : Nat
  deriving DecidableEq, Repr

structure IssueNiaReq where
  amounts : List Nat
  ticker : String
  name : String
  precision : Nat := 0
  deriving DecidableEq, Repr

structure IssueIfaReq where
  ticker : String
  name : String
  precision : Nat := 0
  amounts : List Nat
  inflationAmounts : List Nat := []
  rejectListUrl : Option String := none
  deriving DecidableEq, Repr

structure InflateBeginReq where
  assetId : String
  inflationAmounts : List Nat
  feeRate : Nat := defaultFeeRate
  minConfirmations : Nat := defaultMinConfirmations
  deriving DecidableEq, Repr

structure CreateUtxoBeginReq where
  upTo : Bool := false
  num : Option Nat := defaultNum
  size : Option Nat := defaultSize
  feeRate : Nat := defaultFeeRate
  deriving DecidableEq, Repr

/-- The witness data and the encryption preference are passed through. -/
structure SendRecipient (WitnessData Encryption : Type) where
  recipientId : String
  witnessData : Option WitnessData := none
  amount : Nat
  transportEndpoints : List String
  publicKey : Option String := none
  encryption : Encryption
  expirationTimestamp : Option Nat := none

/-- The recipients of each asset, in the order the hash map iterates over them. -/
structure RecipientMap (ρ : Type) where
  entries : List (String × List ρ)
  distinct : (entries.map Prod.fst).Nodup

structure SendBeginReq (WitnessData Encryption : Type) where
  recipientMap : RecipientMap (SendRecipient WitnessData Encryption)
  donation : Bool := false
  feeRate : Nat := defaultFeeRate
  minConfirmations : Nat := defaultMinConfirmations
  expirationTimestamp : Option Nat := none

/-- rgb-lib's margin between the transfer and the earliest invoice expiration. -/
def invoiceExpirationMarginSecs : Nat := 600

namespace SendBeginReq

variable {WitnessData Encryption : Type}

/-- The invoice expirations of all recipients. -/
def invoiceExpirations (req : SendBeginReq WitnessData Encryption) : List Nat :=
  (req.recipientMap.entries.map Prod.snd).flatten.filterMap (·.expirationTimestamp)

def margin (req : SendBeginReq WitnessData Encryption) : Nat :=
  if req.donation then 0 else invoiceExpirationMarginSecs

/-- The transfer deadline: the requested one, or the earliest recipient invoice
expiration minus rgb-lib's margin for non-donations. Subtraction saturates. -/
def expiration (req : SendBeginReq WitnessData Encryption) (now : SystemTime) : RResult Nat := do
  let expiration ← match req.expirationTimestamp with
    | some expiration => .ok expiration
    | none =>
      match req.invoiceExpirations.min? with
      | none => .error .invalidExpiration
      | some earliest => .ok (earliest - req.margin)
  match now.durationSinceEpoch with
  | none => .error .invalidExpiration
  | some now =>
    if expiration ≤ now ∨ expiration > i64Max then .error .invalidExpiration
    else .ok expiration

end SendBeginReq

structure BurnBeginReq where
  assetId : String
  amount : Nat
  burnRecipient : Option String := none
  feeRate : Nat := defaultFeeRate
  minConfirmations : Nat := defaultMinConfirmations
  deriving DecidableEq, Repr

/-- The burn reason for rgb-lib: hex without the optional `0x` prefix. -/
def BurnBeginReq.burnReason (req : BurnBeginReq) : Option String :=
  req.burnRecipient.map fun r =>
    match r.toList with
    | '0' :: 'x' :: rest => String.ofList rest
    | _ => r

structure GetConsignmentReq where
  assetId : String
  txid : String
  deriving DecidableEq, Repr

def isAsciiHexdigit (b : UInt8) : Bool :=
  (48 ≤ b && b ≤ 57) || (65 ≤ b && b ≤ 70) || (97 ≤ b && b ≤ 102)

/-- The TXID names a directory under the wallet: only accept a real TXID. -/
def GetConsignmentReq.validateTxid (req : GetConsignmentReq) : RResult Unit :=
  if (Text.bytes req.txid).length ≠ 64 ∨ ¬ (Text.bytes req.txid).all isAsciiHexdigit then
    .error .invalidTxid
  else .ok ()

structure GetConsignmentRes where
  bytesHex : String
  deriving DecidableEq, Repr

end RgbNodeApi

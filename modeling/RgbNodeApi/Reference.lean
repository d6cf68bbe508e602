import RgbNodeApi.Deps
import RgbNodeApi.Lib.Hex

/-!
# A reference wallet library

A small library with the behaviour that the service relies on. It has one data
directory with a directory for each fingerprint of eight hex digits of either
case, hands out numbered addresses of the keys it was given, and knows one asset.
-/
namespace RgbNodeApi.Reference

open Files

structure Wallet where
  keys : SinglesigKeys
  next : Nat
  deriving DecidableEq, Repr

def types : RgbTypes where
  Wallet := Wallet
  Online := OnlineOptions
  Net := Unit
  Assets := List String
  Transfer := Unit
  Transaction := Unit
  Unspent := Unit
  Metadata := String
  BtcBalance := Nat
  Balance := Nat
  ReceiveData := String
  AssetNIA := String
  AssetIFA := String
  WitnessData := Unit
  Encryption := Bool

/-- The only data directory that exists. -/
def dataDir : String := "data"

def assetId : String := "rgb:asset"

/-- A directory cannot be named after an id with a colon everywhere. -/
def assetDir (_ : String) : String := "asset"

def consignmentFile : String := "consignment_out"

theorem assetDir_safe (id : String) : SafeComponent (assetDir id) := by
  have h : SafeComponent "asset" := ⟨by decide, by decide, by decide, by decide⟩
  exact h

theorem consignmentFile_safe : SafeComponent consignmentFile :=
  ⟨by decide, by decide, by decide, by decide⟩

def walletDir (w : Wallet) : Path := (Path.ofString dataDir).join w.keys.masterFingerprint

def isFingerprint (f : String) : Bool := f.toList.length == 8 && f.toList.all Hex.isDigit

def newWallet (data : WalletData) (keys : SinglesigKeys) : RResult Wallet :=
  if data.dataDir ≠ Path.ofString dataDir then .error ⟨.inexistentDataDir, []⟩
  else if isFingerprint keys.masterFingerprint then .ok ⟨keys, 0⟩
  else .error ⟨.invalidFingerprint, []⟩

theorem newWallet_ok {data : WalletData} {keys : SinglesigKeys}
    (hdir : data.dataDir = Path.ofString dataDir)
    (hkeys : isFingerprint keys.masterFingerprint = true) :
    newWallet data keys = .ok ⟨keys, 0⟩ := by
  simp [newWallet, hdir, hkeys]

/-- An address names its keys, and refreshing succeeds; the rest is offline. -/
def call {α : Type} (c : Call types α) (w : Wallet) : RResult α × Wallet :=
  match c with
  | .getAddress =>
    (.ok (w.keys.accountXpubVanilla ++ "/" ++ toString w.next), { w with next := w.next + 1 })
  | .refresh .. => (.ok (), w)
  | .sendBegin _ _ _ _ _ expirationTimestamp _ _ =>
    (.ok ⟨"psbt until " ++ toString expirationTimestamp⟩, w)
  | _ => (.error ⟨.offline, []⟩, w)

def getAssetMetadata (_ : Wallet) (id : String) : RResult String :=
  if id = assetId then .ok "asset" else .error ⟨.assetNotFound, [("asset_id", .text id)]⟩

def getSendConsignmentPath (w : Wallet) (id txid : String) : Path :=
  (((walletDir w).join txid).join (assetDir id)).join consignmentFile

def deps : Deps where
  toRgbTypes := types
  newWallet _ data keys := pure (newWallet data keys)
  checkIndexerUrl _ _ _ := .ok .electrum
  goOnline _ opts w := pure (.ok (opts, w))
  call _ c s := ((call c s.1).1, (call c s.1).2, s.2)
  getAssetMetadata := getAssetMetadata
  getSendConsignmentPath := getSendConsignmentPath
  recipientId _ := none
  ofIoError e := ⟨.io, [("details", .text e.message)]⟩
  debug := Error.derivedDebug
  display := Error.derivedDebug
  isAlphanumeric := Char.isAlphanum
  hexEncode := Hex.encode

/-- A configuration with that data directory. -/
def config : Config where
  «alias» := none
  dataDir := dataDir
  network := "regtest"
  indexerAddress := "127.0.0.1:50001"
  proxyAddress := ["rpc://127.0.0.1:3000/json-rpc"]
  ethRpcUrl := none
  ethChainId := none
  bfaEnabled := false

/-- A world without failures. -/
def world : Env deps := ⟨0, (), fun _ => .ok (), fun _ => .ok ()⟩

/-- A key, another one with its fingerprint, and the key with its fingerprint in
upper case. -/
def key : XWalletKey := ⟨"xpub-col", "xpub-van", "a1b2c3d4"⟩
def otherXpubs : XWalletKey := ⟨"other-col", "other-van", "a1b2c3d4"⟩
def upperCase : XWalletKey := ⟨"xpub-col", "xpub-van", "A1B2C3D4"⟩

def tempDir : Path := ⟨true, ["tmp"]⟩

end RgbNodeApi.Reference

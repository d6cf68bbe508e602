import RgbNodeApi.Deps
import RgbNodeApi.Lib.Footprint
import Std.Data.TreeSet

/-!
# The state of one wallet

`RgbWalletState`, how it is built for a read-only wallet, and the operations
that are written as its methods.
-/
namespace RgbNodeApi

open Files

structure RgbWalletState (D : Deps) where
  id : String
  masterXpub : String
  wallet : D.Wallet
  walletOnline : D.Online
  proxyHost : Std.TreeSet String
  senderProxy : Option String

abbrev WalletM (D : Deps) (α : Type) := StateM (RgbWalletState D × Fs) α

variable {D : Deps}

/-- A failed `duration_since` counts as zero. -/
def unixNow (env : Env D) : Nat := env.now.durationSinceEpoch.getD 0

def indexerConfig (cfg : Config) (env : Env D) : RResult IndexerConfig := do
  match ← D.checkIndexerUrl env.net cfg.indexerAddress cfg.net with
  | .electrum => .ok (.electrum cfg.indexerAddress)
  | .esplora => .ok (.esplora cfg.indexerAddress)
  | .bitcoind => .error (.invalidIndexer "bitcoind indexers are not supported")

namespace RgbWalletState

def newRoWallet (cfg : Config) (env : Env D) (xpubColored xpubVanilla masterFingerprint : String)
    (maxAllocationsPerUtxo : Option Nat) : Building (RResult (RgbWalletState D)) := do
  match env.createDirAll cfg.datadir with
  | .error e => pure (.error (D.ofIoError e))
  | .ok () =>
  match cfg.supportedSchemas with
  | .error err => pure (.error err)
  | .ok supportedSchemas =>
  match ← D.newWallet env.net
      { dataDir := cfg.datadir
        bitcoinNetwork := cfg.net
        maxAllocationsPerUtxo := maxAllocationsPerUtxo.getD 5
        supportedSchemas }
      { accountXpubColored := xpubColored
        accountXpubVanilla := xpubVanilla
        mnemonic := none
        masterFingerprint
        vanillaKeychain := none } with
  | .error err => pure (.error err)
  | .ok wallet =>
  match indexerConfig cfg env with
  | .error err => pure (.error err)
  | .ok indexerConfig =>
  match ← D.goOnline env.net
      { indexerConfig
        skipConsistencyCheck := false
        vanillaSyncLookback := 20
        failedWitnessReceiveGraceSecs := 604800
        proxyAuthKeys := []
        evmRpcUrls := cfg.evmRpcUrls } wallet with
  | .error err => pure (.error err)
  | .ok (online, wallet) =>
    pure (.ok
      { id := masterFingerprint
        masterXpub := ""
        wallet
        walletOnline := online
        proxyHost := Std.TreeSet.ofList cfg.proxyAddress
        senderProxy := cfg.proxyAddress.head? })

/-- Run an rgb-lib call on the wallet of this state. -/
def call {α : Type} (env : Env D) (c : RgbWalletState D → Call D.toRgbTypes α) :
    WalletM D (RResult α) := fun s =>
  let r := (D.call env.net (c s.1)).run (s.1.wallet, s.2)
  (r.1, { s.1 with wallet := r.2.1 }, r.2.2)

/-- The API takes a duration, rgb-lib wants an absolute unix timestamp. -/
def receiveToken (env : Env D) (kind : ReceiveKind) (assetId : Option String)
    (assignment : Assignment) (durationSeconds minConfirmations : Nat) :
    WalletM D (RResult D.ReceiveData) :=
  let expirationTimestamp := min (unixNow env + durationSeconds) u64Max
  match kind with
  | .blind => call env fun w => .blindReceive (some w.walletOnline) assetId assignment
      expirationTimestamp w.proxyHost.toList minConfirmations
  | .witness => call env fun w => .witnessReceive (some w.walletOnline) assetId assignment
      expirationTimestamp w.proxyHost.toList minConfirmations

def balanceBtc (env : Env D) : WalletM D (RResult D.BtcBalance) :=
  call env fun w => .getBtcBalance (some w.walletOnline) false

def balanceToken (env : Env D) (assetId : String) : WalletM D (RResult D.Balance) :=
  call env fun _ => .getAssetBalance assetId

def refresh (env : Env D) : WalletM D (RResult Unit) :=
  call env fun w => .refresh w.walletOnline none false

end RgbWalletState

end RgbNodeApi

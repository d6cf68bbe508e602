import RgbNodeApi.Errors
import RgbNodeApi.Lib.Files
import RgbNodeApi.Lib.Text

/-!
# Wallet configuration

The fields that the wallet code reads, the schemas a configuration supports and
the EVM RPCs it passes on.
-/
namespace RgbNodeApi

inductive BitcoinNetwork where
  | mainnet | regtest | signet | testnet | testnet4
  deriving DecidableEq, Repr

inductive AssetSchema where
  | nia | bfa | ifa
  deriving DecidableEq, Repr

structure Config where
  «alias» : Option String
  dataDir : String
  network : String
  indexerAddress : String
  proxyAddress : List String
  ethRpcUrl : Option String
  ethChainId : Option Nat
  bfaEnabled : Bool
  deriving DecidableEq, Repr

namespace Config

/-- An unknown network name falls back to mainnet. -/
def net (cfg : Config) : BitcoinNetwork :=
  match Text.toAsciiLowercase cfg.network with
  | "mainnet" => .mainnet
  | "regtest" => .regtest
  | "signet" => .signet
  | "testnet" => .testnet
  | "testnet4" => .testnet4
  | _ => .mainnet

def supportedSchemas (cfg : Config) : RResult (List AssetSchema) := do
  let schemas := [AssetSchema.nia]
  let schemas ←
    if cfg.bfaEnabled then
      -- rgb-lib rejects the BFA schema on mainnet
      if cfg.net = .mainnet then .error (.cannotUseSchemaOnMainnet "Bfa")
      else if cfg.ethRpcUrl.all fun url => Text.trim url = "" then
        .error (.invalidEvmRpcUrl "BFA requires an explicit EVM RPC")
      else if cfg.ethChainId.isNone then
        .error (.invalidEvmRpcUrl "BFA requires the chain ID of the EVM RPC")
      else .ok (schemas ++ [.bfa])
    else .ok schemas
  -- rgb-lib rejects the IFA schema on mainnet
  .ok (if cfg.net = .mainnet then schemas else schemas ++ [.ifa])

/-- The EVM RPCs passed to `OnlineOptions`, only when BFA is enabled. -/
def evmRpcUrls (cfg : Config) : List (Nat × String) :=
  match cfg.bfaEnabled, cfg.ethChainId, cfg.ethRpcUrl with
  | true, some chainId, some url => [(chainId, url)]
  | _, _, _ => []

def datadir (cfg : Config) : Files.Path :=
  let dataDir := Files.Path.ofString cfg.dataDir
  match cfg.«alias» with
  | some a => dataDir.join a
  | none => dataDir

end Config

end RgbNodeApi

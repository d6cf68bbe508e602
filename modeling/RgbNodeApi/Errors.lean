import Mathlib.Data.List.Basic

/-!
# Classification of rgb-lib errors

The variants are those `classify` names, and the match is exhaustive as in the
source. A payload is a list of named strings and numbers: nothing here reads it
except through the `Debug` and `Display` texts, which rgb-lib provides.
-/
namespace RgbNodeApi

inductive ErrorVariant where
  | assetNotFound | batchTransferNotFound | multisigOperationNotFound | unknownTransfer
  | noConsignment | noMedia | operationNotFound | invalidAddress | insufficientBitcoins
  | insufficientAllocationSlots | insufficientAssignments | invalidFeeRate | maxFeeExceeded
  | minFeeNotMet | invalidPsbt | cannotCombinePsbts | cannotFinalizePsbt | psbtTooLarge
  | tooManySignaturesInPsbt | psbtInspection | invalidInvoice | invalidProxyProtocol
  | invalidRecipientData | invalidRecipientID | invalidRecipientMap | invalidRecipientNetwork
  | invalidTransportEndpoint | invalidTransportEndpoints | invoiceExpired
  | noValidTransportEndpoint | recipientIDDuplicated | unsupportedTransportType
  | allocationsAlreadyAvailable | cannotAbortPendingVanillaTx | cannotChangeOnline
  | cannotDeleteBatchTransfer | cannotEndTransfer | cannotFailBatchTransfer
  | cannotProvideOutOfBandAck | cannotProvideOutOfBandConsignment | fileAlreadyExists
  | invoiceNotReserved | invoiceQuotaExceeded | lastMintRight | mintEventNotFound
  | multisigLegacyOperation | multisigOperationInProgress | multisigTransferStatusMismatch
  | operationExpired | proxyCannotChange | proxyTooManyMedia | proxyTxAlreadyReleased
  | recipientIDAlreadyUsed | signedTxCleared | transferExpired | transferIDDeleted
  | transferIDInUse | walletDirAlreadyExists | walletSettingMismatch | cannotUseSchemaOnMainnet
  | noEvmRpcUrl | noSupportedSchemas | unsupportedBackupVersion | unsupportedBurn
  | unsupportedInflation | unsupportedLayer1 | unsupportedLink | unsupportedMint
  | unsupportedSchema | unsupportedWalletManifestVersion | cannotEstimateFees | failedBdkSync
  | failedBroadcast | failedIssuance | indexer | multisigHubService | network | offline
  | onlineNeeded | proxy | proxyDraining | rejectListService | restClientBuild | database
  | inconsistency | inexistentDataDir | inexistentWalletManifest | internal | io
  | multisigCannotMarkOperationProcessed | multisigCannotRespondToOperation
  | multisigUnexpectedData | rgbInspection | noAnchorResolver | noRejectListResolver
  | duplicateProxyAuthKey | evmChainIdMismatch | invalidEvmRpcUrl | invalidProxyAuthKey
  | invalidProxyAuthSignature | watchOnly | bitcoinNetworkMismatch | consignmentRejected
  | consignmentValidationFailed | emptyFile | expirationInvalid | hashMismatch
  | fingerprintMismatch | invalidAmountZero | invalidAssignment | invalidAttachments
  | invalidBeforeBlock | invalidBitcoinKeys | invalidBitcoinNetwork | invalidColoringInfo
  | invalidBurnReason | invalidConsignment | invalidContentSignature | invalidContractId
  | invalidCosigner | invalidDetails | invalidElectrum | invalidEncryptedBlob
  | invalidEndpointAuthSignature | invalidEstimationBlocks | invalidEvmContractAddress
  | invalidExpiration | invalidFilePath | invalidFingerprint | invalidIndexer | invalidMnemonic
  | invalidMultisigThreshold | invalidName | invalidPrecision | invalidPubkey
  | invalidRejectListUrl | invalidTicker | invalidTxid | invalidVanillaKeychain
  | invalidWitnessVersion | mintEventExpired | multisigUserNotCosigner | noBurnAmount
  | noCosignersSupplied | noInflationAmounts | noIssuanceAmounts | noKeysSupplied
  | noMaxAllocationsPerUtxo | noMintRights | offchainTxidNotFound | outputBelowDustLimit
  | tooHighInflationAmounts | tooHighIssuanceAmounts | tooManyCosigners | unknownRgbSchema
  | wrongOperation | wrongPassword
  deriving DecidableEq, Repr

/-- The name a derived `Debug` prints first. -/
def ErrorVariant.name : ErrorVariant → String
  | .assetNotFound => "AssetNotFound"
  | .batchTransferNotFound => "BatchTransferNotFound"
  | .multisigOperationNotFound => "MultisigOperationNotFound"
  | .unknownTransfer => "UnknownTransfer"
  | .noConsignment => "NoConsignment"
  | .noMedia => "NoMedia"
  | .operationNotFound => "OperationNotFound"
  | .invalidAddress => "InvalidAddress"
  | .insufficientBitcoins => "InsufficientBitcoins"
  | .insufficientAllocationSlots => "InsufficientAllocationSlots"
  | .insufficientAssignments => "InsufficientAssignments"
  | .invalidFeeRate => "InvalidFeeRate"
  | .maxFeeExceeded => "MaxFeeExceeded"
  | .minFeeNotMet => "MinFeeNotMet"
  | .invalidPsbt => "InvalidPsbt"
  | .cannotCombinePsbts => "CannotCombinePsbts"
  | .cannotFinalizePsbt => "CannotFinalizePsbt"
  | .psbtTooLarge => "PsbtTooLarge"
  | .tooManySignaturesInPsbt => "TooManySignaturesInPsbt"
  | .psbtInspection => "PsbtInspection"
  | .invalidInvoice => "InvalidInvoice"
  | .invalidProxyProtocol => "InvalidProxyProtocol"
  | .invalidRecipientData => "InvalidRecipientData"
  | .invalidRecipientID => "InvalidRecipientID"
  | .invalidRecipientMap => "InvalidRecipientMap"
  | .invalidRecipientNetwork => "InvalidRecipientNetwork"
  | .invalidTransportEndpoint => "InvalidTransportEndpoint"
  | .invalidTransportEndpoints => "InvalidTransportEndpoints"
  | .invoiceExpired => "InvoiceExpired"
  | .noValidTransportEndpoint => "NoValidTransportEndpoint"
  | .recipientIDDuplicated => "RecipientIDDuplicated"
  | .unsupportedTransportType => "UnsupportedTransportType"
  | .allocationsAlreadyAvailable => "AllocationsAlreadyAvailable"
  | .cannotAbortPendingVanillaTx => "CannotAbortPendingVanillaTx"
  | .cannotChangeOnline => "CannotChangeOnline"
  | .cannotDeleteBatchTransfer => "CannotDeleteBatchTransfer"
  | .cannotEndTransfer => "CannotEndTransfer"
  | .cannotFailBatchTransfer => "CannotFailBatchTransfer"
  | .cannotProvideOutOfBandAck => "CannotProvideOutOfBandAck"
  | .cannotProvideOutOfBandConsignment => "CannotProvideOutOfBandConsignment"
  | .fileAlreadyExists => "FileAlreadyExists"
  | .invoiceNotReserved => "InvoiceNotReserved"
  | .invoiceQuotaExceeded => "InvoiceQuotaExceeded"
  | .lastMintRight => "LastMintRight"
  | .mintEventNotFound => "MintEventNotFound"
  | .multisigLegacyOperation => "MultisigLegacyOperation"
  | .multisigOperationInProgress => "MultisigOperationInProgress"
  | .multisigTransferStatusMismatch => "MultisigTransferStatusMismatch"
  | .operationExpired => "OperationExpired"
  | .proxyCannotChange => "ProxyCannotChange"
  | .proxyTooManyMedia => "ProxyTooManyMedia"
  | .proxyTxAlreadyReleased => "ProxyTxAlreadyReleased"
  | .recipientIDAlreadyUsed => "RecipientIDAlreadyUsed"
  | .signedTxCleared => "SignedTxCleared"
  | .transferExpired => "TransferExpired"
  | .transferIDDeleted => "TransferIDDeleted"
  | .transferIDInUse => "TransferIDInUse"
  | .walletDirAlreadyExists => "WalletDirAlreadyExists"
  | .walletSettingMismatch => "WalletSettingMismatch"
  | .cannotUseSchemaOnMainnet => "CannotUseSchemaOnMainnet"
  | .noEvmRpcUrl => "NoEvmRpcUrl"
  | .noSupportedSchemas => "NoSupportedSchemas"
  | .unsupportedBackupVersion => "UnsupportedBackupVersion"
  | .unsupportedBurn => "UnsupportedBurn"
  | .unsupportedInflation => "UnsupportedInflation"
  | .unsupportedLayer1 => "UnsupportedLayer1"
  | .unsupportedLink => "UnsupportedLink"
  | .unsupportedMint => "UnsupportedMint"
  | .unsupportedSchema => "UnsupportedSchema"
  | .unsupportedWalletManifestVersion => "UnsupportedWalletManifestVersion"
  | .cannotEstimateFees => "CannotEstimateFees"
  | .failedBdkSync => "FailedBdkSync"
  | .failedBroadcast => "FailedBroadcast"
  | .failedIssuance => "FailedIssuance"
  | .indexer => "Indexer"
  | .multisigHubService => "MultisigHubService"
  | .network => "Network"
  | .offline => "Offline"
  | .onlineNeeded => "OnlineNeeded"
  | .proxy => "Proxy"
  | .proxyDraining => "ProxyDraining"
  | .rejectListService => "RejectListService"
  | .restClientBuild => "RestClientBuild"
  | .database => "Database"
  | .inconsistency => "Inconsistency"
  | .inexistentDataDir => "InexistentDataDir"
  | .inexistentWalletManifest => "InexistentWalletManifest"
  | .internal => "Internal"
  | .io => "IO"
  | .multisigCannotMarkOperationProcessed => "MultisigCannotMarkOperationProcessed"
  | .multisigCannotRespondToOperation => "MultisigCannotRespondToOperation"
  | .multisigUnexpectedData => "MultisigUnexpectedData"
  | .rgbInspection => "RgbInspection"
  | .noAnchorResolver => "NoAnchorResolver"
  | .noRejectListResolver => "NoRejectListResolver"
  | .duplicateProxyAuthKey => "DuplicateProxyAuthKey"
  | .evmChainIdMismatch => "EvmChainIdMismatch"
  | .invalidEvmRpcUrl => "InvalidEvmRpcUrl"
  | .invalidProxyAuthKey => "InvalidProxyAuthKey"
  | .invalidProxyAuthSignature => "InvalidProxyAuthSignature"
  | .watchOnly => "WatchOnly"
  | .bitcoinNetworkMismatch => "BitcoinNetworkMismatch"
  | .consignmentRejected => "ConsignmentRejected"
  | .consignmentValidationFailed => "ConsignmentValidationFailed"
  | .emptyFile => "EmptyFile"
  | .expirationInvalid => "ExpirationInvalid"
  | .hashMismatch => "HashMismatch"
  | .fingerprintMismatch => "FingerprintMismatch"
  | .invalidAmountZero => "InvalidAmountZero"
  | .invalidAssignment => "InvalidAssignment"
  | .invalidAttachments => "InvalidAttachments"
  | .invalidBeforeBlock => "InvalidBeforeBlock"
  | .invalidBitcoinKeys => "InvalidBitcoinKeys"
  | .invalidBitcoinNetwork => "InvalidBitcoinNetwork"
  | .invalidColoringInfo => "InvalidColoringInfo"
  | .invalidBurnReason => "InvalidBurnReason"
  | .invalidConsignment => "InvalidConsignment"
  | .invalidContentSignature => "InvalidContentSignature"
  | .invalidContractId => "InvalidContractId"
  | .invalidCosigner => "InvalidCosigner"
  | .invalidDetails => "InvalidDetails"
  | .invalidElectrum => "InvalidElectrum"
  | .invalidEncryptedBlob => "InvalidEncryptedBlob"
  | .invalidEndpointAuthSignature => "InvalidEndpointAuthSignature"
  | .invalidEstimationBlocks => "InvalidEstimationBlocks"
  | .invalidEvmContractAddress => "InvalidEvmContractAddress"
  | .invalidExpiration => "InvalidExpiration"
  | .invalidFilePath => "InvalidFilePath"
  | .invalidFingerprint => "InvalidFingerprint"
  | .invalidIndexer => "InvalidIndexer"
  | .invalidMnemonic => "InvalidMnemonic"
  | .invalidMultisigThreshold => "InvalidMultisigThreshold"
  | .invalidName => "InvalidName"
  | .invalidPrecision => "InvalidPrecision"
  | .invalidPubkey => "InvalidPubkey"
  | .invalidRejectListUrl => "InvalidRejectListUrl"
  | .invalidTicker => "InvalidTicker"
  | .invalidTxid => "InvalidTxid"
  | .invalidVanillaKeychain => "InvalidVanillaKeychain"
  | .invalidWitnessVersion => "InvalidWitnessVersion"
  | .mintEventExpired => "MintEventExpired"
  | .multisigUserNotCosigner => "MultisigUserNotCosigner"
  | .noBurnAmount => "NoBurnAmount"
  | .noCosignersSupplied => "NoCosignersSupplied"
  | .noInflationAmounts => "NoInflationAmounts"
  | .noIssuanceAmounts => "NoIssuanceAmounts"
  | .noKeysSupplied => "NoKeysSupplied"
  | .noMaxAllocationsPerUtxo => "NoMaxAllocationsPerUtxo"
  | .noMintRights => "NoMintRights"
  | .offchainTxidNotFound => "OffchainTxidNotFound"
  | .outputBelowDustLimit => "OutputBelowDustLimit"
  | .tooHighInflationAmounts => "TooHighInflationAmounts"
  | .tooHighIssuanceAmounts => "TooHighIssuanceAmounts"
  | .tooManyCosigners => "TooManyCosigners"
  | .unknownRgbSchema => "UnknownRgbSchema"
  | .wrongOperation => "WrongOperation"
  | .wrongPassword => "WrongPassword"

inductive FieldValue where
  | text : String → FieldValue
  | number : Int → FieldValue
  deriving DecidableEq, Repr

/-- `rgb_lib::Error`. -/
structure Error where
  variant : ErrorVariant
  fields : List (String × FieldValue)
  deriving DecidableEq, Repr

abbrev RResult (α : Type) := Except Error α

namespace Error

def noConsignment : Error := ⟨.noConsignment, []⟩
def invalidTxid : Error := ⟨.invalidTxid, []⟩
def invalidExpiration : Error := ⟨.invalidExpiration, []⟩
def internal (details : String) : Error := ⟨.internal, [("details", .text details)]⟩
def invalidIndexer (details : String) : Error := ⟨.invalidIndexer, [("details", .text details)]⟩
def invalidEvmRpcUrl (details : String) : Error :=
  ⟨.invalidEvmRpcUrl, [("details", .text details)]⟩
def cannotUseSchemaOnMainnet (assetSchema : String) : Error :=
  ⟨.cannotUseSchemaOnMainnet, [("asset_schema", .text assetSchema)]⟩

end Error

def errDeadThread : Error := .internal "wallet thread is dead"

/-- What kind of failure an `rgb_lib::Error` represents. -/
inductive ErrorClass where
  | notFound | badInput | invalidAddress | notEnoughBalance | needMoreUtxos | notEnoughAssets
  | invalidFeeRate | invalidPsbt | invalidRecipient | conflict | unsupported | unavailable
  | internal
  deriving DecidableEq, Repr

/-- True when the caller can fix the request and retry. -/
def ErrorClass.isClientError : ErrorClass → Bool
  | .internal | .unavailable => false
  | _ => true

def ErrorVariant.classify : ErrorVariant → ErrorClass
  -- the entity asked for does not exist
  | .assetNotFound | .batchTransferNotFound | .multisigOperationNotFound | .unknownTransfer
  | .noConsignment | .noMedia | .operationNotFound => .notFound
  -- specific, actionable input problems
  | .invalidAddress => .invalidAddress
  | .insufficientBitcoins => .notEnoughBalance
  | .insufficientAllocationSlots => .needMoreUtxos
  | .insufficientAssignments => .notEnoughAssets
  | .invalidFeeRate | .maxFeeExceeded | .minFeeNotMet => .invalidFeeRate
  | .invalidPsbt | .cannotCombinePsbts | .cannotFinalizePsbt | .psbtTooLarge
  | .tooManySignaturesInPsbt | .psbtInspection => .invalidPsbt
  | .invalidInvoice | .invalidProxyProtocol | .invalidRecipientData | .invalidRecipientID
  | .invalidRecipientMap | .invalidRecipientNetwork | .invalidTransportEndpoint
  | .invalidTransportEndpoints | .invoiceExpired | .noValidTransportEndpoint
  | .recipientIDDuplicated | .unsupportedTransportType => .invalidRecipient
  -- the request clashes with the current state
  | .allocationsAlreadyAvailable | .cannotAbortPendingVanillaTx | .cannotChangeOnline
  | .cannotDeleteBatchTransfer | .cannotEndTransfer | .cannotFailBatchTransfer
  | .cannotProvideOutOfBandAck | .cannotProvideOutOfBandConsignment | .fileAlreadyExists
  | .invoiceNotReserved | .invoiceQuotaExceeded | .lastMintRight | .mintEventNotFound
  | .multisigLegacyOperation | .multisigOperationInProgress | .multisigTransferStatusMismatch
  | .operationExpired | .proxyCannotChange | .proxyTooManyMedia | .proxyTxAlreadyReleased
  | .recipientIDAlreadyUsed | .signedTxCleared | .transferExpired | .transferIDDeleted
  | .transferIDInUse | .walletDirAlreadyExists | .walletSettingMismatch => .conflict
  -- asked for something this wallet cannot do
  | .cannotUseSchemaOnMainnet | .noEvmRpcUrl | .noSupportedSchemas | .unsupportedBackupVersion
  | .unsupportedBurn | .unsupportedInflation | .unsupportedLayer1 | .unsupportedLink
  | .unsupportedMint | .unsupportedSchema | .unsupportedWalletManifestVersion => .unsupported
  -- a dependency is down or unreachable
  | .cannotEstimateFees | .failedBdkSync | .failedBroadcast | .failedIssuance | .indexer
  | .multisigHubService | .network | .offline | .onlineNeeded | .proxy | .proxyDraining
  | .rejectListService | .restClientBuild => .unavailable
  -- our fault
  | .database | .inconsistency | .inexistentDataDir | .inexistentWalletManifest | .internal | .io
  | .multisigCannotMarkOperationProcessed | .multisigCannotRespondToOperation
  | .multisigUnexpectedData | .rgbInspection | .noAnchorResolver | .noRejectListResolver
  | .duplicateProxyAuthKey | .evmChainIdMismatch | .invalidEvmRpcUrl | .invalidProxyAuthKey
  | .invalidProxyAuthSignature | .watchOnly => .internal
  -- everything else is invalid request data
  | .bitcoinNetworkMismatch | .consignmentRejected | .consignmentValidationFailed | .emptyFile
  | .expirationInvalid | .hashMismatch | .fingerprintMismatch | .invalidAmountZero
  | .invalidAssignment | .invalidAttachments | .invalidBeforeBlock | .invalidBitcoinKeys
  | .invalidBitcoinNetwork | .invalidColoringInfo | .invalidBurnReason | .invalidConsignment
  | .invalidContentSignature | .invalidContractId | .invalidCosigner | .invalidDetails
  | .invalidElectrum | .invalidEncryptedBlob | .invalidEndpointAuthSignature
  | .invalidEstimationBlocks | .invalidEvmContractAddress | .invalidExpiration | .invalidFilePath
  | .invalidFingerprint | .invalidIndexer | .invalidMnemonic | .invalidMultisigThreshold
  | .invalidName | .invalidPrecision | .invalidPubkey | .invalidRejectListUrl | .invalidTicker
  | .invalidTxid | .invalidVanillaKeychain | .invalidWitnessVersion | .mintEventExpired
  | .multisigUserNotCosigner | .noBurnAmount | .noCosignersSupplied | .noInflationAmounts
  | .noIssuanceAmounts | .noKeysSupplied | .noMaxAllocationsPerUtxo | .noMintRights
  | .offchainTxidNotFound | .outputBelowDustLimit | .tooHighInflationAmounts
  | .tooHighIssuanceAmounts | .tooManyCosigners | .unknownRgbSchema | .wrongOperation
  | .wrongPassword => .badInput

def classify (err : Error) : ErrorClass := err.variant.classify

inductive LogLevel where
  | warn | error
  deriving DecidableEq, Repr

/-- The level `log_rgb_err!` logs at. -/
def logRgbErr (err : Error) : LogLevel :=
  if (classify err).isClientError then .warn else .error

/-- The text up to the first character that is not alphanumeric. -/
def errorKind (isAlphanumeric : Char → Bool) (debug : Error → String) (err : Error) : String :=
  (((debug err).toList.splitOnP fun c => !isAlphanumeric c).head?.map String.ofList).getD "Unknown"

theorem all_ofList (p : Char → Bool) (l : List Char) (h : l.all p = true) :
    (String.ofList l).toList.all p = true := by
  rwa [String.toList_ofList]

/-- Variant names are made of ASCII letters and digits only. -/
theorem name_alphanum (v : ErrorVariant) : v.name.toList.all Char.isAlphanum = true := by
  cases v <;> exact all_ofList _ _ rfl

/-- A derived `Debug`: the variant name, alone or followed by a character that
is not alphanumeric. -/
def DerivedDebug (isAlphanumeric : Char → Bool) (debug : Error → String) : Prop :=
  ∀ err, ∃ rest : List Char, (debug err).toList = err.variant.name.toList ++ rest ∧
    ∀ c ∈ rest.head?, isAlphanumeric c = false

def FieldValue.debug : FieldValue → String
  | .text s => s.quote
  | .number n => toString n

/-- The text that a derived `Debug` prints for named fields. -/
def Error.derivedDebug (e : Error) : String :=
  match e.fields with
  | [] => e.variant.name
  | fields =>
    e.variant.name ++ (" \x7b " ++
      ", ".intercalate (fields.map fun f => f.1 ++ ": " ++ f.2.debug) ++ " \x7d")

theorem derivedDebug_derived : DerivedDebug Char.isAlphanum Error.derivedDebug := by
  intro err
  unfold Error.derivedDebug
  split
  · exact ⟨[], by simp, by simp⟩
  · refine ⟨_, String.toList_append, ?_⟩
    intro c hc
    simp only [String.toList_append, List.append_assoc] at hc
    have hblank : c = ' ' := by simpa using hc.symm
    subst hblank
    decide

/-- The kind is the variant name, whatever the payload holds. -/
theorem errorKind_eq_name (isAlphanumeric : Char → Bool) (debug : Error → String)
    (hascii : ∀ c : Char, c.isAlphanum = true → isAlphanumeric c = true)
    (hdebug : DerivedDebug isAlphanumeric debug) (err : Error) :
    errorKind isAlphanumeric debug err = err.variant.name := by
  obtain ⟨rest, htext, hrest⟩ := hdebug err
  have hname : ∀ c ∈ err.variant.name.toList, (!isAlphanumeric c) = false := by
    intro c hc
    have := List.all_eq_true.mp (name_alphanum err.variant) c hc
    simp [hascii c this]
  cases rest with
  | nil =>
    rw [errorKind, htext, List.append_nil, List.splitOnP_eq_singleton hname]
    simp
  | cons c tail =>
    have hc : (!isAlphanumeric c) = true := by simp [hrest c (by simp)]
    rw [errorKind, htext, List.splitOnP_append_cons_of_forall_mem hname c hc]
    simp

end RgbNodeApi

import RgbNodeApi.NodeApi
import RgbNodeApi.Lib.Records

/-!
# Request bodies

The JSON bodies of the wallet endpoints, as their types derive `Deserialize`: the
names of their fields, the old spellings that are still accepted, the defaults and
the widths of the numbers.
-/
namespace RgbNodeApi

open Json

variable {D : Deps}

def u8Max : Nat := 0xFF
def u32Max : Nat := 0xFFFFFFFF
def i32Max : Int := 0x7FFFFFFF
def i32Min : Int := -0x80000000

abbrev u8 : Codec Nat := .uint u8Max
abbrev u32 : Codec Nat := .uint u32Max
abbrev u64 : Codec Nat := .uint u64Max
abbrev i32 : Codec Int := .sint i32Min i32Max

/-- A string or `null`. -/
abbrev optStr : Codec (Option String) := .option .str Codec.str_null

/-- A record with one field. -/
def single {α : Type} (f : NamedField α) (hd : f.keys.Nodup) : Record α where
  fields := .cons f .nil
  distinct := by simpa [Fields.names] using hd
  equiv := ⟨fun t => t.1, fun a => (a, ()), fun _ => rfl, fun _ => rfl⟩

def AssetId.record : Record String := single (.required "asset_id" .str []) (by decide)

/-- `assetId` is the pre-unification spelling. -/
def AssetBalanceReq.record : Record String :=
  single (.required "asset_id" .str ["assetId"]) (by decide)

/-- `signedPsbt` is the pre-unification spelling. -/
def Psbt.record : Record String := single (.required "signed_psbt" .str ["signedPsbt"]) (by decide)

def SendAssetEndReq.record : Record String := single (.required "signed_psbt" .str []) (by decide)

def minConfirmationsField : NamedField Nat :=
  .defaulted "min_confirmations" u8 defaultMinConfirmations
    (by simp [defaultMinConfirmations, u8Max])

def feeRateField (aliases : List String) : NamedField Nat :=
  .defaulted "fee_rate" u64 defaultFeeRate (by simp [defaultFeeRate, u64Max]) aliases

def amountsField (name : String) : NamedField (List Nat) := .required name (.list u64)

def precisionField : NamedField Nat := .defaulted "precision" u8 0 (by simp)

def flag (name : String) (aliases : List String := []) : NamedField Bool :=
  .defaulted name .bool false (Codec.bool_valid _) aliases

abbrev optU64 : Codec (Option Nat) := .option u64 (Codec.uint_null _)

def FailTransfer.record : Record FailTransfer where
  fields := .cons (.optional "batch_transfer_idx" (.option i32 (Codec.sint_null _ _))
      (Codec.valid_none _ _)) <|
    .cons (flag "no_asset_only") <| .cons (flag "skip_sync") .nil
  distinct := by decide
  equiv := ⟨fun t => ⟨t.1, t.2.1, t.2.2.1⟩,
    fun r => (r.batchTransferIdx, r.noAssetOnly, r.skipSync, ()), fun _ => rfl, fun _ => rfl⟩

def ReceiveReq.record : Record ReceiveReq where
  fields := .cons (.defaulted "asset_id" optStr none (Codec.valid_none _ _)) <|
    .cons (.defaulted "amount" optU64 none (Codec.valid_none _ _)) <|
    .cons (.defaulted "duration_seconds" (.option u32 (Codec.uint_null _)) defaultDurationSeconds
      (by simp [defaultDurationSeconds, u32Max])) <|
    .cons minConfirmationsField .nil
  distinct := by decide
  equiv := ⟨fun t => ⟨t.1, t.2.1, t.2.2.1, t.2.2.2.1⟩,
    fun r => (r.assetId, r.amount, r.durationSeconds, r.minConfirmations, ()),
    fun _ => rfl, fun _ => rfl⟩

def SendBtcReq.record : Record SendBtcReq where
  fields := .cons (.required "address" .str) <| .cons (.required "amount" u64) <|
    .cons (.required "fee_rate" u64) .nil
  distinct := by decide
  equiv := ⟨fun t => ⟨t.1, t.2.1, t.2.2.1⟩, fun r => (r.address, r.amount, r.feeRate, ()),
    fun _ => rfl, fun _ => rfl⟩

def IssueNiaReq.record : Record IssueNiaReq where
  fields := .cons (amountsField "amounts") <| .cons (.required "ticker" .str) <|
    .cons (.required "name" .str) <| .cons precisionField .nil
  distinct := by decide
  equiv := ⟨fun t => ⟨t.1, t.2.1, t.2.2.1, t.2.2.2.1⟩,
    fun r => (r.amounts, r.ticker, r.name, r.precision, ()), fun _ => rfl, fun _ => rfl⟩

def IssueIfaReq.record : Record IssueIfaReq where
  fields := .cons (.required "ticker" .str) <| .cons (.required "name" .str) <|
    .cons precisionField <| .cons (amountsField "amounts") <|
    .cons (.defaulted "inflation_amounts" (.list u64) [] (Codec.valid_nil _)) <|
    .cons (.defaulted "reject_list_url" optStr none (Codec.valid_none _ _)) .nil
  distinct := by decide
  equiv := ⟨fun t => ⟨t.1, t.2.1, t.2.2.1, t.2.2.2.1, t.2.2.2.2.1, t.2.2.2.2.2.1⟩,
    fun r => (r.ticker, r.name, r.precision, r.amounts, r.inflationAmounts, r.rejectListUrl, ()),
    fun _ => rfl, fun _ => rfl⟩

def InflateBeginReq.record : Record InflateBeginReq where
  fields := .cons (.required "asset_id" .str) <| .cons (amountsField "inflation_amounts") <|
    .cons (feeRateField []) <| .cons minConfirmationsField .nil
  distinct := by decide
  equiv := ⟨fun t => ⟨t.1, t.2.1, t.2.2.1, t.2.2.2.1⟩,
    fun r => (r.assetId, r.inflationAmounts, r.feeRate, r.minConfirmations, ()),
    fun _ => rfl, fun _ => rfl⟩

/-- `upTo` and `feeRate` are the pre-unification spellings. -/
def CreateUtxoBeginReq.record : Record CreateUtxoBeginReq where
  fields := .cons (flag "up_to" ["upTo"]) <|
    .cons (.defaulted "num" (.option u8 (Codec.uint_null _)) defaultNum
      (by simp [defaultNum, u8Max])) <|
    .cons (.defaulted "size" (.option u32 (Codec.uint_null _)) defaultSize
      (by simp [defaultSize, u32Max])) <|
    .cons (feeRateField ["feeRate"]) .nil
  distinct := by decide
  equiv := ⟨fun t => ⟨t.1, t.2.1, t.2.2.1, t.2.2.2.1⟩,
    fun r => (r.upTo, r.num, r.size, r.feeRate, ()), fun _ => rfl, fun _ => rfl⟩

def BurnBeginReq.record : Record BurnBeginReq where
  fields := .cons (.required "asset_id" .str) <| .cons (.required "amount" u64) <|
    .cons (.defaulted "burn_recipient" optStr none (Codec.valid_none _ _) ["burn_reason"]) <|
    .cons (feeRateField []) <| .cons minConfirmationsField .nil
  distinct := by decide
  equiv := ⟨fun t => ⟨t.1, t.2.1, t.2.2.1, t.2.2.2.1, t.2.2.2.2.1⟩,
    fun r => (r.assetId, r.amount, r.burnRecipient, r.feeRate, r.minConfirmations, ()),
    fun _ => rfl, fun _ => rfl⟩

def GetConsignmentReq.record : Record GetConsignmentReq where
  fields := .cons (.required "asset_id" .str) <| .cons (.required "txid" .str) .nil
  distinct := by decide
  equiv := ⟨fun t => ⟨t.1, t.2.1⟩, fun r => (r.assetId, r.txid, ()), fun _ => rfl, fun _ => rfl⟩

/-- How rgb-lib's types inside a request are read. -/
structure RgbWire (D : Deps) where
  witnessData : Codec D.WitnessData
  witnessData_null : witnessData.decode .null = none
  encryption : Codec D.Encryption
  /-- What a missing `enc` means. -/
  required : D.Encryption
  required_valid : encryption.Valid required

section

variable (W : RgbWire D)

def SendRecipient.record : Record (SendRecipient D.WitnessData D.Encryption) where
  fields := .cons (.required "recipient_id" .str) <|
    .cons (.defaulted "witness_data" (.option W.witnessData W.witnessData_null) none
      (Codec.valid_none _ _)) <|
    .cons (.required "amount" u64) <| .cons (.required "transport_endpoints" (.list .str)) <|
    .cons (.defaulted "public_key" optStr none (Codec.valid_none _ _)) <|
    .cons (.defaulted "encryption" W.encryption W.required W.required_valid) <|
    .cons (.defaulted "expiration_timestamp" optU64 none (Codec.valid_none _ _)) .nil
  distinct := show ["recipient_id", "witness_data", "amount", "transport_endpoints", "public_key",
    "encryption", "expiration_timestamp"].Nodup by decide
  equiv := ⟨fun t => ⟨t.1, t.2.1, t.2.2.1, t.2.2.2.1, t.2.2.2.2.1, t.2.2.2.2.2.1,
      t.2.2.2.2.2.2.1⟩,
    fun r => (r.recipientId, r.witnessData, r.amount, r.transportEndpoints, r.publicKey,
      r.encryption, r.expirationTimestamp, ()), fun _ => rfl, fun _ => rfl⟩

/-- The recipients of each asset, in the order they are given in. The source's map has
no order, so two bodies that differ in it alone are the same request there and two
requests here. -/
def RecipientMap.codec : Codec (RecipientMap (SendRecipient D.WitnessData D.Encryption)) :=
  (Codec.dict (.list (SendRecipient.record W).codec)).iso (fun l h => ⟨l, h.1⟩) (·.entries)
    (fun _ _ => rfl) fun _ _ => rfl

def SendBeginReq.record : Record (SendBeginReq D.WitnessData D.Encryption) where
  fields := .cons (.required "recipient_map" (RecipientMap.codec W)) <| .cons (flag "donation") <|
    .cons (feeRateField []) <| .cons minConfirmationsField <|
    .cons (.defaulted "expiration_timestamp" optU64 none (Codec.valid_none _ _)) .nil
  distinct := show ["recipient_map", "donation", "fee_rate", "min_confirmations",
    "expiration_timestamp"].Nodup by decide
  equiv := ⟨fun t => ⟨t.1, t.2.1, t.2.2.1, t.2.2.2.1, t.2.2.2.2.1⟩,
    fun r => (r.recipientMap, r.donation, r.feeRate, r.minConfirmations, r.expirationTimestamp,
      ()), fun _ => rfl, fun _ => rfl⟩

/-! ## The numbers of a request -/

def FailTransfer.InRange (r : FailTransfer) : Prop :=
  ∀ i ∈ r.batchTransferIdx, i32Min ≤ i ∧ i ≤ i32Max

def ReceiveReq.InRange (r : ReceiveReq) : Prop :=
  (∀ n ∈ r.amount, n ≤ u64Max) ∧ (∀ n ∈ r.durationSeconds, n ≤ u32Max) ∧
    r.minConfirmations ≤ u8Max

def SendBtcReq.InRange (r : SendBtcReq) : Prop := r.amount ≤ u64Max ∧ r.feeRate ≤ u64Max

def IssueNiaReq.InRange (r : IssueNiaReq) : Prop :=
  (∀ n ∈ r.amounts, n ≤ u64Max) ∧ r.precision ≤ u8Max

def IssueIfaReq.InRange (r : IssueIfaReq) : Prop :=
  r.precision ≤ u8Max ∧ (∀ n ∈ r.amounts, n ≤ u64Max) ∧ ∀ n ∈ r.inflationAmounts, n ≤ u64Max

def InflateBeginReq.InRange (r : InflateBeginReq) : Prop :=
  (∀ n ∈ r.inflationAmounts, n ≤ u64Max) ∧ r.feeRate ≤ u64Max ∧ r.minConfirmations ≤ u8Max

def CreateUtxoBeginReq.InRange (r : CreateUtxoBeginReq) : Prop :=
  (∀ n ∈ r.num, n ≤ u8Max) ∧ (∀ n ∈ r.size, n ≤ u32Max) ∧ r.feeRate ≤ u64Max

def BurnBeginReq.InRange (r : BurnBeginReq) : Prop :=
  r.amount ≤ u64Max ∧ r.feeRate ≤ u64Max ∧ r.minConfirmations ≤ u8Max

structure SendRecipient.InRange (r : SendRecipient D.WitnessData D.Encryption) : Prop where
  witnessData : ∀ w ∈ r.witnessData, W.witnessData.Valid w
  amount : r.amount ≤ u64Max
  encryption : W.encryption.Valid r.encryption
  expirationTimestamp : ∀ n ∈ r.expirationTimestamp, n ≤ u64Max

structure SendBeginReq.InRange (r : SendBeginReq D.WitnessData D.Encryption) : Prop where
  recipientMap : ∀ e ∈ r.recipientMap.entries, ∀ x ∈ e.2, SendRecipient.InRange W x
  feeRate : r.feeRate ≤ u64Max
  minConfirmations : r.minConfirmations ≤ u8Max
  expirationTimestamp : ∀ n ∈ r.expirationTimestamp, n ≤ u64Max

@[simp] theorem FailTransfer.valid_iff (r : FailTransfer) :
    FailTransfer.record.codec.Valid r ↔ r.InRange := by
  simp [Record.valid_iff, FailTransfer.record, flag, FailTransfer.InRange]

@[simp] theorem ReceiveReq.valid_iff (r : ReceiveReq) :
    ReceiveReq.record.codec.Valid r ↔ r.InRange := by
  simp [Record.valid_iff, ReceiveReq.record, minConfirmationsField, ReceiveReq.InRange]

@[simp] theorem SendBtcReq.valid_iff (r : SendBtcReq) :
    SendBtcReq.record.codec.Valid r ↔ r.InRange := by
  simp [Record.valid_iff, SendBtcReq.record, SendBtcReq.InRange]

@[simp] theorem IssueNiaReq.valid_iff (r : IssueNiaReq) :
    IssueNiaReq.record.codec.Valid r ↔ r.InRange := by
  simp [Record.valid_iff, IssueNiaReq.record, amountsField, precisionField, IssueNiaReq.InRange]

@[simp] theorem IssueIfaReq.valid_iff (r : IssueIfaReq) :
    IssueIfaReq.record.codec.Valid r ↔ r.InRange := by
  simp [Record.valid_iff, IssueIfaReq.record, amountsField, precisionField, IssueIfaReq.InRange]

@[simp] theorem InflateBeginReq.valid_iff (r : InflateBeginReq) :
    InflateBeginReq.record.codec.Valid r ↔ r.InRange := by
  simp [Record.valid_iff, InflateBeginReq.record, amountsField, feeRateField,
    minConfirmationsField, InflateBeginReq.InRange]

@[simp] theorem CreateUtxoBeginReq.valid_iff (r : CreateUtxoBeginReq) :
    CreateUtxoBeginReq.record.codec.Valid r ↔ r.InRange := by
  simp [Record.valid_iff, CreateUtxoBeginReq.record, flag, feeRateField,
    CreateUtxoBeginReq.InRange]

@[simp] theorem BurnBeginReq.valid_iff (r : BurnBeginReq) :
    BurnBeginReq.record.codec.Valid r ↔ r.InRange := by
  simp [Record.valid_iff, BurnBeginReq.record, feeRateField, minConfirmationsField,
    BurnBeginReq.InRange]

theorem SendRecipient.valid_iff (r : SendRecipient D.WitnessData D.Encryption) :
    (SendRecipient.record W).codec.Valid r ↔ SendRecipient.InRange W r := by
  have hfields : (SendRecipient.record W).codec.Valid r ↔
      (∀ w ∈ r.witnessData, W.witnessData.Valid w) ∧ r.amount ≤ u64Max ∧
        W.encryption.Valid r.encryption ∧ ∀ n ∈ r.expirationTimestamp, n ≤ u64Max := by
    simp [Record.valid_iff, SendRecipient.record]
  rw [hfields]
  exact ⟨fun ⟨hw, ha, he, hx⟩ => ⟨hw, ha, he, hx⟩, fun ⟨hw, ha, he, hx⟩ => ⟨hw, ha, he, hx⟩⟩

theorem RecipientMap.valid_iff (m : RecipientMap (SendRecipient D.WitnessData D.Encryption)) :
    (RecipientMap.codec W).Valid m ↔ ∀ e ∈ m.entries, ∀ x ∈ e.2, SendRecipient.InRange W x := by
  have hentries : (RecipientMap.codec W).Valid m ↔ (m.entries.map Prod.fst).Nodup ∧
      ∀ e ∈ m.entries, ∀ x ∈ e.2, (SendRecipient.record W).codec.Valid x := .rfl
  simp only [hentries, m.distinct, true_and, SendRecipient.valid_iff]

@[simp] theorem SendBeginReq.valid_iff (r : SendBeginReq D.WitnessData D.Encryption) :
    (SendBeginReq.record W).codec.Valid r ↔ SendBeginReq.InRange W r := by
  have hfields : (SendBeginReq.record W).codec.Valid r ↔
      (RecipientMap.codec W).Valid r.recipientMap ∧ r.feeRate ≤ u64Max ∧
        r.minConfirmations ≤ u8Max ∧ ∀ n ∈ r.expirationTimestamp, n ≤ u64Max := by
    simp [Record.valid_iff, SendBeginReq.record, flag, feeRateField, minConfirmationsField]
  rw [hfields, RecipientMap.valid_iff]
  exact ⟨fun ⟨hm, hf, hc, hx⟩ => ⟨hm, hf, hc, hx⟩, fun ⟨hm, hf, hc, hx⟩ => ⟨hm, hf, hc, hx⟩⟩

end

end RgbNodeApi

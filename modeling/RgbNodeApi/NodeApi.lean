import RgbNodeApi.Context

/-!
# The HTTP handlers

The wallet endpoints of the API. A request is authenticated by three headers
alone; every handler but `drop` registers the wallet they name before it works
on it. Bodies are decoded before a handler runs.
-/
namespace RgbNodeApi

open Files Actor

variable {D : Deps}

/-- The values of the three headers, where they are present. -/
structure Headers where
  xpubVan : Option Bytes
  xpubCol : Option Bytes
  masterFingerprint : Option Bytes
  deriving DecidableEq, Repr

def isVisibleAscii (b : UInt8) : Bool := (32 ≤ b && b < 127) || b == 9

/-- A header value is text when all its bytes are visible ASCII. -/
def headerToStr (value : Bytes) : Option String :=
  if value.all isVisibleAscii then some (String.ofList (value.map fun b => Char.ofNat b.toNat))
  else none

def XWalletKey.fromRequest (headers : Headers) : Except ApiError XWalletKey :=
  match headers.xpubCol.bind headerToStr, headers.xpubVan.bind headerToStr,
    headers.masterFingerprint.bind headerToStr with
  | some col, some van, some mf => .ok ⟨col, van, mf⟩
  | _, _, _ => .error (errorWith StatusCode.unauthorized .accessDenied
      "missing xpub-van/xpub-col/master-fingerprint header")

/-- A text as a client sends it. -/
def headerValue (s : String) : Bytes := s.toList.map fun c => c.toNat.toUInt8

def XWalletKey.headers (key : XWalletKey) : Headers :=
  ⟨some (headerValue key.xpubVan), some (headerValue key.xpubCol),
    some (headerValue key.masterFingerprint)⟩

def isPrintable (s : String) : Bool := s.toList.all fun c => 32 ≤ c.toNat && c.toNat < 127

/-- Printable text arrives unchanged. -/
theorem headerToStr_headerValue {s : String} (h : isPrintable s = true) :
    headerToStr (headerValue s) = some s := by
  have hchar : ∀ c ∈ s.toList, 32 ≤ c.toNat ∧ c.toNat < 127 := by
    intro c hc
    simpa using List.all_eq_true.mp h c hc
  have hbyte : ∀ c ∈ s.toList, c.toNat.toUInt8.toNat = c.toNat := by
    intro c hc
    have hlt := (hchar c hc).2
    simp only [Nat.toUInt8, UInt8.toNat_ofNat']
    omega
  have hall : (headerValue s).all isVisibleAscii = true := by
    rw [headerValue, List.all_map, List.all_eq_true]
    intro c hc
    have hlow := (hchar c hc).1
    have hhigh := (hchar c hc).2
    have heq := hbyte c hc
    simp only [Function.comp, isVisibleAscii, Bool.or_eq_true, Bool.and_eq_true, decide_eq_true_eq,
      UInt8.le_iff_toNat_le, UInt8.lt_iff_toNat_lt, heq]
    exact .inl ⟨hlow, hhigh⟩
  have hmap : (headerValue s).map (fun b => Char.ofNat b.toNat) = s.toList := by
    rw [headerValue, List.map_map]
    have hid : ∀ c ∈ s.toList, ((fun b : UInt8 => Char.ofNat b.toNat) ∘
        fun c : Char => c.toNat.toUInt8) c = id c := by
      intro c hc
      simp only [Function.comp, hbyte c hc, Char.ofNat_toNat, id]
    rw [List.map_congr_left hid, List.map_id]
  rw [headerToStr, if_pos hall, hmap, String.ofList_toList]

/-- The headers of a key are read back as the key. -/
theorem fromRequest_headers {key : XWalletKey} (hcol : isPrintable key.xpubCol = true)
    (hvan : isPrintable key.xpubVan = true) (hmf : isPrintable key.masterFingerprint = true) :
    XWalletKey.fromRequest key.headers = .ok key := by
  simp [XWalletKey.fromRequest, XWalletKey.headers, headerToStr_headerValue hcol,
    headerToStr_headerValue hvan, headerToStr_headerValue hmf]

abbrev Api (D : Deps) := ExceptT ApiError (Async D)

/-- `.await.map_err(map_rgb_error)` -/
def mapErr {α : Type} (m : Async D (RResult α)) : Api D α :=
  ExceptT.mk do
    let res ← m
    pure (res.mapError (mapRgbError D.isAlphanumeric D.debug D.display))

def deriveWctx (ctx : WalletCtx) (walletKey : XWalletKey) : Api D WalletCtx :=
  mapErr (ctx.forRoWallet walletKey.xpubCol walletKey.xpubVan walletKey.masterFingerprint)

/-- What the handlers share: register the wallet, run one method on it, and make
the answer from its value. -/
def withWallet {α β : Type} (ctx : WalletCtx) (walletKey : XWalletKey)
    (op : WalletCtx → Async D (RResult α)) (f : α → β) : Api D β := do
  let ctx ← deriveWctx ctx walletKey
  let res ← mapErr (op ctx)
  pure (f res)

structure RegisterRes (BtcBalance : Type) where
  address : String
  btcBalance : BtcBalance

structure FailTransfer where
  batchTransferIdx : Option Int
  noAssetOnly : Bool := false
  skipSync : Bool := false
  deriving DecidableEq, Repr

structure SendResult where
  txid : String
  batchTransferIdx : Int
  deriving DecidableEq, Repr

structure PsbtRes where
  psbt : String
  deriving DecidableEq, Repr

structure CreateUtxosRes where
  created : Nat
  deriving DecidableEq, Repr

structure SendBtcRes where
  txid : String
  deriving DecidableEq, Repr

structure FailTransferRes where
  changed : Bool
  deriving DecidableEq, Repr

structure EmptyRes where
  deriving DecidableEq, Repr

def OperationResult.toSendResult (res : OperationResult) : SendResult :=
  ⟨res.txid, res.batchTransferIdx⟩

namespace NodeApi

variable (ctx : WalletCtx) (walletKey : XWalletKey)

/-- The only handler with two commands after the registration. -/
def register : Api D (RegisterRes D.BtcBalance) := do
  let ctx ← deriveWctx ctx walletKey
  let address ← mapErr ctx.address
  let btcBalance ← mapErr ctx.balanceBtc
  pure ⟨address.address, btcBalance⟩

def address : Api D AddressRes := withWallet ctx walletKey (·.address) id

def btcBalance : Api D D.BtcBalance := withWallet ctx walletKey (·.balanceBtc) id

def assetBalance (assetId : String) : Api D D.Balance :=
  withWallet ctx walletKey (·.balanceToken assetId) id

def listUnspents : Api D (List D.Unspent) := withWallet ctx walletKey (·.listUnspends) id

def listAssets : Api D D.Assets := withWallet ctx walletKey (·.assets) id

def listTransfers (assetId : String) : Api D (List D.Transfer) :=
  withWallet ctx walletKey (·.transfersByAsset assetId) id

def listTransactions : Api D (List D.Transaction) := withWallet ctx walletKey (·.transactions) id

def failTransfers (req : FailTransfer) : Api D FailTransferRes :=
  withWallet ctx walletKey
    (·.failTransfer req.batchTransferIdx req.noAssetOnly req.skipSync) FailTransferRes.mk

def createUtxosBegin (req : CreateUtxoBeginReq) : Api D PsbtRes :=
  withWallet ctx walletKey (·.createUtxoBegin req) PsbtRes.mk

def createUtxosEnd (signedPsbt : String) : Api D CreateUtxosRes :=
  withWallet ctx walletKey (·.createUtxoEnd signedPsbt) CreateUtxosRes.mk

def issueNia (req : IssueNiaReq) : Api D D.AssetNIA :=
  withWallet ctx walletKey (·.issueNiaToken req) id

def issueIfa (req : IssueIfaReq) : Api D D.AssetIFA :=
  withWallet ctx walletKey (·.issueIfaToken req) id

def inflateBegin (req : InflateBeginReq) : Api D PsbtRes :=
  withWallet ctx walletKey (·.inflateBegin req) PsbtRes.mk

def inflateEnd (signedPsbt : String) : Api D SendResult :=
  withWallet ctx walletKey (·.inflateEnd signedPsbt) OperationResult.toSendResult

def sendBegin (req : SendBeginReq D.WitnessData D.Encryption) : Api D PsbtRes :=
  withWallet ctx walletKey (·.sendBegin req) PsbtRes.mk

def sendEnd (signedPsbt : String) : Api D SendResult :=
  withWallet ctx walletKey (·.sendEnd signedPsbt) OperationResult.toSendResult

def burnBegin (req : BurnBeginReq) : Api D PsbtRes :=
  withWallet ctx walletKey (·.burnBegin req) PsbtRes.mk

def burnEnd (signedPsbt : String) : Api D SendResult :=
  withWallet ctx walletKey (·.burnEnd signedPsbt) OperationResult.toSendResult

def getConsignment (req : GetConsignmentReq) : Api D GetConsignmentRes :=
  withWallet ctx walletKey (·.getConsignment req) id

def blindReceive (req : ReceiveReq) : Api D D.ReceiveData :=
  withWallet ctx walletKey (·.receiveToken .blind req) id

def witnessReceive (req : ReceiveReq) : Api D D.ReceiveData :=
  withWallet ctx walletKey (·.receiveToken .witness req) id

def sendBtcBegin (req : SendBtcReq) : Api D PsbtRes :=
  withWallet ctx walletKey (·.sendBtcBegin req) PsbtRes.mk

def sendBtcEnd (signedPsbt : String) : Api D SendBtcRes :=
  withWallet ctx walletKey (·.sendBtcEnd signedPsbt) SendBtcRes.mk

def refresh : Api D EmptyRes := withWallet ctx walletKey (·.refreshWallet) fun _ => ⟨⟩

/-- Remove the wallet from memory without re-registering it first. -/
def drop : Api D EmptyRes := do
  let _ ← mapErr (ctx.withId walletKey.masterFingerprint).dropWallet
  pure ⟨⟩

end NodeApi

/-- The wallet endpoints, with their decoded bodies. -/
inductive Endpoint (D : Deps) where
  | register | address | btcBalance
  | assetBalance (assetId : String)
  | listUnspents | listAssets
  | listTransfers (assetId : String)
  | listTransactions
  | failTransfers (req : FailTransfer)
  | createUtxosBegin (req : CreateUtxoBeginReq)
  | createUtxosEnd (signedPsbt : String)
  | issueNia (req : IssueNiaReq)
  | issueIfa (req : IssueIfaReq)
  | inflateBegin (req : InflateBeginReq)
  | inflateEnd (signedPsbt : String)
  | sendBegin (req : SendBeginReq D.WitnessData D.Encryption)
  | sendEnd (signedPsbt : String)
  | burnBegin (req : BurnBeginReq)
  | burnEnd (signedPsbt : String)
  | getConsignment (req : GetConsignmentReq)
  | blindReceive (req : ReceiveReq)
  | witnessReceive (req : ReceiveReq)
  | sendBtcBegin (req : SendBtcReq)
  | sendBtcEnd (signedPsbt : String)
  | refresh | drop

/-- The JSON bodies of successful answers. -/
inductive Body (D : Deps) where
  | register (res : RegisterRes D.BtcBalance)
  | address (res : AddressRes)
  | btcBalance (res : D.BtcBalance)
  | balance (res : D.Balance)
  | unspents (res : List D.Unspent)
  | assets (res : D.Assets)
  | transfers (res : List D.Transfer)
  | transactions (res : List D.Transaction)
  | failTransfer (res : FailTransferRes)
  | psbt (res : PsbtRes)
  | createUtxos (res : CreateUtxosRes)
  | nia (res : D.AssetNIA)
  | ifa (res : D.AssetIFA)
  | send (res : SendResult)
  | consignment (res : GetConsignmentRes)
  | receiveData (res : D.ReceiveData)
  | sendBtc (res : SendBtcRes)
  | empty (res : EmptyRes)

/-- The route of an endpoint. -/
def Endpoint.handler (ctx : WalletCtx) (key : XWalletKey) : Endpoint D → Api D (Body D)
  | .register => .register <$> NodeApi.register ctx key
  | .address => .address <$> NodeApi.address ctx key
  | .btcBalance => .btcBalance <$> NodeApi.btcBalance ctx key
  | .assetBalance assetId => .balance <$> NodeApi.assetBalance ctx key assetId
  | .listUnspents => .unspents <$> NodeApi.listUnspents ctx key
  | .listAssets => .assets <$> NodeApi.listAssets ctx key
  | .listTransfers assetId => .transfers <$> NodeApi.listTransfers ctx key assetId
  | .listTransactions => .transactions <$> NodeApi.listTransactions ctx key
  | .failTransfers req => .failTransfer <$> NodeApi.failTransfers ctx key req
  | .createUtxosBegin req => .psbt <$> NodeApi.createUtxosBegin ctx key req
  | .createUtxosEnd psbt => .createUtxos <$> NodeApi.createUtxosEnd ctx key psbt
  | .issueNia req => .nia <$> NodeApi.issueNia ctx key req
  | .issueIfa req => .ifa <$> NodeApi.issueIfa ctx key req
  | .inflateBegin req => .psbt <$> NodeApi.inflateBegin ctx key req
  | .inflateEnd psbt => .send <$> NodeApi.inflateEnd ctx key psbt
  | .sendBegin req => .psbt <$> NodeApi.sendBegin ctx key req
  | .sendEnd psbt => .send <$> NodeApi.sendEnd ctx key psbt
  | .burnBegin req => .psbt <$> NodeApi.burnBegin ctx key req
  | .burnEnd psbt => .send <$> NodeApi.burnEnd ctx key psbt
  | .getConsignment req => .consignment <$> NodeApi.getConsignment ctx key req
  | .blindReceive req => .receiveData <$> NodeApi.blindReceive ctx key req
  | .witnessReceive req => .receiveData <$> NodeApi.witnessReceive ctx key req
  | .sendBtcBegin req => .psbt <$> NodeApi.sendBtcBegin ctx key req
  | .sendBtcEnd psbt => .sendBtc <$> NodeApi.sendBtcEnd ctx key psbt
  | .refresh => .empty <$> NodeApi.refresh ctx key
  | .drop => .empty <$> NodeApi.drop ctx key

def Endpoint.isDrop : Endpoint D → Bool
  | .drop => true
  | _ => false

structure HttpRequest (D : Deps) where
  headers : Headers
  endpoint : Endpoint D

/-- Headers are read before the handler runs. -/
def HttpRequest.serve (ctx : WalletCtx) (req : HttpRequest D) : Api D (Body D) :=
  match XWalletKey.fromRequest req.headers with
  | .error e => throw e
  | .ok key => req.endpoint.handler ctx key

/-! ## What a handler sends -/

/-- The endpoints that send wallet commands: a send whose deadline is never
accepted does not get that far. -/
def Endpoint.Works : Endpoint D → Prop
  | .drop => False
  | .sendBegin req => ∃ now e, req.expiration now = .ok e
  | _ => True

theorem Endpoint.Works.not_drop {e : Endpoint D} (h : e.Works) : e.isDrop = false := by
  cases e <;> first | rfl | cases h

theorem Endpoint.eq_drop {e : Endpoint D} (h : e.isDrop = true) : e = .drop := by
  cases e <;> first | rfl | cases h

/-- Everything that is sent is a wallet command addressed to this fingerprint, and
where something is sent `W` holds. -/
def Routed {β : Type} (W : Prop) (fp : String) : Async D β → Prop
  | .ret _ => True
  | .clock k => ∀ now, Routed W fp (k now)
  | .ask r k => W ∧ r.ido = some fp ∧ r.cmd.isRouted = true ∧ ∀ x, Routed W fp (k x)

section

variable {W : Prop} {fp : String}

theorem Routed.bind {β γ : Type} {p : Async D β} {f : β → Async D γ}
    (hp : Routed W fp p) (hf : ∀ b, Routed W fp (f b)) : Routed W fp (p >>= f) := by
  induction p with
  | ret b => exact hf b
  | clock k ih => exact fun now => ih now (hp now)
  | ask r k ih => exact ⟨hp.1, hp.2.1, hp.2.2.1, fun x => ih x (hp.2.2.2 x)⟩

/-- Handlers stop at the first error. -/
theorem Routed.andThen {β γ : Type} {m : Api D β} {f : β → Api D γ}
    (hm : Routed W fp m.run) (hf : ∀ b, Routed W fp (f b).run) : Routed W fp (m >>= f).run := by
  apply Routed.bind hm
  intro res
  cases res with
  | error e => trivial
  | ok b => exact hf b

theorem Routed.mapErr {α : Type} {m : Async D (RResult α)} (h : Routed W fp m) :
    Routed W fp (mapErr m).run :=
  h.bind fun _ => trivial

theorem Routed.map {α β : Type} {m : Api D α} (h : Routed W fp m.run) (f : α → β) :
    Routed W fp (f <$> m).run := by
  apply Routed.bind h
  intro res
  cases res <;> trivial

theorem routed_sendCmd (ctx : WalletCtx) (hid : ctx.id = some fp) (hW : W) {p : Payload}
    (cmd : WalletCmd D (some p)) (h : cmd.isRouted = true) : Routed W fp (ctx.sendCmd cmd) := by
  refine ⟨hW, hid, h, fun x => ?_⟩
  cases x <;> trivial

end

theorem routed_sendBegin (ctx : WalletCtx) {fp : String} (hid : ctx.id = some fp)
    (req : SendBeginReq D.WitnessData D.Encryption) :
    Routed (Endpoint.Works (.sendBegin req)) fp (ctx.sendBegin req) := by
  intro now
  simp only
  split
  · trivial
  · rename_i e he
    exact routed_sendCmd ctx hid ⟨now, e, he⟩ (.sendBegin req) rfl

/-- The program can come to a wallet command addressed to this fingerprint. -/
inductive Asks {β : Type} (fp : String) : Async D β → Prop
  | ask (r : Request D) (k : Option (Answer D r.T) → Async D β) (hido : r.ido = some fp)
      (hr : r.cmd.isRouted = true) : Asks fp (.ask r k)
  | clock (k : SystemTime → Async D β) (now : SystemTime) (h : Asks fp (k now)) :
      Asks fp (.clock k)

theorem Asks.bind {β γ : Type} {fp : String} {p : Async D β} (h : Asks fp p)
    (f : β → Async D γ) : Asks fp (p >>= f) := by
  induction h with
  | ask r k hido hr => exact .ask r _ hido hr
  | clock k now _ ih => exact .clock _ now ih

theorem asks_sendCmd (ctx : WalletCtx) {fp : String} (hid : ctx.id = some fp) {p : Payload}
    (cmd : WalletCmd D (some p)) (h : cmd.isRouted = true) : Asks fp (ctx.sendCmd cmd) :=
  .ask _ _ hid h

theorem asks_sendBegin (ctx : WalletCtx) {fp : String} (hid : ctx.id = some fp)
    (req : SendBeginReq D.WitnessData D.Encryption) (h : Endpoint.Works (.sendBegin req)) :
    Asks fp (ctx.sendBegin req) := by
  obtain ⟨now, e, he⟩ := h
  apply Asks.clock _ now
  simp only [he]
  exact asks_sendCmd ctx hid (.sendBegin req) rfl

/-- What a request does once its wallet is registered. -/
structure Operates {β : Type} (W : Prop) (fp : String) (p : Async D β) : Prop where
  routed : Routed W fp p
  asks : W → Asks fp p

theorem Operates.andThen {β γ : Type} {W : Prop} {fp : String} {m : Api D β} {f : β → Api D γ}
    (hm : Operates W fp m.run) (hf : ∀ b, Routed W fp (f b).run) :
    Operates W fp (m >>= f).run :=
  ⟨hm.routed.andThen hf, fun h => (hm.asks h).bind _⟩

theorem Operates.mapErr {α : Type} {W : Prop} {fp : String} {m : Async D (RResult α)}
    (h : Operates W fp m) : Operates W fp (mapErr m).run :=
  ⟨h.routed.mapErr, fun hw => (h.asks hw).bind _⟩

theorem Operates.map {α β : Type} {W : Prop} {fp : String} {m : Api D α}
    (h : Operates W fp m.run) (f : α → β) : Operates W fp (f <$> m).run :=
  ⟨h.routed.map f, fun hw => (h.asks hw).bind _⟩

theorem operates_sendCmd (ctx : WalletCtx) {fp : String} (hid : ctx.id = some fp) {p : Payload}
    (cmd : WalletCmd D (some p)) (h : cmd.isRouted = true) :
    Operates True fp (ctx.sendCmd cmd) :=
  ⟨routed_sendCmd ctx hid trivial cmd h, fun _ => asks_sendCmd ctx hid cmd h⟩

/-- The registration of a wallet, which is sent without an id. -/
def registration (key : XWalletKey) : Request D :=
  ⟨none, some .bool, .addReadOnlyWallet key.xpubCol key.xpubVan key.masterFingerprint⟩

/-- The removal of a wallet. -/
def removal (fp : String) : Request D := ⟨some fp, some .unit, .dropWallet⟩

def Quiet {β : Type} (p : Async D β) : Prop := ∃ b, p = .ret b

/-- A program that registers a wallet, and works on it when that succeeds. -/
def Registers {β : Type} (W : Prop) (key : XWalletKey) (p : Async D β) : Prop :=
  ∃ k : Option (RResult Bool) → Async D β, p = .ask (registration key) k ∧ Quiet (k none) ∧
    (∀ err, Quiet (k (some (.error err)))) ∧
    ∀ b, Operates W key.masterFingerprint (k (some (.ok b)))

/-- A program that removes a wallet and does nothing else. -/
def Removes {β : Type} (fp : String) (p : Async D β) : Prop :=
  ∃ k : Option (RResult Unit) → Async D β, p = .ask (removal fp) k ∧ ∀ x, Quiet (k x)

theorem Registers.map {α β : Type} {W : Prop} {key : XWalletKey} {m : Api D α}
    (h : Registers W key m.run) (f : α → β) : Registers W key (f <$> m).run := by
  obtain ⟨k, hm, ⟨b, hn⟩, he, hok⟩ := h
  refine ⟨fun x => (f <$> ExceptT.mk (k x)).run, ?_, ?_, fun err => ?_, fun b => ?_⟩
  · change (f <$> ExceptT.mk m.run).run = _
    rw [hm]
    rfl
  · simp only [hn]
    cases b <;> exact ⟨_, rfl⟩
  · obtain ⟨b', hb'⟩ := he err
    simp only [hb']
    cases b' <;> exact ⟨_, rfl⟩
  · exact Operates.map (hok b) f

theorem registers_andThen {β : Type} {W : Prop} (key : XWalletKey) (f : WalletCtx → Api D β)
    (hf : ∀ ctx : WalletCtx, ctx.id = some key.masterFingerprint →
      Operates W key.masterFingerprint (f ctx).run) :
    Registers W key (deriveWctx .new key >>= f).run := by
  refine ⟨_, rfl, ⟨_, rfl⟩, fun err => ⟨_, rfl⟩, fun b => ?_⟩
  exact hf _ rfl

theorem registers_withWallet {α β : Type} {W : Prop} (key : XWalletKey)
    (op : WalletCtx → Async D (RResult α)) (f : α → β)
    (hop : ∀ ctx : WalletCtx, ctx.id = some key.masterFingerprint →
      Operates W key.masterFingerprint (op ctx)) :
    Registers W key (withWallet .new key op f).run :=
  registers_andThen key _ fun ctx hid => (hop ctx hid).mapErr.andThen fun _ => trivial

theorem registers_register (key : XWalletKey) :
    Registers (D := D) True key (NodeApi.register .new key).run := by
  apply registers_andThen key _
  intro ctx hid
  refine (Operates.mapErr (operates_sendCmd ctx hid _ rfl)).andThen fun address => ?_
  exact (Routed.mapErr (routed_sendCmd ctx hid trivial _ rfl)).andThen fun _ => trivial

/-- Every endpoint but `drop` registers the wallet of its headers first. -/
theorem Endpoint.registers (key : XWalletKey) (e : Endpoint D) (h : e.isDrop = false) :
    Registers e.Works key (e.handler .new key).run := by
  cases e with
  | drop => cases h
  | register => exact (registers_register key).map _
  | sendBegin req =>
    refine (registers_withWallet key _ _ fun ctx hid => ?_).map _
    exact ⟨routed_sendBegin ctx hid req, asks_sendBegin ctx hid req⟩
  | _ =>
    refine (registers_withWallet key _ _ fun ctx hid => ?_).map _
    exact operates_sendCmd ctx hid _ rfl

theorem removes_drop (key : XWalletKey) :
    Removes key.masterFingerprint (Endpoint.handler (D := D) .new key .drop).run := by
  refine ⟨_, rfl, fun x => ?_⟩
  obtain _ | _ | _ := x <;> exact ⟨_, rfl⟩

end RgbNodeApi

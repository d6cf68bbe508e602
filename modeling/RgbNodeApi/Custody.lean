import RgbNodeApi.KeyHolder
import RgbNodeApi.Isolation
import RgbNodeApi.Expiration
import RgbNodeApi.Startup
import RgbNodeApi.Intake

/-!
# Wallets in custody

How the service uses rgb-lib. The calls on a wallet are made with the token that
the wallet got when it went online, with the configured proxies and the deadlines
of the service, so whatever such calls keep true of a wallet stays true of every
wallet in every run.
-/
namespace RgbNodeApi

open Files Footprint Actor

variable {D : Deps}

/-- The proxies of an invoice: each once, in order. -/
def Config.proxyHost (cfg : Config) : List String := (Std.TreeSet.ofList cfg.proxyAddress).toList

/-- The calls that are made on the wallet of fingerprint `f` with this token. -/
def Call.Own {T : RgbTypes} (wt : WalletThread) (f : String) (online : T.Online) :
    {α : Type} → Call T α → Prop
  | _, .backup path _ => path = wt.tempDir.join (backupFilename f)
  | _, .failTransfers token _ _ _ => token = online
  | _, .listTransactions token skipSync => token = some online ∧ skipSync = false
  | _, .listUnspents token settledOnly skipSync =>
    token = some online ∧ settledOnly = false ∧ skipSync = false
  | _, .getBtcBalance token skipSync => token = some online ∧ skipSync = false
  | _, .blindReceive token _ _ expirationTimestamp transportEndpoints _ =>
    token = some online ∧ expirationTimestamp ≤ u64Max ∧ transportEndpoints = wt.cfg.proxyHost
  | _, .witnessReceive token _ _ expirationTimestamp transportEndpoints _ =>
    token = some online ∧ expirationTimestamp ≤ u64Max ∧ transportEndpoints = wt.cfg.proxyHost
  | _, .createUtxosBegin token _ _ _ _ skipSync dryRun =>
    token = online ∧ skipSync = false ∧ dryRun = false
  | _, .createUtxosEnd token _ => token = online
  | _, .sendBegin token _ _ _ _ expirationTimestamp senderProxy dryRun =>
    token = online ∧ expirationTimestamp ≤ i64Max ∧
      senderProxy = wt.cfg.proxyAddress.head? ∧ dryRun = false
  | _, .sendEnd token _ => token = online
  | _, .burnBegin token _ _ _ _ _ dryRun => token = online ∧ dryRun = false
  | _, .burnEnd token _ => token = online
  | _, .sendBtcBegin token _ _ _ skipSync dryRun =>
    token = online ∧ skipSync = false ∧ dryRun = false
  | _, .sendBtcEnd token _ => token = online
  | _, .inflateBegin token _ _ _ _ dryRun => token = online ∧ dryRun = false
  | _, .inflateEnd token _ => token = online
  | _, .refresh token assetId skipSync => token = online ∧ assetId = none ∧ skipSync = false
  | _, _ => True

def Assignment.InRange : Assignment → Prop
  | .fungible amount => amount ≤ u64Max
  | .any => True

structure Recipient.InRange (W : RgbWire D) (r : Recipient D.WitnessData D.Encryption) : Prop where
  witnessData : ∀ w ∈ r.witnessData, W.witnessData.Valid w
  assignment : r.assignment.InRange
  encryption : W.encryption.Valid r.encryption
  expirationTimestamp : ∀ n ∈ r.expirationTimestamp, n ≤ u64Max

/-- The numbers that a request gives to a call fit their types. -/
def Call.InRange (W : RgbWire D) : {α : Type} → Call D.toRgbTypes α → Prop
  | _, .failTransfers _ batchTransferIdx _ _ =>
    ∀ i ∈ batchTransferIdx, i32Min ≤ i ∧ i ≤ i32Max
  | _, .blindReceive _ _ assignment _ _ minConfirmations =>
    assignment.InRange ∧ minConfirmations ≤ u8Max
  | _, .witnessReceive _ _ assignment _ _ minConfirmations =>
    assignment.InRange ∧ minConfirmations ≤ u8Max
  | _, .createUtxosBegin _ _ num size feeRate _ _ =>
    (∀ n ∈ num, n ≤ u8Max) ∧ (∀ n ∈ size, n ≤ u32Max) ∧ feeRate ≤ u64Max
  | _, .sendBegin _ recipientMap _ feeRate minConfirmations _ _ _ =>
    (∀ e ∈ recipientMap, ∀ r ∈ e.2, Recipient.InRange W r) ∧ feeRate ≤ u64Max ∧
      minConfirmations ≤ u8Max
  | _, .burnBegin _ _ amount _ feeRate minConfirmations _ =>
    amount ≤ u64Max ∧ feeRate ≤ u64Max ∧ minConfirmations ≤ u8Max
  | _, .sendBtcBegin _ _ amount feeRate _ _ => amount ≤ u64Max ∧ feeRate ≤ u64Max
  | _, .issueAssetNia _ _ precision amounts =>
    (∀ n ∈ amounts, n ≤ u64Max) ∧ precision ≤ u8Max
  | _, .issueAssetIfa _ _ precision amounts inflationAmounts _ =>
    precision ≤ u8Max ∧ (∀ n ∈ amounts, n ≤ u64Max) ∧ ∀ n ∈ inflationAmounts, n ≤ u64Max
  | _, .inflateBegin _ _ inflationAmounts feeRate minConfirmations _ =>
    (∀ n ∈ inflationAmounts, n ≤ u64Max) ∧ feeRate ≤ u64Max ∧ minConfirmations ≤ u8Max
  | _, _ => True

/-- `I` holds of a wallet and its token when it goes online, and the calls that are
made on it keep `I`; `made` holds of the wallets that are not online yet. -/
structure Custody (D : Deps) (W : RgbWire D) (wt : WalletThread)
    (made : XWalletKey → D.Wallet → Prop)
    (I : XWalletKey → D.Online → D.Wallet → Prop) : Prop where
  newWallet : ∀ net key schemas, wt.cfg.supportedSchemas = .ok schemas →
    Returns (fun r => ∀ w, r = .ok w → made key w)
      (D.newWallet net (walletData wt.cfg schemas) (walletKeys key))
  goOnline : ∀ key net indexer w, made key w →
    (indexer = .electrum wt.cfg.indexerAddress ∨ indexer = .esplora wt.cfg.indexerAddress) →
    Returns (fun r => ∀ online w', r = .ok (online, w') → I key online w')
      (D.goOnline net (onlineOptions indexer wt.cfg.evmRpcUrls) w)
  call : ∀ key online net {α : Type} (c : Call D.toRgbTypes α),
    c.Own wt key.masterFingerprint online → c.InRange W →
      Preserves (fun s => I key online s.1) (D.call net c)

/-- A wallet state as the service keeps it. -/
structure Kept (wt : WalletThread) (I : XWalletKey → D.Online → D.Wallet → Prop)
    (key : XWalletKey) (online : D.Online) (w : RgbWalletState D) : Prop where
  id : w.id = key.masterFingerprint
  masterXpub : w.masterXpub = ""
  walletOnline : w.walletOnline = online
  proxyHost : w.proxyHost.toList = wt.cfg.proxyHost
  senderProxy : w.senderProxy = wt.cfg.proxyAddress.head?
  wallet : I key online w.wallet

theorem indexerConfig_url {cfg : Config} {env : Env D} {indexer : IndexerConfig}
    (h : indexerConfig cfg env = .ok indexer) :
    indexer = .electrum cfg.indexerAddress ∨ indexer = .esplora cfg.indexerAddress := by
  unfold indexerConfig at h
  cases hp : D.checkIndexerUrl env.net cfg.indexerAddress cfg.net with
  | error err => simp [hp, bind, Except.bind] at h
  | ok protocol =>
    simp only [hp, bind, Except.bind] at h
    cases protocol with
    | electrum => exact .inl (by cases h; rfl)
    | esplora => exact .inr (by cases h; rfl)
    | bitcoind => cases h

variable {W : RgbWire D} {wt : WalletThread} {made : XWalletKey → D.Wallet → Prop}
  {I : XWalletKey → D.Online → D.Wallet → Prop} {key : XWalletKey} {online : D.Online}

/-! ## Making and using a wallet -/

section Operations

variable (h : Custody D W wt made I)
include h

theorem Custody.newRoWallet (env : Env D) (key : XWalletKey) :
    Returns (fun r => ∀ w, r = Except.ok w → ∃ online, Kept wt I key online w)
      (RgbWalletState.newRoWallet wt.cfg env key.xpubCol key.xpubVan key.masterFingerprint
        none) := by
  unfold RgbWalletState.newRoWallet
  cases env.createDirAll wt.cfg.datadir with
  | error e => exact .pure (by simp)
  | ok _ =>
  cases hschemas : wt.cfg.supportedSchemas with
  | error err => exact .pure (by simp)
  | ok schemas =>
  refine .bind_of (h.newWallet env.net key schemas hschemas) ?_
  rintro (err | wallet) hmade
  · exact .pure (by simp)
  simp only
  cases hindexer : indexerConfig wt.cfg env with
  | error err => exact .pure (by simp)
  | ok indexer =>
  refine .bind_of (h.goOnline key env.net indexer wallet (hmade wallet rfl)
    (indexerConfig_url hindexer)) ?_
  rintro (err | ⟨online, wallet'⟩) hI
  · exact .pure (by simp)
  · refine .pure ?_
    rintro w ⟨⟩
    exact ⟨online, rfl, rfl, rfl, rfl, rfl, hI online wallet' rfl⟩

/-- A call with the wallet's own token keeps the wallet. -/
theorem Custody.call_keeps {α : Type} (env : Env D) (c : RgbWalletState D → Call D.toRgbTypes α)
    (hc : ∀ w, Kept wt I key online w → (c w).Own wt key.masterFingerprint online)
    (hr : ∀ w, (c w).InRange W) :
    Preserves (fun s => Kept wt I key online s.1) (RgbWalletState.call env c) := by
  rintro ⟨w, fs⟩ hw
  have hI := h.call key online env.net (c w) (hc w hw) (hr w) (w.wallet, fs) hw.wallet
  exact { hw with wallet := hI }

theorem Custody.respond_keeps {α : Type} {p : Payload} (env : Env D)
    (c : RgbWalletState D → Call D.toRgbTypes α) (f : α → p.T D)
    (hc : ∀ w, Kept wt I key online w → (c w).Own wt key.masterFingerprint online)
    (hr : ∀ w, (c w).InRange W) :
    Preserves (fun s => Kept wt I key online s.1) (respond (RgbWalletState.call env c) f) :=
  Preserves.respond (h.call_keeps env c hc hr) f

theorem Custody.receiveToken_keeps (env : Env D) (kind : ReceiveKind) (assetId : Option String)
    {assignment : Assignment} (durationSeconds : Nat) {minConfirmations : Nat}
    (ha : assignment.InRange) (hmin : minConfirmations ≤ u8Max) :
    Preserves (fun s => Kept wt I key online s.1)
      (RgbWalletState.receiveToken env kind assetId assignment durationSeconds
        minConfirmations) := by
  cases kind with
  | blind =>
    exact h.call_keeps env _
      (fun w hw => ⟨congrArg some hw.walletOnline, Nat.min_le_right _ _, hw.proxyHost⟩)
      fun _ => ⟨ha, hmin⟩
  | witness =>
    exact h.call_keeps env _
      (fun w hw => ⟨congrArg some hw.walletOnline, Nat.min_le_right _ _, hw.proxyHost⟩)
      fun _ => ⟨ha, hmin⟩

theorem Custody.sendBegin_keeps (env : Env D) {req : SendBeginReq D.WitnessData D.Encryption}
    (hreq : SendBeginReq.InRange W req) :
    Preserves (fun s => Kept wt I key online s.1) (handleSendBegin env req) := by
  unfold handleSendBegin
  cases he : req.expiration env.now with
  | error err => exact .pure _ _
  | ok expiration =>
    have hmax := ((expiration_ok_iff req env.now expiration).mp he).2.2.2
    refine h.respond_keeps env _ _ (fun w hw => ⟨hw.walletOnline, hmax, hw.senderProxy, rfl⟩)
      fun _ => ⟨fun e hmem r hr => ?_, hreq.feeRate, hreq.minConfirmations⟩
    obtain ⟨entry, hentry, rfl⟩ := List.mem_map.mp hmem
    obtain ⟨x, hx, rfl⟩ := List.mem_map.mp hr
    have hin := hreq.recipientMap entry hentry x hx
    exact ⟨hin.witnessData, hin.amount, hin.encryption, hin.expirationTimestamp⟩

omit h in
/-- The amount of an invoice, where 0 stands for any. -/
theorem ReceiveReq.InRange.assignment {req : ReceiveReq} (hreq : req.InRange) :
    Assignment.InRange (match req.amount with
      | some amount => if amount > 0 then .fungible amount else .any
      | none => .any) := by
  cases ha : req.amount with
  | none => trivial
  | some amount =>
    have hmax := hreq.1 amount ha
    by_cases hpos : amount > 0
    · simp only [hpos, if_true]
      exact hmax
    · simp [hpos, Assignment.InRange]

/-- Every command keeps the wallet it is addressed to. -/
theorem Custody.handle_keeps (env : Env D) {T : Option Payload} {cmd : WalletCmd D T}
    (hcmd : cmd.InRange W) :
    Preserves (fun s => Kept wt I key online s.1)
      (handleWalletCmd wt.tempDir env key.masterFingerprint cmd) := by
  have hsome : ∀ w, Kept wt I key online w → some w.walletOnline = some online :=
    fun w hw => congrArg some hw.walletOnline
  cases cmd with
  | backup password =>
    refine Preserves.bind (fun s hs => hs) fun _ => ?_
    exact h.respond_keeps env _ _ (fun w hw => rfl) fun _ => trivial
  | receive kind req =>
    exact Preserves.respond (h.receiveToken_keeps env kind _ _ hcmd.assignment hcmd.2.2) _
  | sendBegin req => exact h.sendBegin_keeps env hcmd
  | assetInfo assetId => exact Preserves.respond (m := fun s => (_, s)) (fun s hs => hs) _
  | getConsignment req => exact fun s hs => hs
  | transactions => exact h.respond_keeps env _ _ (fun w hw => ⟨hsome w hw, rfl⟩) fun _ => trivial
  | listUnspends =>
    exact h.respond_keeps env _ _ (fun w hw => ⟨hsome w hw, rfl, rfl⟩) fun _ => trivial
  | btcBalance => exact h.respond_keeps env _ _ (fun w hw => ⟨hsome w hw, rfl⟩) fun _ => trivial
  | createUtxoBegin req =>
    exact h.respond_keeps env _ _ (fun w hw => ⟨hw.walletOnline, rfl, rfl⟩) fun _ => hcmd
  | sendBtcBegin req =>
    exact h.respond_keeps env _ _ (fun w hw => ⟨hw.walletOnline, rfl, rfl⟩) fun _ => hcmd
  | refreshWallet =>
    exact h.respond_keeps env _ _ (fun w hw => ⟨hw.walletOnline, rfl, rfl⟩) fun _ => trivial
  | burnBegin req =>
    exact h.respond_keeps env _ _ (fun w hw => ⟨hw.walletOnline, rfl⟩) fun _ => hcmd
  | inflateBegin req =>
    exact h.respond_keeps env _ _ (fun w hw => ⟨hw.walletOnline, rfl⟩) fun _ => hcmd
  | failTransfer => exact h.respond_keeps env _ _ (fun w hw => hw.walletOnline) fun _ => hcmd
  | issueNiaToken req => exact h.respond_keeps env _ _ (fun w hw => trivial) fun _ => hcmd
  | issueIfaToken req => exact h.respond_keeps env _ _ (fun w hw => trivial) fun _ => hcmd
  | createUtxoEnd => exact h.respond_keeps env _ _ (fun w hw => hw.walletOnline) fun _ => trivial
  | sendEnd => exact h.respond_keeps env _ _ (fun w hw => hw.walletOnline) fun _ => trivial
  | burnEnd => exact h.respond_keeps env _ _ (fun w hw => hw.walletOnline) fun _ => trivial
  | sendBtcEnd => exact h.respond_keeps env _ _ (fun w hw => hw.walletOnline) fun _ => trivial
  | inflateEnd => exact h.respond_keeps env _ _ (fun w hw => hw.walletOnline) fun _ => trivial
  | refresh | dropWallet | stop | walletInfo | addReadOnlyWallet =>
    exact Preserves.pure _ _
  | _ => exact h.respond_keeps env _ _ (fun w hw => trivial) fun _ => trivial

/-! ## The loop -/

/-- The wallet behind a handle, with the key and the token it has. -/
def Holds (wt : WalletThread) (I : XWalletKey → D.Online → D.Wallet → Prop) (st : ThreadState D)
    (a : Arc) (key : XWalletKey) (online : D.Online) : Prop :=
  ∃ inst, st.arcs[a]? = some inst ∧ inst.builtFrom = key ∧ Kept wt I key online inst.state

omit h in
/-- Work on a registered wallet leaves every handle with its wallet. -/
theorem Holds.onArc {α : Type} {st : ThreadState D} (hw : WellFormed st) {f : String} {b : Arc}
    (hb : st.multiWstate[f]? = some b) {m : WalletM D α}
    (hm : ∀ (key : XWalletKey) (online : D.Online), key.masterFingerprint = f →
      Preserves (fun s => Kept wt I key online s.1) m)
    {a : Arc} (hold : Holds wt I st a key online) : Holds wt I (st.onArc b m).2 a key online := by
  obtain ⟨inst, hinst, hkey, hkept⟩ := hold
  obtain ⟨inst', hinst', -, hf⟩ := hw.owner f b hb
  rw [onArc_some hinst']
  by_cases hab : b = a
  · subst hab
    rw [hinst] at hinst'
    cases hinst'
    obtain ⟨hlt, -⟩ := List.getElem?_eq_some_iff.mp hinst
    refine ⟨_, List.getElem?_set_self hlt, hkey, ?_⟩
    exact hm key online (hkey ▸ hf) (inst.state, st.fs) hkept
  · exact ⟨inst, by rw [List.getElem?_set_ne hab, hinst], hkey, hkept⟩

theorem Custody.refreshAll_holds (env : Env D) {st : ThreadState D} (hw : WellFormed st)
    {l : List (String × Arc)} (hl : ∀ e ∈ l, st.multiWstate[e.1]? = some e.2) {a : Arc}
    (hold : Holds wt I st a key online) : Holds wt I (refreshAll env st l) a key online := by
  induction l generalizing st with
  | nil => exact hold
  | cons e rest ih =>
    have hone := onArc_same st e.2 (RgbWalletState.refresh env) (call_id env _)
    refine ih (hone.wellFormed hw) (fun e' he' => ?_) ?_
    · rw [hone.multiWstate]
      exact hl e' (List.mem_cons_of_mem _ he')
    · refine hold.onArc hw (hl e List.mem_cons_self) fun key online _ => ?_
      exact h.call_keeps env _ (fun w hw => ⟨hw.walletOnline, rfl, rfl⟩) fun _ => trivial

theorem Custody.step_holds {st : ThreadState D} (hw : WellFormed st) {i : Input D}
    (hi : i.cmd.InRange W) {a : Arc} (hold : Holds wt I st a key online) :
    Holds wt I (step wt st i) a key online := by
  cases hr : st.running with
  | false => rwa [step_stopped wt st i hr]
  | true =>
    obtain ⟨env, ido, T, cmd⟩ := i
    simp only [step, hr, if_true]
    induction T, cmd using WalletCmd.kinds with
    | stop => exact hold
    | walletInfo => exact hold
    | dropWallet => exact hold
    | refresh =>
      exact h.refreshAll_holds env hw
        (fun e => Std.TreeMap.mem_toList_iff_getElem?_eq_some.mp) hold
    | routed T cmd hrouted =>
      cases process_routing wt env ido st cmd hrouted with
      | discarded _ hout => rwa [hout]
      | served f b _ hb hout =>
        rw [hout]
        refine hold.onArc hw hb fun key online hf => ?_
        rw [← hf]
        exact h.handle_keeps env hi
    | add col van fp =>
      cases process_adding wt env ido st ⟨col, van, fp⟩ with
      | present _ _ hout => rwa [hout]
      | failed err fs _ _ hout =>
        rw [hout]
        exact hold
      | built w fs _ _ hout =>
        rw [hout]
        obtain ⟨inst, hinst, hrest⟩ := hold
        obtain ⟨hlt, -⟩ := List.getElem?_eq_some_iff.mp hinst
        exact ⟨inst, by rw [List.getElem?_append_left hlt, hinst], hrest⟩

omit h in
theorem SameRegistry.arcs_length {st st' : ThreadState D} (hs : SameRegistry st st') :
    st'.arcs.length = st.arcs.length := by
  have hlen := congrArg List.length hs.labels
  rwa [List.length_map, List.length_map] at hlen

/-- A wallet that a step builds is in custody. -/
theorem Custody.step_builds {st : ThreadState D} (i : Input D) {a : Arc}
    (hlt : a < (step wt st i).arcs.length) (hge : st.arcs.length ≤ a) :
    ∃ key online, Holds wt I (step wt st i) a key online := by
  have hsame : (step wt st i).arcs.length = st.arcs.length →
      ∃ key online, Holds wt I (step wt st i) a key online := by
    intro hlen
    exact absurd (hlen ▸ hlt) (Nat.not_lt.mpr hge)
  cases hr : st.running with
  | false => exact hsame (by rw [step_stopped wt st i hr])
  | true =>
    obtain ⟨env, ido, T, cmd⟩ := i
    simp only [step, hr, if_true] at hlt hsame ⊢
    induction T, cmd using WalletCmd.kinds with
    | stop => exact hsame rfl
    | walletInfo => exact hsame rfl
    | dropWallet => exact hsame rfl
    | refresh => exact hsame (refreshAll_same env st _).arcs_length
    | routed T cmd hrouted =>
      exact hsame (process_routing wt env ido st cmd hrouted).same.1.arcs_length
    | add col van fp =>
      cases process_adding wt env ido st ⟨col, van, fp⟩ with
      | present _ _ hout => exact hsame (by rw [hout])
      | failed err fs _ _ hout => exact hsame (by rw [hout])
      | built w fs _ hrun hout =>
        rw [hout] at hlt ⊢
        simp only [List.length_append, List.length_singleton] at hlt
        obtain rfl : a = st.arcs.length := Nat.le_antisymm (Nat.lt_succ_iff.mp hlt) hge
        obtain ⟨online, hkept⟩ : ∃ online, Kept wt I ⟨col, van, fp⟩ online w := by
          have hnew := h.newRoWallet env ⟨col, van, fp⟩ ((), st.fs)
          rw [hrun] at hnew
          exact hnew w rfl
        exact ⟨_, online, _, List.getElem?_concat_length, rfl, hkept⟩

/-- Every wallet is in custody. -/
def AllHeld (wt : WalletThread) (I : XWalletKey → D.Online → D.Wallet → Prop)
    (st : ThreadState D) : Prop :=
  ∀ a, a < st.arcs.length → ∃ key online, Holds wt I st a key online

theorem Custody.step_allHeld {st : ThreadState D} (hw : WellFormed st) {i : Input D}
    (hi : i.cmd.InRange W) (hall : AllHeld wt I st) : AllHeld wt I (step wt st i) := by
  intro a ha
  by_cases hlt : a < st.arcs.length
  · obtain ⟨key, online, hold⟩ := hall a hlt
    exact ⟨key, online, h.step_holds hw hi hold⟩
  · exact h.step_builds i ha (Nat.le_of_not_lt hlt)

variable {fs : Fs} {K : HttpRequest D → Prop}

/-- Whatever the service's own calls keep true of a wallet holds of every wallet in
every run, of the unregistered ones too: each is called with the token it got when
it went online, which stays the same, with the configured proxies, and with numbers
that fit their types when the requests come in range. -/
theorem wallets_in_custody (hK : ∀ req, K req → req.endpoint.InRange W)
    {s s' : State (service wt fs (Serves K))} (hr : Reachable s) (hs : Steps s s') {a : Arc}
    {inst : Instance D} (ha : s.server.arcs[a]? = some inst) :
    ∃ online inst', s'.server.arcs[a]? = some inst' ∧ inst'.builtFrom = inst.builtFrom ∧
      Kept wt I inst.builtFrom online inst.state ∧ Kept wt I inst.builtFrom online inst'.state := by
  have hrange {s₀ : State (service wt fs (Serves K))} (h₀ : Reachable s₀) :
      ∀ e ∈ s₀.log, e.2.request.cmd.InRange W := fun e he =>
    history_inRange hK h₀ (List.mem_map.mpr ⟨e, he, rfl⟩)
  have hall : WellFormed s.server ∧ AllHeld wt I s.server := by
    apply Steps.server_holds hr (I := fun st => WellFormed st ∧ AllHeld wt I st)
    · rintro e he st ⟨hw, hall⟩
      exact ⟨step_wellFormed wt st _ hw, h.step_allHeld hw (hrange hr e he) hall⟩
    · rintro st ⟨-, hall⟩
      exact ⟨wellFormed_leftover st, hall⟩
    · rintro st _ ⟨fs', rfl⟩ ⟨hw, hall⟩
      exact ⟨⟨hw.owner, hw.stopped⟩, hall⟩
    · exact ⟨wellFormed_start fs, fun a ha => absurd ha (Nat.not_lt_zero a)⟩
  obtain ⟨hlt, -⟩ := List.getElem?_eq_some_iff.mp ha
  obtain ⟨key, online, hold⟩ := hall.2 a hlt
  obtain ⟨-, inst', ha', hkey', hkept'⟩ :
      WellFormed s'.server ∧ Holds wt I s'.server a key online := by
    apply Steps.server_holds hs (I := fun st => WellFormed st ∧ Holds wt I st a key online)
    · rintro e he st ⟨hw, hst⟩
      exact ⟨step_wellFormed wt st _ hw, h.step_holds hw (hrange (hr.trans hs) e he) hst⟩
    · rintro st ⟨-, hst⟩
      exact ⟨wellFormed_leftover st, hst⟩
    · rintro st _ ⟨fs', rfl⟩ ⟨hw, hst⟩
      exact ⟨⟨hw.owner, hw.stopped⟩, hst⟩
    · exact ⟨hall.1, hold⟩
  obtain ⟨inst₀, ha₀, rfl, hkept⟩ := hold
  rw [ha] at ha₀
  cases ha₀
  exact ⟨online, inst', ha', hkey', hkept, hkept'⟩

end Operations

theorem Reference.newWallet_keys {data : WalletData} {keys : SinglesigKeys} {w : Wallet}
    (h : newWallet data keys = .ok w) : w.keys = keys := by
  unfold newWallet at h
  split at h
  · cases h
  · split at h
    · cases h
      rfl
    · cases h

/-- The wallets of the reference library keep their keys. -/
theorem Reference.custody :
    Custody Reference.deps Reference.front.toRgbWire ⟨Reference.config, Reference.tempDir⟩
      (fun key w => w.keys = walletKeys key) (fun key online w => w.keys = walletKeys key ∧
        online.evmRpcUrls = Reference.config.evmRpcUrls) where
  newWallet _ key _ _ := .pure fun w hw => Reference.newWallet_keys hw
  goOnline key _ indexer w hw _ := .pure fun online w' ho => by
    cases ho
    exact ⟨hw, rfl⟩
  call key online _ α c _ _ := fun s hs => ⟨(Reference.call_keys c s.1).trans hs.1, hs.2⟩

/-- A wallet that is registered and then dropped. -/
theorem wallets_in_custody_reference :
    ∃ (s : State (Reference.system [Reference.request Reference.key .address,
        Reference.request Reference.otherXpubs .drop])) (a : Arc) (inst : Instance Reference.deps),
      Reachable s ∧ s.server.arcs[a]? = some inst ∧
      inst.state.senderProxy = some "rpc://127.0.0.1:3000/json-rpc" ∧
      inst.state.wallet.keys = walletKeys inst.builtFrom := by
  obtain ⟨s, s', -, -, a, inst, h, hs, -, -, ha, -, -⟩ := Reference.removed
  have hrange : ∀ req ∈ [Reference.request Reference.key .address,
      Reference.request Reference.otherXpubs .drop],
      req.endpoint.InRange Reference.front.toRgbWire := by
    intro req hreq
    obtain rfl | hreq := List.mem_cons.mp hreq
    · trivial
    · rw [List.mem_singleton.mp hreq]
      trivial
  obtain ⟨online, inst', -, -, hkept, -⟩ := wallets_in_custody Reference.custody hrange h hs ha
  exact ⟨s, a, inst, h, ha, hkept.senderProxy, hkept.wallet.1⟩

end RgbNodeApi

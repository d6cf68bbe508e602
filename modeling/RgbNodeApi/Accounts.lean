import RgbNodeApi.Rounds
import RgbNodeApi.Lib.ActorViews

/-!
# What a response tells

The response of a request accounts for the commands that were handled for it:
they are the first commands of its endpoint, each but the last answered `Ok`,
and an error is the answer to the last one. A response that is `Ok` is made of
their answers.
-/
namespace RgbNodeApi

open Files Actor

variable {D : Deps}

/-- The methods an endpoint calls on its wallet, one after the other. -/
def Endpoint.cmds : Endpoint D → List (Σ p, WalletCmd D (some p))
  | .register => [⟨_, .address⟩, ⟨_, .btcBalance⟩]
  | .address => [⟨_, .address⟩]
  | .btcBalance => [⟨_, .btcBalance⟩]
  | .assetBalance assetId => [⟨_, .tokenBalance assetId⟩]
  | .listUnspents => [⟨_, .listUnspends⟩]
  | .listAssets => [⟨_, .assets⟩]
  | .listTransfers assetId => [⟨_, .transfersByAsset assetId⟩]
  | .listTransactions => [⟨_, .transactions⟩]
  | .failTransfers req =>
    [⟨_, .failTransfer req.batchTransferIdx req.noAssetOnly req.skipSync⟩]
  | .createUtxosBegin req => [⟨_, .createUtxoBegin req⟩]
  | .createUtxosEnd psbt => [⟨_, .createUtxoEnd psbt⟩]
  | .issueNia req => [⟨_, .issueNiaToken req⟩]
  | .issueIfa req => [⟨_, .issueIfaToken req⟩]
  | .inflateBegin req => [⟨_, .inflateBegin req⟩]
  | .inflateEnd psbt => [⟨_, .inflateEnd psbt⟩]
  | .sendBegin req => [⟨_, .sendBegin req⟩]
  | .sendEnd psbt => [⟨_, .sendEnd psbt⟩]
  | .burnBegin req => [⟨_, .burnBegin req⟩]
  | .burnEnd psbt => [⟨_, .burnEnd psbt⟩]
  | .getConsignment req => [⟨_, .getConsignment req⟩]
  | .blindReceive req => [⟨_, .receive .blind req⟩]
  | .witnessReceive req => [⟨_, .receive .witness req⟩]
  | .sendBtcBegin req => [⟨_, .sendBtcBegin req⟩]
  | .sendBtcEnd psbt => [⟨_, .sendBtcEnd psbt⟩]
  | .refresh => [⟨_, .refreshWallet⟩]
  | .drop => [⟨_, .dropWallet⟩]

/-- The commands of a request when each of them succeeds. -/
def Endpoint.requests (key : XWalletKey) (e : Endpoint D) : List (Request D) :=
  (if e.isDrop then [] else [registration key]) ++
    e.cmds.map fun c => ⟨some key.masterFingerprint, some c.1, c.2⟩

/-- The error a client makes of the answer to its command. -/
def failure : {T : Option Payload} → Option (Answer D T) → Option Error
  | some _, some (.error err) => some err
  | some _, some (.ok _) => none
  | _, none => some errDeadThread

def toApiError (D : Deps) (err : Error) : ApiError :=
  mapRgbError D.isAlphanumeric D.debug D.display err

/-- The errors an endpoint raises by itself: a deadline that `send_begin` rejects
before it sends anything. -/
def Endpoint.Rejects : Endpoint D → Error → Prop
  | .sendBegin req, err => ∃ now, req.expiration now = .error err
  | _, _ => False

/-- A command with the answer that the loop gave to it. -/
abbrev Handled (D : Deps) := Σ r : Request D, Option (Answer D r.T)

/-- These commands were handled, each with an `Ok`. -/
structure Succeeded (rs : List (Request D)) (ts : List (Handled D)) : Prop where
  requests : ts.map Sigma.fst = rs
  ok : ∀ u ∈ ts, failure u.2 = none

theorem Succeeded.nil : Succeeded ([] : List (Request D)) [] :=
  ⟨rfl, fun _ hu => absurd hu List.not_mem_nil⟩

theorem Succeeded.append {rs rs' : List (Request D)} {ts us : List (Handled D)}
    (h : Succeeded rs ts) (h' : Succeeded rs' us) : Succeeded (rs ++ rs') (ts ++ us) := by
  refine ⟨by rw [List.map_append, h.requests, h'.requests], fun u hu => ?_⟩
  obtain hu | hu := List.mem_append.mp hu
  · exact h.ok u hu
  · exact h'.ok u hu

/-- What was handled for a request, by its response. -/
inductive Accounts {β : Type} (rejects : Error → Prop) (rs : List (Request D))
    (ts : List (Handled D)) : Except ApiError β → Prop
  | ok (b : β) (h : Succeeded rs ts) : Accounts rejects rs ts (.ok b)
  | rejected (pre post : List (Request D)) (r : Request D) (err : Error)
      (hrs : rs = pre ++ r :: post) (h : Succeeded pre ts) (hrej : rejects err) :
      Accounts rejects rs ts (.error (toApiError D err))
  | failed (pre post : List (Request D)) (done : List (Handled D)) (r : Request D)
      (x : Option (Answer D r.T)) (err : Error) (hrs : rs = pre ++ r :: post)
      (hts : ts = done ++ [⟨r, x⟩]) (h : Succeeded pre done) (hx : failure x = some err) :
      Accounts rejects rs ts (.error (toApiError D err))
  | lost (pre post : List (Request D)) (r : Request D) (hrs : rs = pre ++ r :: post)
      (h : Succeeded pre ts) : Accounts rejects rs ts (.error (toApiError D errDeadThread))

theorem Accounts.after {β : Type} {rejects : Error → Prop} {rs rs' : List (Request D)}
    {ts us : List (Handled D)} {res : Except ApiError β} (hs : Succeeded rs ts)
    (h : Accounts rejects rs' us res) : Accounts rejects (rs ++ rs') (ts ++ us) res := by
  cases h with
  | ok b h => exact .ok b (hs.append h)
  | rejected pre post r err hrs h hrej =>
    exact .rejected (rs ++ pre) post r err (by rw [hrs, List.append_assoc]) (hs.append h) hrej
  | failed pre post done r x err hrs hts h hx =>
    exact .failed (rs ++ pre) post (ts ++ done) r x err (by rw [hrs, List.append_assoc])
      (by rw [hts, List.append_assoc]) (hs.append h) hx
  | lost pre post r hrs h =>
    exact .lost (rs ++ pre) post r (by rw [hrs, List.append_assoc]) (hs.append h)

/-- After an error nothing is sent. -/
theorem Accounts.error {β γ : Type} {rejects : Error → Prop} {rs : List (Request D)}
    {ts : List (Handled D)} {e : ApiError} (h : Accounts rejects rs ts (.error e : Except _ β))
    (rs' : List (Request D)) : Accounts rejects (rs ++ rs') ts (.error e : Except _ γ) := by
  cases h with
  | rejected pre post r err hrs h hrej =>
    exact .rejected pre (post ++ rs') r err (by rw [hrs, List.append_assoc, List.cons_append])
      h hrej
  | failed pre post done r x err hrs hts h hx =>
    exact .failed pre (post ++ rs') done r x err (by rw [hrs, List.append_assoc, List.cons_append])
      hts h hx
  | lost pre post r hrs h =>
    exact .lost pre (post ++ rs') r (by rw [hrs, List.append_assoc, List.cons_append]) h

theorem Accounts.succeeded {β : Type} {rejects : Error → Prop} {rs : List (Request D)}
    {ts : List (Handled D)} {b : β} (h : Accounts rejects rs ts (.ok b : Except ApiError β)) :
    Succeeded rs ts := by
  cases h with
  | ok _ h => exact h

/-- With an error there is a command that did not succeed. -/
theorem Accounts.not_succeeded {β : Type} {rejects : Error → Prop} {rs : List (Request D)}
    {ts : List (Handled D)} {e : ApiError} (h : Accounts rejects rs ts (.error e : Except _ β)) :
    ¬ Succeeded rs ts := by
  have hlen : ∀ (pre post : List (Request D)) (r : Request D), rs = pre ++ r :: post →
      Succeeded pre ts → ¬ Succeeded rs ts := by
    intro pre post r hrs hpre hall
    have heq := hpre.requests.symm.trans hall.requests
    rw [hrs] at heq
    exact absurd (List.self_eq_append_right.mp heq) (List.cons_ne_nil r post)
  cases h with
  | rejected pre post r err hrs hpre _ => exact hlen pre post r hrs hpre
  | failed pre post done r x err hrs hts _ hx =>
    intro hall
    have hok := hall.ok ⟨r, x⟩ (by simp [hts])
    rw [hx] at hok
    cases hok
  | lost pre post r hrs hpre => exact hlen pre post r hrs hpre

/-- Only commands of the list are handled. -/
theorem Accounts.mem {β : Type} {rejects : Error → Prop} {rs : List (Request D)}
    {ts : List (Handled D)} {res : Except ApiError β} (h : Accounts rejects rs ts res)
    {u : Handled D} (hu : u ∈ ts) : u.1 ∈ rs := by
  cases h with
  | ok b h => exact h.requests ▸ List.mem_map_of_mem hu
  | rejected pre post r err hrs h hrej =>
    exact hrs ▸ List.mem_append_left _ (h.requests ▸ List.mem_map_of_mem hu)
  | failed pre post done r x err hrs hts h hx =>
    rw [hts] at hu
    rw [hrs]
    obtain hu | hu := List.mem_append.mp hu
    · exact List.mem_append_left _ (h.requests ▸ List.mem_map_of_mem hu)
    · rw [List.mem_singleton.mp hu]
      exact List.mem_append_right pre List.mem_cons_self
  | lost pre post r hrs h =>
    exact hrs ▸ List.mem_append_left _ (h.requests ▸ List.mem_map_of_mem hu)

/-! ## Answers -/

/-- The value of a command that succeeds. -/
abbrev Success (D : Deps) := Σ p : Payload, p.T D

def success : {T : Option Payload} → Option (Answer D T) → Option (Success D)
  | some p, some (.ok a) => some ⟨p, a⟩
  | _, _ => none

/-- The successes of commands that all succeed. -/
def successes (ts : List (Handled D)) : Option (List (Success D)) := ts.mapM fun u => success u.2

/-- What is answered for these values of the commands on the wallet. -/
def Endpoint.result : Endpoint D → List (Success D) → Option (Body D)
  | .register, [⟨.addressRes, a⟩, ⟨.btcBalance, b⟩] => some (.register ⟨a.address, b⟩)
  | .address, [⟨.addressRes, a⟩] => some (.address a)
  | .btcBalance, [⟨.btcBalance, b⟩] => some (.btcBalance b)
  | .assetBalance _, [⟨.balance, b⟩] => some (.balance b)
  | .listUnspents, [⟨.unspents, l⟩] => some (.unspents l)
  | .listAssets, [⟨.assets, a⟩] => some (.assets a)
  | .listTransfers _, [⟨.transfers, l⟩] => some (.transfers l)
  | .listTransactions, [⟨.transactions, l⟩] => some (.transactions l)
  | .failTransfers _, [⟨.bool, b⟩] => some (.failTransfer ⟨b⟩)
  | .createUtxosBegin _, [⟨.string, psbt⟩] => some (.psbt ⟨psbt⟩)
  | .createUtxosEnd _, [⟨.usize, n⟩] => some (.createUtxos ⟨n⟩)
  | .issueNia _, [⟨.assetNIA, a⟩] => some (.nia a)
  | .issueIfa _, [⟨.assetIFA, a⟩] => some (.ifa a)
  | .inflateBegin _, [⟨.string, psbt⟩] => some (.psbt ⟨psbt⟩)
  | .inflateEnd _, [⟨.operationResult, r⟩] => some (.send ⟨r.txid, r.batchTransferIdx⟩)
  | .sendBegin _, [⟨.string, psbt⟩] => some (.psbt ⟨psbt⟩)
  | .sendEnd _, [⟨.operationResult, r⟩] => some (.send ⟨r.txid, r.batchTransferIdx⟩)
  | .burnBegin _, [⟨.string, psbt⟩] => some (.psbt ⟨psbt⟩)
  | .burnEnd _, [⟨.operationResult, r⟩] => some (.send ⟨r.txid, r.batchTransferIdx⟩)
  | .getConsignment _, [⟨.getConsignmentRes, r⟩] => some (.consignment r)
  | .blindReceive _, [⟨.receiveData, d⟩] => some (.receiveData d)
  | .witnessReceive _, [⟨.receiveData, d⟩] => some (.receiveData d)
  | .sendBtcBegin _, [⟨.string, psbt⟩] => some (.psbt ⟨psbt⟩)
  | .sendBtcEnd _, [⟨.string, txid⟩] => some (.sendBtc ⟨txid⟩)
  | .refresh, [⟨.unit, _⟩] => some (.empty ⟨⟩)
  | .drop, [⟨.unit, _⟩] => some (.empty ⟨⟩)
  | _, _ => none

/-- The registration that goes first is not part of the answer. -/
def Endpoint.answers (e : Endpoint D) (vs : List (Success D)) : Option (Body D) :=
  e.result (if e.isDrop then vs else vs.tail)

/-! ## What an endpoint does -/

/-- The result accounts for the commands, and is made of their values if they have
all succeeded. -/
structure Tells {β : Type} (rejects : Error → Prop) (rs : List (Request D))
    (P : List (Success D) → β → Prop) (ts : List (Handled D)) (res : Except ApiError β) : Prop where
  accounts : Accounts rejects rs ts res
  made : ∀ b, res = .ok b → ∃ vs, successes ts = some vs ∧ P vs b

section

variable {β γ : Type} {rejects : Error → Prop} {rs rs' : List (Request D)}
  {P : List (Success D) → β → Prop} {Q : List (Success D) → γ → Prop}

theorem Tells.error {ts : List (Handled D)} {e : ApiError}
    (h : Accounts rejects rs ts (.error e : Except _ β)) : Tells rejects rs P ts (.error e) :=
  ⟨h, nofun⟩

theorem tells_bind {m : Api D β} {f : β → Api D γ} (hm : Yields m.run (Tells rejects rs P))
    (hf : ∀ vs b, P vs b → Yields (f b).run (Tells rejects rs' fun ws => Q (vs ++ ws))) :
    Yields (m >>= f).run (Tells rejects (rs ++ rs') Q) := by
  refine Yields.bind (hm.mono fun ts res hres => ?_)
  cases res with
  | error e =>
    change Tells _ _ _ (ts ++ []) _
    rw [List.append_nil]
    exact .error (hres.accounts.error rs')
  | ok b =>
    obtain ⟨vs, hvs, hP⟩ := hres.made b rfl
    refine (hf vs b hP).mono fun us res' hus => ⟨hus.accounts.after hres.accounts.succeeded, ?_⟩
    intro c hc
    obtain ⟨ws, hws, hQ⟩ := hus.made c hc
    unfold successes at hvs hws
    exact ⟨vs ++ ws, by simp [successes, List.mapM_append, hvs, hws], hQ⟩

theorem tells_pure {g : γ} (h : Q [] g) :
    Yields (pure g : Api D γ).run (Tells rejects [] Q) :=
  ⟨.ok g .nil, fun _ hb => by cases hb; exact ⟨[], rfl, h⟩⟩

theorem tells_map {m : Api D β} (hm : Yields m.run (Tells rejects rs P)) {g : β → γ}
    (h : ∀ vs b, P vs b → Q vs (g b)) : Yields (g <$> m).run (Tells rejects rs Q) := by
  rw [← List.append_nil rs]
  exact tells_bind hm fun vs b hP => tells_pure (by simpa using h vs b hP)

/-- One command, and the end. -/
theorem tells_ask {ido : Option String} {p : Payload} {cmd : WalletCmd D (some p)}
    {k : Option (Answer D (some p)) → Async D (Except ApiError β)}
    (hfail : ∀ x err, failure x = some err → k x = .ret (.error (toApiError D err)))
    (hok : ∀ a, ∃ b, k (some (.ok a)) = .ret (.ok b) ∧ P [⟨p, a⟩] b) :
    Yields (.ask ⟨ido, some p, cmd⟩ k) (Tells rejects [⟨ido, some p, cmd⟩] P) := by
  refine ⟨?_, fun x => ?_⟩
  · rw [hfail none errDeadThread rfl]
    exact .error (.lost [] [] _ rfl .nil)
  · cases hx : failure x with
    | some err =>
      rw [hfail x err hx]
      exact .error (.failed [] [] [] _ x err rfl rfl .nil hx)
    | none =>
      obtain _ | _ | a := x
      · cases hx
      · cases hx
      · obtain ⟨b, hb, hP⟩ := hok a
        rw [hb]
        refine ⟨.ok b ⟨rfl, fun u hu => ?_⟩, fun _ hc => ?_⟩
        · rw [List.mem_singleton.mp hu]
          rfl
        · cases hc
          exact ⟨[⟨p, a⟩], rfl, hP⟩

theorem tells_sendCmd (ctx : WalletCtx) {p : Payload} (cmd : WalletCmd D (some p)) :
    Yields (mapErr (ctx.sendCmd cmd)).run
      (Tells rejects [⟨ctx.id, some p, cmd⟩] fun vs a => vs = [⟨p, a⟩]) := by
  apply tells_ask
  · rintro (_ | _ | _) err ⟨⟩ <;> rfl
  · exact fun a => ⟨a, rfl, rfl⟩

theorem tells_deriveWctx (key : XWalletKey) :
    Yields (deriveWctx .new key : Api D WalletCtx).run (Tells rejects [registration key]
      fun vs ctx => vs.length = 1 ∧ ctx.id = some key.masterFingerprint) := by
  apply tells_ask
  · rintro (_ | _ | _) err ⟨⟩ <;> rfl
  · exact fun a => ⟨_, rfl, rfl, rfl⟩

theorem tells_sendBegin (ctx : WalletCtx) (req : SendBeginReq D.WitnessData D.Encryption) :
    Yields (mapErr (ctx.sendBegin req)).run (Tells (Endpoint.Rejects (.sendBegin req))
      [⟨ctx.id, some .string, .sendBegin req⟩] fun vs psbt => vs = [⟨.string, psbt⟩]) := by
  unfold WalletCtx.sendBegin
  intro now
  dsimp only
  cases h : req.expiration now with
  | error err => exact .error (.rejected [] [] _ err rfl .nil ⟨now, h⟩)
  | ok e => exact tells_sendCmd ctx (.sendBegin req)

theorem tells_withWallet {α : Type} (key : XWalletKey) (op : WalletCtx → Async D (RResult α))
    (f : α → β) {r : Request D} {R : List (Success D) → α → Prop}
    (hop : ∀ ctx : WalletCtx, ctx.id = some key.masterFingerprint →
      Yields (mapErr (op ctx)).run (Tells rejects [r] R)) :
    Yields (withWallet .new key op f).run (Tells rejects [registration key, r]
      fun vs b => ∃ a, b = f a ∧ R vs.tail a) := by
  refine tells_bind (tells_deriveWctx key) fun vs ctx hvs => ?_
  obtain ⟨v, rfl⟩ := List.length_eq_one_iff.mp hvs.1
  exact tells_map (hop ctx hvs.2) fun ws a hR => ⟨a, rfl, hR⟩

end

/-- Every endpoint sends its list of commands, and answers with what they came to. -/
theorem Endpoint.tells (key : XWalletKey) (e : Endpoint D) :
    Yields (e.handler .new key).run
      (Tells e.Rejects (e.requests key) fun vs b => e.answers vs = some b) := by
  cases e with
  | drop =>
    refine tells_map (P := fun vs _ => ∃ a, vs = [⟨.unit, a⟩])
      (tells_bind (tells_sendCmd (WalletCtx.withId .new key.masterFingerprint) .dropWallet)
        fun vs a hvs => tells_pure ⟨a, by simpa using hvs⟩) ?_
    rintro vs b ⟨a, rfl⟩
    rfl
  | register =>
    refine tells_map (P := fun vs b => ∃ res,
      vs.tail = [⟨.addressRes, res⟩, ⟨.btcBalance, b.btcBalance⟩] ∧ b.address = res.address)
      (tells_bind (tells_deriveWctx key) fun vs ctx hvs => ?_) ?_
    · obtain ⟨v, rfl⟩ := List.length_eq_one_iff.mp hvs.1
      refine tells_bind (hvs.2 ▸ tells_sendCmd ctx .address) fun ws res hws => ?_
      refine tells_bind (hvs.2 ▸ tells_sendCmd ctx .btcBalance) fun us b hus => tells_pure ?_
      exact ⟨res, by simp [hws, hus], rfl⟩
    · rintro vs ⟨address, b⟩ ⟨res, hvs, rfl⟩
      simp only [Endpoint.answers, Endpoint.isDrop, Bool.false_eq_true, if_false, hvs]
      rfl
  | sendBegin req =>
    refine tells_map (tells_withWallet key _ _ fun ctx hid => hid ▸ tells_sendBegin ctx req) ?_
    rintro vs b ⟨psbt, rfl, hvs⟩
    simp only [Endpoint.answers, Endpoint.isDrop, Bool.false_eq_true, if_false, hvs]
    rfl
  | _ =>
    refine tells_map (tells_withWallet key _ _ fun ctx hid => hid ▸ tells_sendCmd ctx _) ?_
    rintro vs b ⟨a, rfl, hvs⟩
    simp only [Endpoint.answers, Endpoint.isDrop, Bool.false_eq_true, if_false, hvs]
    rfl

variable {wt : WalletThread} {fs : Fs} {arrives : Client D → Prop}

/-- Every run of the service is one sequential history. As long as it has not ended, the
wallet thread is the loop run over the handled commands, and afterwards it holds no
wallet; a client that is not waiting has done what its own program does with the
answers that loop gives to it; and the history keeps to real time: it only grows, a
command whose client has its answer was handled by then, and one that is sent later
comes later. -/
theorem service_sequential {s s' : State (service wt fs arrives)} (h : Reachable s)
    (hs : Steps s s') :
    (¬ s'.phase.ended → s'.server = runLoop wt (.start fs) (history s'.log)) ∧
    (s'.phase.ended → ∀ f : String, s'.server.multiWstate[f]? = none) ∧
    (∀ (i : Nat) (o : Client D) (p : Async D (Result D)),
      s'.tasks[i]? = some ⟨o, .running p⟩ →
        Ran o.launch (turns i (service wt fs arrives).start s'.log) p) ∧
    s.log <+: s'.log ∧
    ∀ (n : Nat) (env : Env D) (r : Request D) (k : Ticket (service wt fs arrives)),
      s'.log[n]? = some (env, ⟨r, some k⟩) →
        (s.chans.length ≤ k.chan → s.log.length ≤ n) ∧
        ∀ ch : Chan (service wt fs arrives), s.chans[k.chan]? = some ch → ch.resolved ≠ [] →
          n < s.log.length := by
  have h' : Reachable s' := h.trans hs
  refine ⟨server_eq_history h', registered_none_of_ended h', fun i o p ht => ran_turns h' ht,
    Steps.log_prefix hs, fun n env r k hn => ?_⟩
  exact ⟨logged_after h hs hn, fun ch hch hres => logged_before h hs hn hch hres⟩

/-- Two clients, one after the other: an address, and a payment that fails. -/
theorem service_sequential_clients :
    ∃ s s' : State Reference.clients, Reachable s ∧ Steps s s' ∧ s.log.length = 2 ∧
      s'.log.length = 4 ∧ s.log <+: s'.log ∧
      s'.server = runLoop ⟨Reference.config, Reference.tempDir⟩ (.start fun _ => absent)
        (history s'.log) ∧
      Ran (Client.http (Reference.request Reference.key .address)).launch
        (turns 0 Reference.clients.start s'.log)
        (.ret (.response (.ok (.address ⟨"xpub-van/0"⟩)))) ∧
      Ran (Client.http (Reference.request Reference.upperCase
        (.sendBtcBegin Reference.payment))).launch (turns 1 Reference.clients.start s'.log)
        (.ret (.response (.error Reference.offline))) := by
  obtain ⟨s, s', hs, hs', hcalm, hlog, hlog', htasks⟩ :=
    Reference.two_clients (K := fun req => req ∈ [Reference.request Reference.key .address,
      Reference.request Reference.upperCase (.sendBtcBegin Reference.payment)])
      (by simp) (by simp)
  obtain ⟨hserver, -, hran, hpre, -⟩ := service_sequential hs hs'
  refine ⟨s, s', hs, hs', ?_, ?_, hpre, hserver hcalm.live, ?_, ?_⟩
  · simpa using congrArg List.length hlog
  · simpa using congrArg List.length hlog'
  · exact hran 0 _ _ (by rw [htasks]; rfl)
  · exact hran 1 _ _ (by rw [htasks]; rfl)

/-- A request that has its response is a program that has ended. -/
theorem ran_response {s : State (service wt fs arrives)} (h : Reachable s) {i : Nat}
    {req : HttpRequest D} {res : Except ApiError (Body D)}
    (ht : s.tasks[i]? = some ⟨.http req, .running (.ret (.response res))⟩) :
    Ran (req.serve .new).run (turns i (service wt fs arrives).start s.log) (.ret res) := by
  obtain ⟨q, hq, he⟩ := (ran_turns h ht).bind_ret
  obtain rfl : q = .ret res := by
    cases q with
    | ret b =>
      cases he
      rfl
    | clock k => cases he
    | ask r k => cases he
  exact hq

/-- A request without a key ends at once, any other tells what its endpoint did. -/
theorem HttpRequest.tells {req : HttpRequest D} {ts : List (Handled D)}
    {res : Except ApiError (Body D)} (h : Ran (req.serve .new).run ts (.ret res)) :
    (∃ e, XWalletKey.fromRequest req.headers = .error e ∧ res = .error e ∧ ts = []) ∨
    ∃ key, req.key = some key ∧ Tells req.endpoint.Rejects (req.endpoint.requests key)
      (fun vs b => req.endpoint.answers vs = some b) ts res := by
  cases hkey : XWalletKey.fromRequest req.headers with
  | error e =>
    simp only [HttpRequest.serve, hkey] at h
    obtain ⟨hts, hres⟩ := Ran.of_ret h
    cases hres
    exact .inl ⟨e, rfl, rfl, hts⟩
  | ok key =>
    simp only [HttpRequest.serve, hkey] at h
    have hname : req.key = some key := by simp [HttpRequest.key, hkey, Except.toOption]
    exact .inr ⟨key, hname, h.result (req.endpoint.tells key)⟩

/-- In every run the response of a request accounts for all its commands: those
that were handled are the first of its endpoint's list, all of them with `Ok` if
the response is one; otherwise they end with the first failure, whose error the
response carries, and the rest was never sent. -/
theorem response_accounts {s : State (service wt fs arrives)} (h : Reachable s) {i : Nat}
    {req : HttpRequest D} {res : Except ApiError (Body D)}
    (ht : s.tasks[i]? = some ⟨.http req, .running (.ret (.response res))⟩) :
    (∃ e, XWalletKey.fromRequest req.headers = .error e ∧ res = .error e ∧
      turns i (service wt fs arrives).start s.log = []) ∨
    ∃ key, req.key = some key ∧ Accounts req.endpoint.Rejects (req.endpoint.requests key)
      (turns i (service wt fs arrives).start s.log) res :=
  (HttpRequest.tells (ran_response h ht)).imp_right fun ⟨key, hkey, hres⟩ =>
    ⟨key, hkey, hres.accounts⟩

/-- The payment was the second command of its request, and its error is the response. -/
theorem response_accounts_payment :
    ∃ s : State Reference.clients, Reachable s ∧ s.log.length = 4 ∧
      Accounts (Endpoint.sendBtcBegin (D := Reference.deps) Reference.payment).Rejects
        [registration Reference.upperCase, Reference.askPayment]
        (turns 1 Reference.clients.start s.log)
        (.error Reference.offline : Except ApiError (Body Reference.deps)) := by
  obtain ⟨s, s', hs, hs', -, -, hlog', htasks⟩ :=
    Reference.two_clients (K := fun req => req ∈ [Reference.request Reference.key .address,
      Reference.request Reference.upperCase (.sendBtcBegin Reference.payment)])
      (by simp) (by simp)
  refine ⟨s', hs.trans hs', by simpa using congrArg List.length hlog', ?_⟩
  have hk := Reference.request_key Reference.upperCase rfl rfl rfl
    (.sendBtcBegin Reference.payment)
  obtain ⟨e, he, -⟩ | ⟨key, hkey, hacc⟩ :=
    response_accounts (hs.trans hs') (i := 1) (by rw [htasks]; rfl)
  · simp [HttpRequest.key, he, Except.toOption] at hk
  · rw [hk] at hkey
    cases hkey
    exact hacc

end RgbNodeApi

import RgbNodeApi.Http
import RgbNodeApi.Accounts

/-!
# From the wire to the wallets

What the wallet thread handles in a run whose requests come through the HTTP front:
apart from the refreshes, only the commands of the requests that were received, with
the numbers that their types allow.
-/
namespace RgbNodeApi

open Files Actor

variable {D : Deps}

/-- The numbers of a command fit their types. -/
def WalletCmd.InRange (W : RgbWire D) : {T : Option Payload} → WalletCmd D T → Prop
  | _, .failTransfer batchTransferIdx noAssetOnly skipSync =>
    FailTransfer.InRange ⟨batchTransferIdx, noAssetOnly, skipSync⟩
  | _, .receive _ req => req.InRange
  | _, .issueNiaToken req => req.InRange
  | _, .issueIfaToken req => req.InRange
  | _, .inflateBegin req => req.InRange
  | _, .createUtxoBegin req => req.InRange
  | _, .sendBegin req => SendBeginReq.InRange W req
  | _, .burnBegin req => req.InRange
  | _, .sendBtcBegin req => req.InRange
  | _, _ => True

theorem registration_inRange (W : RgbWire D) (key : XWalletKey) :
    (registration (D := D) key).cmd.InRange W := trivial

theorem Endpoint.InRange.cmds {W : RgbWire D} {e : Endpoint D} (h : e.InRange W) :
    ∀ c ∈ e.cmds, c.2.InRange W := by
  intro c hc
  cases e with
  | register =>
    obtain rfl | hc := List.mem_cons.mp hc
    · trivial
    · rw [List.mem_singleton.mp hc]
      trivial
  | _ =>
    rw [List.mem_singleton.mp hc]
    exact h

/-- The commands of a request in range are in range. -/
theorem Endpoint.InRange.requests {W : RgbWire D} {e : Endpoint D} (h : e.InRange W)
    {key : XWalletKey} {r : Request D} (hr : r ∈ e.requests key) : r.cmd.InRange W := by
  obtain hr | hr := List.mem_append.mp hr
  · split at hr
    · cases hr
    · rw [List.mem_singleton.mp hr]
      exact registration_inRange W key
  · obtain ⟨c, hc, rfl⟩ := List.mem_map.mp hr
    exact h.cmds c hc

/-- The program sends nothing but these. -/
def Sends {β : Type} (P : Request D → Prop) : Async D β → Prop
  | .ret _ => True
  | .clock k => ∀ now, Sends P (k now)
  | .ask r k => P r ∧ ∀ x, Sends P (k x)

theorem Sends.bind_ret {β γ : Type} {P : Request D → Prop} {p : Async D β} (h : Sends P p)
    (f : β → γ) : Sends P (p >>= fun b => pure (f b)) := by
  induction p with
  | ret b => trivial
  | clock k ih => exact fun now => ih now (h now)
  | ask r k ih => exact ⟨h.1, fun x => ih x (h.2 x)⟩

/-- What is among the turns of every run is all that is sent. -/
theorem Sends.of_yields {β : Type} {P : Request D → Prop} {p : Async D β}
    {G : List (Handled D) → β → Prop} (hp : Yields p G)
    (hG : ∀ ts b, G ts b → ∀ u ∈ ts, P u.1) : Sends P p := by
  induction p generalizing G with
  | ret b => trivial
  | clock k ih => exact fun now => ih now (hp now) hG
  | ask r k ih =>
    obtain ⟨ts, b, hend⟩ := (hp.2 none).exists
    refine ⟨hG _ b hend ⟨r, none⟩ List.mem_cons_self, fun x => ih x (hp.2 x) fun ts b h u hu => ?_⟩
    exact hG _ b h u (List.mem_cons_of_mem _ hu)

/-- The commands that a client sends. -/
def Client.Sends : Client D → Request D → Prop
  | .http req, r => ∃ key, XWalletKey.fromRequest req.headers = .ok key ∧
    r ∈ req.endpoint.requests key
  | .call ctx p cmd, r => r = ⟨ctx.id, some p, cmd⟩

theorem Client.launch_sends (o : Client D) : RgbNodeApi.Sends o.Sends o.launch := by
  cases o with
  | http req =>
    refine Sends.bind_ret ?_ _
    unfold HttpRequest.serve
    cases hkey : XWalletKey.fromRequest req.headers with
    | error e => trivial
    | ok key =>
      exact Sends.of_yields (req.endpoint.tells key) fun ts res h u hu =>
        ⟨key, hkey, h.accounts.mem hu⟩
  | call ctx p cmd =>
    have hsend : RgbNodeApi.Sends (Client.call ctx p cmd).Sends (ctx.sendCmd cmd) :=
      ⟨rfl, fun x => by cases x <;> trivial⟩
    exact hsend.bind_ret _

section

variable {wt : WalletThread} {fs : Fs} {arrives : Client D → Prop}

/-- Clients send their own commands only. -/
theorem sends_session (wt : WalletThread) (fs : Fs) (arrives : Client D → Prop) :
    Session (service wt fs arrives) (fun _ o _ p => arrives o ∧ Sends o.Sends p)
      fun _ o _ r => arrives o ∧ o.Sends r where
  start _ o _ h := ⟨h, o.launch_sends⟩
  mono _ _ _ _ _ h := h
  monoReq _ _ _ _ _ h := h
  clock _ _ _ _ now h := ⟨h.1, h.2 now⟩
  ask _ _ _ _ _ h := ⟨h.1, h.2.1⟩
  closed _ _ _ _ _ h := ⟨h.1, h.2.2 none⟩
  answered _ _ _ _ _ _ _ a h _ := ⟨h.1, h.2.2 (some a)⟩

theorem logged_sends {s : State (service wt fs arrives)} (h : Reachable s) {n : Nat} {env : Env D}
    {m : Msg (service wt fs arrives)} (hn : s.log[n]? = some (env, m)) :
    (m.ticket = none ∧ m.request = .refresh) ∨
      ∃ k, m.ticket = some k ∧ arrives k.origin ∧ k.origin.Sends m.request := by
  obtain ⟨r, ticket⟩ := m
  cases ticket with
  | none => exact .inl ⟨rfl, posted_of_no_ticket h (logged_mem hn) rfl⟩
  | some k => exact .inr ⟨k, rfl, ((sends_session wt fs arrives).follows h).logged n env r k hn⟩

end

theorem inRange_of_isStop {W : RgbWire D} {T : Option Payload} {cmd : WalletCmd D T}
    (h : cmd.isStop = true) : cmd.InRange W := by
  cases cmd with
  | stop => trivial
  | _ => cases h

/-- While the requests are in range, everything that is handled is. -/
theorem history_inRange {W : RgbWire D} {wt : WalletThread} {fs : Fs} {K : HttpRequest D → Prop}
    (hK : ∀ req, K req → req.endpoint.InRange W) {s : State (service wt fs (Serves K))}
    (h : Reachable s) {i : Input D} (hi : i ∈ history s.log) : i.cmd.InRange W := by
  obtain ⟨⟨env, m⟩, hmem, rfl⟩ := List.mem_map.mp hi
  obtain ⟨n, hn⟩ := List.mem_iff_getElem?.mp hmem
  change m.request.cmd.InRange W
  obtain ⟨-, hrefresh⟩ | ⟨k, -, harrives, hsends⟩ := logged_sends h hn
  · rw [hrefresh]
    trivial
  cases ho : k.origin with
  | call ctx p cmd =>
    rw [ho] at harrives hsends
    have hcmd : m.request = ⟨ctx.id, some p, cmd⟩ := hsends
    rw [hcmd]
    exact inRange_of_isStop harrives
  | http req =>
    rw [ho] at harrives hsends
    obtain ⟨key, -, hr⟩ := hsends
    exact (hK req harrives).requests hr

/-- The requests that the front hands to a handler. -/
def Front.Received (F : Front D) (limit : Nat) (req : HttpRequest D) : Prop :=
  ∃ raw, F.receive limit raw = .serve req

variable {F : Front D} {limit : Nat} {wt : WalletThread} {fs : Fs}

/-- In a run that is fed through the HTTP front, every handled command is a refresh,
a stop, or one of the commands of a request that was received: the request stands in
the bytes of its body and under the key of its headers as the wallet thread gets it,
and no number in it exceeds its type. -/
theorem wire_to_wallet {s : State (service wt fs (Serves (F.Received limit)))} (h : Reachable s)
    {n : Nat} {env : Env D} {m : Msg (service wt fs (Serves (F.Received limit)))}
    (hn : s.log[n]? = some (env, m)) :
    m.request = .refresh ∨ m.request.cmd.isStop = true ∨
    ∃ (raw : RawRequest) (req : HttpRequest D) (key : XWalletKey) (r : Route),
      (∃ k, m.ticket = some k ∧ k.origin = .http req) ∧
      XWalletKey.fromRequest raw.headers = .ok key ∧
      ⟨raw.path, raw.method, .node r⟩ ∈ WalletSrv.service ∧
      F.arguments limit r raw = .ok req.endpoint ∧
      m.request ∈ req.endpoint.requests key ∧ m.request.cmd.InRange F.toRgbWire := by
  obtain ⟨-, hrefresh⟩ | ⟨k, hk, harrives, hsends⟩ := logged_sends h hn
  · exact .inl hrefresh
  cases ho : k.origin with
  | call ctx p cmd =>
    rw [ho] at harrives hsends
    have hcmd : m.request = ⟨ctx.id, some p, cmd⟩ := hsends
    exact .inr (.inl (by rw [hcmd]; exact harrives))
  | http req =>
    rw [ho] at harrives hsends
    obtain ⟨key, hkey, hmem⟩ := hsends
    obtain ⟨raw, hraw⟩ := harrives
    obtain ⟨hmethod, hheaders, -, r, hr, hargs⟩ := Front.receive_eq_serve_iff.mp hraw
    have hrange := (Front.arguments_inRange hargs).2
    exact .inr (.inr ⟨raw, req, key, r, ⟨k, hk, ho⟩, hheaders ▸ hkey, hmethod ▸ hr, hargs, hmem,
      hrange.requests hmem⟩)

namespace Reference

/-- The bytes of a request without a body and of one with numbers in its body. -/
def addressRequest (key : XWalletKey) : RawRequest where
  method := .post
  path := "/wallet/address"
  headers := key.headers
  contentType := none
  contentLength := none
  payload := []
  failure := none

def paymentRequest : RawRequest where
  method := .post
  path := "/wallet/sendbtcbegin"
  headers := upperCase.headers
  contentType := some (headerValue "application/json")
  contentLength := none
  payload := headerValue payBody
  failure := none

theorem address_received (key : XWalletKey) (hcol : isPrintable key.xpubCol = true)
    (hvan : isPrintable key.xpubVan = true) (hmf : isPrintable key.masterFingerprint = true) :
    front.Received 100 (request key .address) :=
  ⟨addressRequest key, Front.receive_eq_serve_iff.mpr
    ⟨rfl, rfl, ⟨_, fromRequest_headers hcol hvan hmf⟩, .address, by simp [addressRequest,
      WalletSrv.service], rfl⟩⟩

theorem payment_arrives : front.Arrives 100 paymentRequest where
  contentType := by simp [front, paymentRequest]
  contentLength := by simp [paymentRequest]
  length := by decide
  failure := rfl

theorem payment_received : front.Received 100 (request upperCase (.sendBtcBegin payment)) := by
  have hargs : front.arguments 100 .sendBtcBegin paymentRequest = .ok (.sendBtcBegin payment) :=
    Front.arguments_eq_ok_iff.mpr (.inr ⟨payValue, payment_arrives, parse_pay, rfl⟩)
  exact ⟨paymentRequest, Front.receive_eq_serve_iff.mpr
    ⟨rfl, rfl, ⟨_, fromRequest_headers rfl rfl rfl⟩, .sendBtcBegin, by decide, hargs⟩⟩

end Reference

/-- The payment that reaches the wallet thread after another client's address: its
amount and fee rate are those of the body. -/
theorem wire_to_wallet_payment :
    ∃ (s : State (service ⟨Reference.config, Reference.tempDir⟩ (fun _ => absent)
        (Serves (Reference.front.Received 100)))) (raw : RawRequest)
      (req : HttpRequest Reference.deps) (key : XWalletKey) (r : Route), Reachable s ∧
      s.log.length = 4 ∧ XWalletKey.fromRequest raw.headers = .ok key ∧
      Reference.front.arguments 100 r raw = .ok req.endpoint ∧
      Reference.askPayment ∈ req.endpoint.requests key ∧
      Reference.askPayment.cmd.InRange Reference.front.toRgbWire := by
  obtain ⟨s, s', hs, hs', -, -, hlog, -⟩ :=
    Reference.two_clients (Reference.address_received Reference.key rfl rfl rfl)
      Reference.payment_received
  obtain ⟨⟨env, m⟩, hn, he⟩ : ∃ e, s'.log[3]? = some e ∧
      (e.1, e.2.request) = (Reference.world, Reference.askPayment) := by
    have hget := congrArg (fun l => l[3]?) hlog
    simpa using hget
  obtain ⟨rfl, hm⟩ := Prod.mk.inj he
  change m.request = Reference.askPayment at hm
  obtain hrefresh | hstop | ⟨raw, req, key, r, -, hkey, -, hargs, hmem, hrange⟩ :=
    wire_to_wallet (hs.trans hs') hn
  · rw [hm] at hrefresh
    cases hrefresh
  · rw [hm] at hstop
    cases hstop
  · rw [hm] at hmem hrange
    exact ⟨s', raw, req, key, r, hs.trans hs', by simpa using congrArg List.length hlog, hkey,
      hargs, hmem, hrange⟩

end RgbNodeApi

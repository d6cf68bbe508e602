import RgbNodeApi.Service
import RgbNodeApi.LoopStep

/-!
# What HTTP requests send

The clients are HTTP requests of a workload, and whoever calls `stop`. A request
registers the wallet of its headers and works on it only after an `Ok`; a drop
sends its one command straight away.
-/
namespace RgbNodeApi

open Files Actor

variable {D : Deps}

/-- A workload: some HTTP requests, and calls of `stop`. -/
def Serves (K : HttpRequest D → Prop) : Client D → Prop
  | .http req => K req
  | .call _ _ cmd => cmd.isStop = true

def HttpRequest.key (req : HttpRequest D) : Option XWalletKey :=
  (XWalletKey.fromRequest req.headers).toOption

variable {wt : WalletThread} {fs : Fs} {K : HttpRequest D → Prop}

/-- The request's registration was handled and answered `Ok`. -/
def Added (log : List (Env D × Msg (service wt fs (Serves K)))) (i : Nat) (req : HttpRequest D)
    (key : XWalletKey) : Prop :=
  ∃ (n c : Nat) (b : Bool),
    Answered (A := service wt fs (Serves K)) log n ⟨i, .http req, c⟩ (registration key)
      (some (.ok b))

theorem Added.mono {log : List (Env D × Msg (service wt fs (Serves K)))} {i : Nat}
    {req : HttpRequest D} {key : XWalletKey} (h : Added log i req key)
    (e : Env D × Msg (service wt fs (Serves K))) : Added (log ++ [e]) i req key := by
  obtain ⟨n, c, b, hans⟩ := h
  exact ⟨n, c, b, hans.mono e⟩

/-- What a client of the workload has still to do. -/
inductive InSession (i : Nat) (log : List (Env D × Msg (service wt fs (Serves K)))) :
    Client D → Async D (Result D) → Prop
  | quiet {o p} (h : Quiet p) : InSession i log o p
  | stop {ctx : WalletCtx} {p : Payload} {cmd : WalletCmd D (some p)}
      {k : Option (Answer D (some p)) → Async D (Result D)} (ido : Option String)
      (hs : cmd.isStop = true) (hk : ∀ x, Quiet (k x)) :
      InSession i log (.call ctx p cmd) (.ask ⟨ido, some p, cmd⟩ k)
  | start {req key p} (hK : K req) (hkey : req.key = some key)
      (hd : req.endpoint.isDrop = false) (h : Registers req.endpoint.Works key p) :
      InSession i log (.http req) p
  | work {req key p} (hK : K req) (hkey : req.key = some key)
      (hd : req.endpoint.isDrop = false) (hadd : Added log i req key)
      (h : Routed req.endpoint.Works key.masterFingerprint p) : InSession i log (.http req) p
  | drop {req key p} (hK : K req) (hkey : req.key = some key)
      (hd : req.endpoint.isDrop = true) (h : Removes key.masterFingerprint p) :
      InSession i log (.http req) p

/-- What the commands of the workload are. -/
inductive Sent (i : Nat) (log : List (Env D × Msg (service wt fs (Serves K)))) :
    Client D → Request D → Prop
  | stop {ctx p cmd} (r : Request D) (hs : r.cmd.isStop = true) : Sent i log (.call ctx p cmd) r
  | register {req key} (hK : K req) (hkey : req.key = some key)
      (hd : req.endpoint.isDrop = false) : Sent i log (.http req) (registration key)
  | work {req key} (r : Request D) (hK : K req) (hkey : req.key = some key)
      (hd : req.endpoint.isDrop = false) (hw : req.endpoint.Works) (hadd : Added log i req key)
      (hido : r.ido = some key.masterFingerprint) (hr : r.cmd.isRouted = true) :
      Sent i log (.http req) r
  | drop {req key} (hK : K req) (hkey : req.key = some key)
      (hd : req.endpoint.isDrop = true) : Sent i log (.http req) (removal key.masterFingerprint)

theorem Quiet.bind {β γ : Type} {p : Async D β} (h : Quiet p) (f : β → γ) :
    Quiet (p >>= fun b => pure (f b)) := by
  obtain ⟨b, rfl⟩ := h
  exact ⟨f b, rfl⟩

theorem Operates.bind {β γ : Type} {W : Prop} {fp : String} {p : Async D β}
    (h : Operates W fp p) (f : β → γ) : Operates W fp (p >>= fun b => pure (f b)) :=
  ⟨h.routed.bind fun _ => trivial, fun hw => (h.asks hw).bind _⟩

theorem Registers.bind {β γ : Type} {W : Prop} {key : XWalletKey} {p : Async D β}
    (h : Registers W key p) (f : β → γ) : Registers W key (p >>= fun b => pure (f b)) := by
  obtain ⟨k, rfl, hn, he, hok⟩ := h
  exact ⟨fun x => k x >>= fun b => pure (f b), rfl, hn.bind f, fun err => (he err).bind f,
    fun b => (hok b).bind f⟩

theorem Removes.bind {β γ : Type} {fp : String} {p : Async D β} (h : Removes fp p) (f : β → γ) :
    Removes fp (p >>= fun b => pure (f b)) := by
  obtain ⟨k, rfl, hk⟩ := h
  exact ⟨fun x => k x >>= fun b => pure (f b), rfl, fun x => (hk x).bind f⟩

theorem inSession_launch (i : Nat) (log : List (Env D × Msg (service wt fs (Serves K))))
    (o : Client D) (ho : Serves K o) : InSession i log o o.launch := by
  cases o with
  | call ctx p cmd =>
    apply InSession.stop ctx.id ho
    intro x
    cases x <;> exact ⟨_, rfl⟩
  | http req =>
    cases hkey : XWalletKey.fromRequest req.headers with
    | error e =>
      refine .quiet ⟨.response (.error e), ?_⟩
      simp only [Client.launch, HttpRequest.serve, hkey]
      rfl
    | ok key =>
      have hk : req.key = some key := by simp [HttpRequest.key, hkey, Except.toOption]
      have hl : (Client.http req).launch =
          (req.endpoint.handler .new key).run >>= fun res => pure (.response res) := by
        simp only [Client.launch, HttpRequest.serve, hkey]
      rw [hl]
      cases hd : req.endpoint.isDrop with
      | false => exact .start ho hk hd ((req.endpoint.registers key hd).bind _)
      | true =>
        refine .drop ho hk hd (Removes.bind ?_ _)
        rw [Endpoint.eq_drop hd]
        exact removes_drop key

/-- The workload's clients and their commands follow these sessions. -/
theorem http_session (wt : WalletThread) (fs : Fs) (K : HttpRequest D → Prop) :
    Session (service wt fs (Serves K)) (fun i o log p => InSession i log o p)
      fun i o log r => Sent i log o r where
  start i o log ho := inSession_launch i log o ho
  mono i o log e p h := by
    cases h with
    | quiet h => exact .quiet h
    | stop ido hs hk => exact .stop ido hs hk
    | start hK hkey hd h => exact .start hK hkey hd h
    | work hK hkey hd hadd h => exact .work hK hkey hd (hadd.mono e) h
    | drop hK hkey hd h => exact .drop hK hkey hd h
  monoReq i o log e r h := by
    cases h with
    | stop r hs => exact .stop r hs
    | register hK hkey hd => exact .register hK hkey hd
    | work r hK hkey hd hw hadd hido hr => exact .work r hK hkey hd hw (hadd.mono e) hido hr
    | drop hK hkey hd => exact .drop hK hkey hd
  clock i o log k now h := by
    cases h with
    | quiet h => obtain ⟨b, hb⟩ := h; cases hb
    | start hK hkey hd h => obtain ⟨k, hk, -⟩ := h; cases hk
    | work hK hkey hd hadd h => exact .work hK hkey hd hadd (h now)
    | drop hK hkey hd h => obtain ⟨k, hk, -⟩ := h; cases hk
  ask i o log r k h := by
    cases h with
    | quiet h => obtain ⟨b, hb⟩ := h; cases hb
    | stop ido hs hk => exact .stop _ hs
    | start hK hkey hd h =>
      obtain ⟨k, hk, -⟩ := h
      cases hk
      exact .register hK hkey hd
    | work hK hkey hd hadd h => exact .work r hK hkey hd h.1 hadd h.2.1 h.2.2.1
    | drop hK hkey hd h =>
      obtain ⟨k, hk, -⟩ := h
      cases hk
      exact .drop hK hkey hd
  closed i o log r k h := by
    cases h with
    | quiet h => obtain ⟨b, hb⟩ := h; cases hb
    | stop ido hs hk => exact .quiet (hk none)
    | start hK hkey hd h =>
      obtain ⟨k, hk, hn, -⟩ := h
      cases hk
      exact .quiet hn
    | work hK hkey hd hadd h => exact .work hK hkey hd hadd (h.2.2.2 none)
    | drop hK hkey hd h =>
      obtain ⟨k, hk, hx⟩ := h
      cases hk
      exact .quiet (hx none)
  answered i o log r k n c a h hans := by
    cases h with
    | quiet h => obtain ⟨b, hb⟩ := h; cases hb
    | stop ido hs hk => exact .quiet (hk (some a))
    | start hK hkey hd h =>
      obtain ⟨k, hk, -, he, hok⟩ := h
      cases hk
      cases a with
      | error err => exact .quiet (he err)
      | ok b => exact .work hK hkey hd ⟨n, c, b, hans⟩ (hok b).routed
    | work hK hkey hd hadd h => exact .work hK hkey hd hadd (h.2.2.2 (some a))
    | drop hK hkey hd h =>
      obtain ⟨k, hk, hx⟩ := h
      cases hk
      exact .quiet (hx (some a))

/-- Every handled command is a refresh or was sent in such a session. -/
theorem logged_sent {s : State (service wt fs (Serves K))} (h : Reachable s) {n : Nat} {env : Env D}
    {m : Msg (service wt fs (Serves K))} (hn : s.log[n]? = some (env, m)) :
    (m.ticket = none ∧ m.request = .refresh) ∨
      ∃ k, m.ticket = some k ∧ Sent k.task (s.log.take n) k.origin m.request := by
  obtain ⟨r, ticket⟩ := m
  cases ticket with
  | none => exact .inl ⟨rfl, posted_of_no_ticket h (logged_mem hn) rfl⟩
  | some k => exact .inr ⟨k, rfl, ((http_session wt fs K).follows h).logged n env r k hn⟩

end RgbNodeApi

import RgbNodeApi.NodeApi
import RgbNodeApi.Registry
import RgbNodeApi.Lib.ActorRuns

/-!
# The service

The wallet thread as the server of any number of clients: HTTP requests, and
whoever else holds a `WalletCtx`. The refresh task posts its commands without a
reply channel, and the command channel holds 256 messages. A panic unwinds
`WalletThread::spawn`, so it ends the thread like `Stop` does, without an answer.
-/
namespace RgbNodeApi

open Files Actor

/-- Who sends commands: a request to the API, or a single method call. -/
inductive Client (D : Deps) where
  | http (req : HttpRequest D)
  | call (ctx : WalletCtx) (p : Payload) (cmd : WalletCmd D (some p))

inductive Result (D : Deps) where
  | response (res : Except ApiError (Body D))
  | value (p : Payload) (res : RResult (p.T D))

variable {D : Deps}

def Client.launch : Client D → Async D (Result D)
  | .http req => do
    let res ← (req.serve .new).run
    pure (.response res)
  | .call ctx p cmd => do
    let res ← ctx.sendCmd cmd
    pure (.value p res)

def Request.input (r : Request D) (env : Env D) : Input D := ⟨env, r.ido, r.T, r.cmd⟩

/-- The command of the refresh task. -/
def Request.refresh : Request D := ⟨none, none, .refresh⟩

abbrev service (wt : WalletThread) (fs : Fs) (arrives : Client D → Prop) : System where
  Req := Request D
  Ans r := Answer D r.T
  Server := ThreadState D
  World := Env D
  Time := SystemTime
  Origin := Client D
  Result := Result D
  start := .start fs
  handle st env r := (answer wt st (r.input env), step wt st (r.input env))
  running := ThreadState.running
  leftover := ThreadState.leftover
  broken := ThreadState.Broken
  launch := Client.launch
  arrives
  posted r := r = .refresh
  capacity := 256

section

variable {wt : WalletThread} {fs : Fs} {arrives : Client D → Prop}

/-- The commands handled, as the loop took them. -/
def history (log : List (Env D × Msg (service wt fs arrives))) : List (Input D) :=
  log.map fun e => Request.input e.2.request e.1

theorem history_snoc (log : List (Env D × Msg (service wt fs arrives)))
    (e : Env D × Msg (service wt fs arrives)) :
    history (log ++ [e]) = history log ++ [e.2.request.input e.1] := by
  simp [history]

theorem history_append (log rest : List (Env D × Msg (service wt fs arrives))) :
    history (log ++ rest) = history log ++ history rest := by
  simp [history]

/-- Handling the messages of the log is running the loop over the history. -/
theorem after_eq_runLoop (log : List (Env D × Msg (service wt fs arrives))) :
    (service wt fs arrives).after log = runLoop wt (.start fs) (history log) := by
  induction log using List.reverseRecOn with
  | nil => rfl
  | append_singleton log e ih =>
    rw [after_snoc, ih, history_snoc, runLoop_snoc]

theorem history_take (log : List (Env D × Msg (service wt fs arrives))) (n : Nat) :
    history (log.take n) = (history log).take n := by
  simp [history, List.map_take]

theorem wellFormed_history (log : List (Env D × Msg (service wt fs arrives))) :
    WellFormed (runLoop wt (.start fs) (history log)) :=
  runLoop_wellFormed wt _ _ (wellFormed_start fs)

/-- As long as its loop has not ended, the thread is as its history left it. -/
theorem server_eq_history {s : State (service wt fs arrives)} (h : Reachable s)
    (hp : ¬ s.phase.ended) : s.server = runLoop wt (.start fs) (history s.log) := by
  rw [server_eq_after h hp, after_eq_runLoop]

theorem wellFormed_leftover (st : ThreadState D) : WellFormed st.leftover where
  owner f a ha := by simp [ThreadState.leftover] at ha
  stopped _ f := by simp [ThreadState.leftover]

theorem wellFormed_server {s : State (service wt fs arrives)} (h : Reachable s) :
    WellFormed s.server := by
  apply Steps.server_holds h (I := WellFormed)
  · exact fun e _ st hw => step_wellFormed wt st (e.2.request.input e.1) hw
  · exact fun st _ => wellFormed_leftover st
  · rintro st _ ⟨fs', rfl⟩ hw
    exact ⟨hw.owner, hw.stopped⟩
  · exact wellFormed_start fs

/-- When the loop has ended no wallet is registered. -/
theorem registered_none_of_ended {s : State (service wt fs arrives)} (h : Reachable s)
    (hp : s.phase.ended) (f : String) : s.server.multiWstate[f]? = none :=
  (wellFormed_server h).stopped (not_running_of_ended h (fun _ => rfl) hp) f

theorem live_of_registered {s : State (service wt fs arrives)} (h : Reachable s) {f : String}
    {a : Arc} (ha : s.server.multiWstate[f]? = some a) : ¬ s.phase.ended := by
  intro hp
  rw [registered_none_of_ended h hp f] at ha
  cases ha

end

/-! ## Closed channels as clients see them -/

/-- What a closed reply channel looks like to the caller. -/
def dead (D : Deps) : (T : Option Payload) → Option (Answer D T)
  | none => none
  | some _ => some (.error errDeadThread)

/-- A closed reply channel and the dead-thread error are the same to the program. -/
def DeadIsError {β : Type} : Async D β → Prop
  | .ret _ => True
  | .clock k => ∀ now, DeadIsError (k now)
  | .ask r k => k none = k (dead D r.T) ∧ ∀ x, DeadIsError (k x)

theorem DeadIsError.bind {β γ : Type} {p : Async D β} {f : β → Async D γ}
    (hp : DeadIsError p) (hf : ∀ b, DeadIsError (f b)) : DeadIsError (p >>= f) := by
  induction p with
  | ret b => exact hf b
  | clock k ih => exact fun now => ih now (hp now)
  | ask r k ih => exact ⟨congrArg (· >>= f) hp.1, fun x => ih x (hp.2 x)⟩

theorem deadIsError_sendCmd (ctx : WalletCtx) {p : Payload} (cmd : WalletCmd D (some p)) :
    DeadIsError (ctx.sendCmd cmd) := by
  refine ⟨rfl, fun x => ?_⟩
  cases x <;> trivial

theorem deadIsError_sendBegin (ctx : WalletCtx)
    (req : SendBeginReq D.WitnessData D.Encryption) : DeadIsError (ctx.sendBegin req) := by
  intro now
  simp only
  split
  · trivial
  · exact deadIsError_sendCmd ctx (.sendBegin req)

theorem DeadIsError.andThen {β γ : Type} {m : Api D β} {f : β → Api D γ}
    (hm : DeadIsError m.run) (hf : ∀ b, DeadIsError (f b).run) : DeadIsError (m >>= f).run := by
  apply DeadIsError.bind hm
  intro res
  cases res with
  | error e => trivial
  | ok b => exact hf b

theorem DeadIsError.mapErr {α : Type} {m : Async D (RResult α)} (h : DeadIsError m) :
    DeadIsError (mapErr m).run :=
  h.bind fun _ => trivial

theorem DeadIsError.map {α β : Type} {m : Api D α} (h : DeadIsError m.run) (f : α → β) :
    DeadIsError (f <$> m).run := by
  apply DeadIsError.bind h
  intro res
  cases res <;> trivial

theorem deadIsError_deriveWctx (ctx : WalletCtx) (key : XWalletKey) :
    DeadIsError (deriveWctx (D := D) ctx key).run := by
  refine DeadIsError.mapErr ((deadIsError_sendCmd ctx _).bind fun res => ?_)
  cases res <;> trivial

theorem deadIsError_withWallet {α β : Type} (ctx : WalletCtx) (key : XWalletKey)
    (op : WalletCtx → Async D (RResult α)) (f : α → β) (hop : ∀ ctx, DeadIsError (op ctx)) :
    DeadIsError (withWallet ctx key op f).run :=
  (deadIsError_deriveWctx ctx key).andThen fun ctx => (hop ctx).mapErr.andThen fun _ => trivial

theorem deadIsError_register (ctx : WalletCtx) (key : XWalletKey) :
    DeadIsError (NodeApi.register (D := D) ctx key).run :=
  (deadIsError_deriveWctx ctx key).andThen fun ctx =>
    (deadIsError_sendCmd ctx _).mapErr.andThen fun _ =>
      (deadIsError_sendCmd ctx _).mapErr.andThen fun _ => trivial

theorem deadIsError_handler (ctx : WalletCtx) (key : XWalletKey) (e : Endpoint D) :
    DeadIsError (e.handler ctx key).run := by
  cases e with
  | register => exact (deadIsError_register ctx key).map _
  | drop =>
    refine DeadIsError.map (DeadIsError.andThen (deadIsError_sendCmd _ _).mapErr ?_) _
    exact fun _ => trivial
  | sendBegin req =>
    refine (deadIsError_withWallet ctx key _ _ fun ctx => ?_).map _
    exact deadIsError_sendBegin ctx req
  | _ =>
    refine (deadIsError_withWallet ctx key _ _ fun ctx => ?_).map _
    exact deadIsError_sendCmd ctx _

theorem deadIsError_launch (o : Client D) : DeadIsError o.launch := by
  cases o with
  | call ctx p cmd => exact (deadIsError_sendCmd ctx cmd).bind fun _ => trivial
  | http req =>
    refine DeadIsError.bind ?_ fun _ => trivial
    unfold HttpRequest.serve
    cases XWalletKey.fromRequest req.headers with
    | error e => trivial
    | ok key => exact deadIsError_handler _ key _

/-- Every client of the service treats a closed channel as the dead-thread error. -/
theorem dead_session (wt : WalletThread) (fs : Fs) (arrives : Client D → Prop) :
    Session (service wt fs arrives) (fun _ _ _ p => DeadIsError p) fun _ _ _ _ => True where
  start _ o _ _ := deadIsError_launch o
  mono _ _ _ _ _ h := h
  monoReq _ _ _ _ _ _ := trivial
  clock _ _ _ _ now h := h now
  ask _ _ _ _ _ _ := trivial
  closed _ _ _ _ _ h := h.2 none
  answered _ _ _ _ _ _ _ a h _ := h.2 (some a)

end RgbNodeApi

import RgbNodeApi.Progress

/-!
# The life of the node

`main` with the tasks it starts: it serves HTTP until the server stops, then
closes the tracker, cancels the refresh task and waits for the wallet thread. The
refresh task sends its command, and sleeps or ends. The steps of the node are
steps of the service; what the service leaves open, when clients arrive and when
the last sender is gone, is decided here.
-/
namespace RgbNodeApi

open Files Actor

variable {D : Deps}

/-- `main` is in `run_server`, or in `tasker.wait()`, or has returned. -/
inductive Stage where
  | serving | joining | halted
  deriving DecidableEq, Repr

/-- The refresh task is in `send`, or in `select!`, or has ended. -/
inductive Refresher where
  | sending | sleeping | done
  deriving DecidableEq, Repr

/-- `sent` counts the commands that the refresh task has put in the channel, lost ones
too; no code reads it. -/
structure Main (wt : WalletThread) (fs : Fs) (K : HttpRequest D → Prop) where
  service : State (service wt fs (Serves K))
  stage : Stage
  refresher : Refresher
  sent : Nat

variable {wt : WalletThread} {fs : Fs} {K : HttpRequest D → Prop}

namespace Main

def init (wt : WalletThread) (fs : Fs) (K : HttpRequest D → Prop) : Main wt fs K :=
  ⟨(RgbNodeApi.service wt fs (Serves K)).init, .serving, .sending, 0⟩

/-- Where the refresh task goes after `send`. A `select!` that starts when the token
is cancelled ends at once, since the timer cannot have fired yet. -/
def afterSend (n : Main wt fs K) : Refresher :=
  if n.stage = .serving then .sleeping else .done

/-- One step of the node; `panics` says whether a wallet operation may panic. -/
inductive Step (panics : Bool) : Main wt fs K → Main wt fs K → Prop
  | arrive {n} (req : HttpRequest D) (hK : K req) (hm : n.stage = .serving) :
      Step panics n { n with service :=
        { n.service with
          tasks := n.service.tasks ++ [⟨.http req, .running (Client.http req).launch⟩] } }
  | work {n s} (h : Forward n.service s) : Step panics n { n with service := s }
  -- actix drops the handler when its client hangs up or the server is stopped
  | abandon {n i t} (h : n.service.tasks[i]? = some t) (ht : ¬ t.finished) :
      Step panics n { n with service :=
        { n.service.setTask i t.origin .cancelled with
          chans := closeAll n.service.chans t.state.pending } }
  | panic {n m} (hp : panics = true) (h : n.service.phase = .handling m) (st : ThreadState D)
      (hst : n.service.server.Broken st) :
      Step panics n { n with service :=
        { n.service with
          server := st.leftover
          chans := closeAll n.service.chans m.chans
          phase := .stopping } }
  | refresh {n} (hr : n.refresher = .sending) (hq : n.service.queue.length < 256)
      (hp : n.service.phase ≠ .exited) :
      Step panics n { n with
        service := { n.service with queue := n.service.queue ++ [⟨Request.refresh, none⟩] }
        refresher := n.afterSend
        sent := n.sent + 1 }
  -- the error of `send` is ignored
  | refreshLost {n} (hr : n.refresher = .sending) (hp : n.service.phase = .exited) :
      Step panics n { n with refresher := n.afterSend }
  | wake {n} (hr : n.refresher = .sleeping) : Step panics n { n with refresher := .sending }
  | cancelled {n} (hr : n.refresher = .sleeping) (hm : n.stage ≠ .serving) :
      Step panics n { n with refresher := .done }
  -- `run_server` returns; `tasker.close()`, `cancel.cancel()`
  | join {n} (hm : n.stage = .serving) (ht : ∀ t ∈ n.service.tasks, t.finished) :
      Step panics n { n with stage := .joining }
  -- the refresh task held the last sender
  | release {n} (hm : n.stage ≠ .serving) (hr : n.refresher = .done)
      (hc : n.service.closed = false) :
      Step panics n { n with service := { n.service with closed := true } }
  -- `tasker.wait()` returns
  | halt {n} (hm : n.stage = .joining) (hp : n.service.phase = .exited) :
      Step panics n { n with stage := .halted }

abbrev Steps (panics : Bool) (n n' : Main wt fs K) : Prop :=
  Relation.ReflTransGen (Step panics) n n'

abbrev Reachable (panics : Bool) (n : Main wt fs K) : Prop := Steps panics (init wt fs K) n

/-- What the stages of the node say about the service. -/
structure Staged (n : Main wt fs K) : Prop where
  opened : n.stage = .serving ∨ n.refresher ≠ .done → n.service.closed = false
  finished : n.stage ≠ .serving → ∀ t ∈ n.service.tasks, t.finished
  refreshing : n.stage = .serving → n.refresher ≠ .done
  http : ∀ t ∈ n.service.tasks, ∃ req, K req ∧ t.origin = .http req

theorem staged_init : Staged (init wt fs K) where
  opened _ := rfl
  finished _ _ ht := absurd ht List.not_mem_nil
  refreshing _ := by simp [init]
  http _ ht := absurd ht List.not_mem_nil

theorem afterSend_of_serving {n : Main wt fs K} (h : n.stage = .serving) :
    n.afterSend ≠ .done := by simp [afterSend, h]

theorem afterSend_of_cancelled {n : Main wt fs K} (h : n.stage ≠ .serving) :
    n.afterSend = .done := by simp [afterSend, h]

/-- The origins of the tasks are what `http` is about. -/
theorem http_of_origins {s s' : State (RgbNodeApi.service wt fs (Serves K))}
    (h : ∀ t ∈ s.tasks, ∃ req, K req ∧ t.origin = .http req)
    (ho : s'.tasks.map (·.origin) = s.tasks.map (·.origin)) :
    ∀ t ∈ s'.tasks, ∃ req, K req ∧ t.origin = .http req := by
  intro t ht
  have hmem : t.origin ∈ s.tasks.map (·.origin) := by
    rw [← ho]
    exact List.mem_map_of_mem ht
  obtain ⟨t₀, ht₀, he⟩ := List.mem_map.mp hmem
  obtain ⟨req, hK, hreq⟩ := h t₀ ht₀
  exact ⟨req, hK, he ▸ hreq⟩

theorem Step.staged {panics : Bool} {n n' : Main wt fs K} (hs : Step panics n n')
    (h : Staged n) : Staged n' := by
  cases hs with
  | arrive req hK hm =>
    refine ⟨h.opened, fun hm' => absurd hm hm', h.refreshing, ?_⟩
    intro t ht
    obtain ht | ht := List.mem_append.mp ht
    · exact h.http t ht
    · rw [List.mem_singleton.mp ht]
      exact ⟨req, hK, rfl⟩
  | work hf =>
    refine ⟨fun hm => by rw [hf.closed, h.opened hm], fun hm => ?_, h.refreshing,
      http_of_origins h.http hf.origins⟩
    rw [hf.of_finished (h.finished hm)]
    exact h.finished hm
  | @abandon i t ht hnot =>
    refine ⟨h.opened, fun hm => ?_, h.refreshing, ?_⟩
    · exact absurd (h.finished hm t (List.mem_of_getElem? ht)) hnot
    · intro t' ht'
      obtain ht' | rfl := List.mem_or_eq_of_mem_set ht'
      · exact h.http t' ht'
      · exact h.http t (List.mem_of_getElem? ht)
  | panic => exact ⟨h.opened, h.finished, h.refreshing, h.http⟩
  | refresh hr _ _ =>
    exact ⟨fun _ => h.opened (.inr (by rw [hr]; simp)), h.finished,
      fun hm => afterSend_of_serving (n := n) hm, h.http⟩
  | refreshLost hr _ =>
    exact ⟨fun _ => h.opened (.inr (by rw [hr]; simp)), h.finished,
      fun hm => afterSend_of_serving (n := n) hm, h.http⟩
  | wake hr =>
    exact ⟨fun _ => h.opened (.inr (by rw [hr]; simp)), h.finished, fun _ => by simp, h.http⟩
  | cancelled hr hm =>
    exact ⟨fun _ => h.opened (.inr (by rw [hr]; simp)), h.finished, fun hm' => absurd hm' hm,
      h.http⟩
  | join hm ht => exact ⟨fun _ => h.opened (.inl hm), fun _ => ht, nofun, h.http⟩
  | release hm hr hc =>
    refine ⟨fun hor => ?_, h.finished, h.refreshing, h.http⟩
    obtain hm' | hr' := hor
    · exact absurd hm' hm
    · exact absurd hr hr'
  | halt hm hp =>
    refine ⟨fun hor => ?_, fun _ => h.finished (by rw [hm]; simp), nofun, h.http⟩
    obtain hm' | hr' := hor
    · cases hm'
    · exact h.opened (.inr hr')

theorem staged {panics : Bool} {n : Main wt fs K} (h : Reachable panics n) : Staged n := by
  induction h with
  | refl => exact staged_init
  | tail _ hs ih => exact hs.staged ih

theorem Staged.of_closed {n : Main wt fs K} (h : Staged n) (hc : n.service.closed = true) :
    n.stage ≠ .serving ∧ n.refresher = .done := by
  constructor
  · intro hm
    rw [h.opened (.inl hm)] at hc
    cases hc
  · by_contra hr
    rw [h.opened (.inr hr)] at hc
    cases hc

/-- A step of the node is a step of the service, or none. -/
theorem Step.service {panics : Bool} {n n' : Main wt fs K} (hs : Step panics n n')
    (h : Staged n) : Actor.Step n.service n'.service ∨ n'.service = n.service := by
  cases hs with
  | arrive req hK hm => exact .inl (.begin (Client.http req) hK (h.opened (.inl hm)))
  | work hf => exact .inl hf.step
  | abandon ht _ => exact .inl (.cancel ht)
  | panic _ hm st hst => exact .inl (.crash hm st hst)
  | refresh hr hq hp =>
    exact .inl (.post _ rfl hq hp (h.opened (.inr (by rw [hr]; simp))))
  | release _ _ _ => exact .inl .close
  | _ => exact .inr rfl

/-- Every run of the node is a run of the service. -/
theorem Steps.service {panics : Bool} {n n' : Main wt fs K} (h : Reachable panics n)
    (hs : Steps panics n n') : Actor.Steps n.service n'.service := by
  induction hs with
  | refl => exact .refl
  | tail hb hstep ih =>
    obtain hs | hs := hstep.service (staged (h.trans hb))
    · exact ih.tail hs
    · rwa [hs]

theorem Reachable.service {panics : Bool} {n : Main wt fs K} (h : Reachable panics n) :
    Actor.Reachable n.service := Steps.service .refl h

/-- Every reachable state of the node holds a reachable state of the service, all of
whose requests came over HTTP, and the node's runs are the service's. -/
theorem refines_service {panics : Bool} {n n' : Main wt fs K} (h : Reachable panics n)
    (hs : Steps panics n n') :
    Actor.Reachable n.service ∧ Actor.Steps n.service n'.service ∧
      (∀ t ∈ n.service.tasks, ∃ req, K req ∧ t.origin = .http req) ∧
      (n.service.closed = true → n.stage ≠ .serving ∧ n.refresher = .done ∧
        ∀ t ∈ n.service.tasks, t.finished) := by
  have hstaged := staged h
  refine ⟨Reachable.service h, Steps.service h hs, hstaged.http, fun hc => ?_⟩
  obtain ⟨hmain, hr⟩ := hstaged.of_closed hc
  exact ⟨hmain, hr, hstaged.finished hmain⟩

/-- The reference node for one request that drops a wallet. -/
abbrev Reference : Type :=
  Main ⟨Reference.config, Reference.tempDir⟩ (fun _ => absent)
    (fun req => req ∈ [Reference.request Reference.key .drop])

/-- It has sent its first refresh. -/
theorem Reference.refreshed : ∃ n : Reference, Reachable false n ∧ n.stage = .serving ∧
    n.refresher = .sleeping ∧ n.service.tasks = [] ∧ n.service.phase = .idle ∧
    n.service.log = [] ∧ n.service.queue = [⟨Request.refresh, none⟩] ∧ n.sent = 1 :=
  ⟨_, .single (.refresh rfl (Nat.zero_lt_succ _) nofun), rfl, rfl, rfl, rfl, rfl, rfl, rfl⟩

/-- Then a request arrives. -/
theorem Reference.requested : ∃ n : Reference, Reachable false n ∧ n.stage = .serving ∧
    n.service.tasks.length = 1 := by
  obtain ⟨n, hn, hm, -, ht, -⟩ := Reference.refreshed
  refine ⟨_, hn.tail (.arrive _ List.mem_cons_self hm), hm, ?_⟩
  simp [ht]

/-- Or its server has stopped before that. -/
theorem Reference.joined : ∃ n : Reference, Reachable false n ∧ n.stage = .joining ∧
    n.refresher = .sleeping ∧ n.service.phase = .idle ∧ n.service.log = [] ∧
    n.service.queue = [⟨Request.refresh, none⟩] ∧ n.sent = 1 := by
  obtain ⟨n, hn, hm, hr, ht, hp, hl, hq, hsent⟩ := Reference.refreshed
  refine ⟨_, hn.tail (.join hm ?_), rfl, hr, hp, hl, hq, hsent⟩
  simp [ht]

theorem refines_service_reference : ∃ n : Reference, Reachable false n ∧
    Actor.Reachable n.service ∧ n.service.tasks.length = 1 := by
  obtain ⟨n, hn, -, ht⟩ := Reference.requested
  exact ⟨n, hn, (refines_service hn .refl).1, ht⟩

/-! ## The wallet thread outlives the server -/

theorem runLoop_running (is : List (Input D)) (h : ∀ i ∈ is, i.cmd.isStop = false) :
    (runLoop wt (.start fs) is).running = true := by
  induction is using List.reverseRecOn with
  | nil => rfl
  | append_singleton is i ih =>
    rw [runLoop_snoc]
    have hold := ih fun j hj => h j (List.mem_append_left _ hj)
    exact step_stays_running wt hold i (h i (by simp))

/-- No request stops the wallet thread. -/
theorem logged_not_stop {panics : Bool} {n : Main wt fs K} (h : Reachable panics n)
    {e : Env D × Msg (RgbNodeApi.service wt fs (Serves K))} (he : e ∈ n.service.log) :
    e.2.request.cmd.isStop = false := by
  obtain ⟨m, hm⟩ := List.mem_iff_getElem?.mp he
  obtain ⟨env, r, ticket⟩ := e
  obtain ⟨-, hr⟩ | ⟨k, hk, hsent⟩ := logged_sent h.service hm
  · change r = _ at hr
    rw [hr]
    rfl
  · obtain ⟨-, t, ht, ho⟩ := (recorded h.service).ticket _ (logged_mem hm) k hk
    obtain ⟨req, -, hreq⟩ := (staged h).http t (List.mem_of_getElem? ht)
    rw [← ho, hreq] at hsent
    cases hsent with
    | register => rfl
    | work r _ _ _ _ _ _ hr => exact WalletCmd.routed_isStop _ hr
    | drop => rfl

theorem Reachable.running {panics : Bool} {n : Main wt fs K} (h : Reachable panics n)
    (hp : ¬ n.service.phase.ended) : n.service.server.running = true := by
  rw [server_eq_history h.service hp]
  apply runLoop_running
  intro i hi
  obtain ⟨e, he, rfl⟩ := List.mem_map.mp hi
  exact logged_not_stop h he

/-- The wallet thread has ended by itself: after the last sender, with nothing remaining
to do. -/
def Drained (n : Main wt fs K) : Prop :=
  n.service.phase.ended → n.service.closed = true ∧ n.service.queue = []

theorem Step.drained {n n' : Main wt fs K} (hr : Reachable false n) (hs : Step false n n')
    (h : Drained n) : Drained n' := by
  have hstaged := Main.staged hr
  have hlogged := fun e => logged_not_stop (hr.tail hs) (e := e)
  intro hp
  cases hs with
  | work hf =>
    obtain hp₀ | ⟨env, m, hm, hl, hstop⟩ | ⟨hc, hq⟩ := hf.ends hp
    · obtain ⟨hc, hq⟩ := h hp₀
      have hfin := hstaged.finished (hstaged.of_closed hc).1
      exact ⟨by rw [hf.closed, hc], hf.queue_of_finished hfin hq⟩
    · have hlive : ¬ n.service.phase.ended := by simp [hm, Phase.ended]
      have hcmd := hlogged (env, m) (by simp [hl])
      have hgoes := step_stays_running wt (Reachable.running hr hlive) (m.request.input env) hcmd
      rw [show ThreadState.running _ = false from hstop] at hgoes
      cases hgoes
    · exact ⟨by rw [hf.closed, hc], hq⟩
  | panic hpanic => cases hpanic
  | refresh hsend _ _ =>
    have hdone := (hstaged.of_closed (h hp).1).2
    rw [hsend] at hdone
    cases hdone
  | release => exact ⟨rfl, (h hp).2⟩
  | _ => exact h hp

theorem drained {n : Main wt fs K} (h : Reachable false n) : Drained n := by
  induction h with
  | refl => exact fun hp => absurd hp (by simp [init, System.init, Phase.ended])
  | tail hr hs ih => exact hs.drained hr ih

/-- Without a panic the wallet thread is there as long as HTTP is served, and a request
that finds its reply channel closed had its command handled and discarded. -/
theorem alive_while_serving {n : Main wt fs K} (h : Reachable false n) (hm : n.stage = .serving) :
    ¬ n.service.phase.ended ∧ n.service.server.running = true ∧
    ∀ (i : Nat) (o : Client D) (r : Request D) (c : Nat), ClosedOn n.service i o r c →
      ∃ m, Answered n.service.log m ⟨i, o, c⟩ r none := by
  have hrun : ¬ n.service.phase.ended := by
    intro hp
    exact ((staged h).of_closed (drained h hp).1).1 hm
  refine ⟨hrun, Reachable.running h hrun, fun i o r c hc => ?_⟩
  obtain hp | hans := closed_cases h.service hc
  · exact absurd hp hrun
  · exact hans

theorem alive_while_serving_reference : ∃ n : Reference, Reachable false n ∧
    n.service.tasks.length = 1 ∧ ¬ n.service.phase.ended := by
  obtain ⟨n, hn, hm, ht⟩ := Reference.requested
  exact ⟨n, hn, ht, (alive_while_serving hn hm).1⟩

theorem Step.keeps_arrivals {n n' : Main wt fs K} (hr : Reachable false n)
    (hs : Step false n n') : n.service.arrivals <+: n'.service.arrivals := by
  cases hs with
  | work hf =>
    refine hf.arrivals fun hp => (Main.drained hr ?_).2
    rw [hp]
    trivial
  | panic hpanic => cases hpanic
  | refresh =>
    simp only [State.arrivals, ← List.append_assoc]
    exact List.prefix_append _ _
  | _ => exact List.prefix_refl _

/-- Without a panic no command is lost: at the exit of the wallet thread everything
that was ever put in the channel has been handled, in the order it came. -/
theorem nothing_lost {n n' : Main wt fs K} (h : Reachable false n) (hs : Steps false n n')
    (he : n'.service.phase = .exited) :
    n.service.arrivals <+: n'.service.log.map Prod.snd := by
  have harr : n.service.arrivals <+: n'.service.arrivals := by
    clear he
    induction hs with
    | refl => exact List.prefix_refl _
    | tail hb hstep ih => exact ih.trans (hstep.keeps_arrivals (h.trans hb))
  have hq : n'.service.queue = [] := (drained (h.trans hs) (by rw [he]; trivial)).2
  have hall : n'.service.arrivals = n'.service.log.map Prod.snd := by
    simp [State.arrivals, hq, he]
  rwa [hall] at harr

/-! ## One more refresh -/

/-- The refresh commands that have arrived. -/
def refreshes (n : Main wt fs K) : Nat :=
  n.service.arrivals.countP fun m => m.ticket.isNone

/-- What the refresh task may still send once it is cancelled. -/
def Refresher.due : Refresher → Nat
  | .done => 0
  | _ => 1

theorem due_le (r : Refresher) : Refresher.due r ≤ 1 := by cases r <;> decide

theorem Step.stays_cancelled {panics : Bool} {n n' : Main wt fs K} (hs : Step panics n n')
    (hm : n.stage ≠ .serving) : n'.stage ≠ .serving := by
  cases hs with
  | join => simp
  | halt => simp
  | _ => exact hm

theorem Steps.stays_cancelled {panics : Bool} {n n' : Main wt fs K} (hs : Steps panics n n')
    (hm : n.stage ≠ .serving) : n'.stage ≠ .serving := by
  induction hs with
  | refl => exact hm
  | tail _ hstep ih => exact hstep.stays_cancelled ih

theorem Step.sent_le {panics : Bool} {n n' : Main wt fs K} (hs : Step panics n n')
    (hm : n.stage ≠ .serving) :
    n'.sent + Refresher.due n'.refresher ≤ n.sent + Refresher.due n.refresher := by
  cases hs with
  | arrive _ _ hm' => exact absurd hm' hm
  | refresh hr _ _ => simp [afterSend_of_cancelled hm, hr, Refresher.due]
  | refreshLost hr _ => simp [afterSend_of_cancelled hm, hr, Refresher.due]
  | wake hr => simp [hr, Refresher.due]
  | cancelled hr _ => simp [hr, Refresher.due]
  | _ => exact Nat.le_refl _

/-- A refresh that is there and was not there before was counted. -/
theorem Step.refreshes {panics : Bool} {n n' : Main wt fs K} (hs : Step panics n n') :
    Main.refreshes n' + n.sent ≤ Main.refreshes n + n'.sent := by
  cases hs with
  | work hf => exact Nat.add_le_add_right hf.posted _
  | panic _ hp =>
    simp only [Main.refreshes, State.arrivals, hp, Phase.message, List.append_nil,
      List.countP_append]
    omega
  | refresh _ _ _ =>
    simp only [Main.refreshes, State.arrivals, List.countP_append, List.countP_singleton,
      Option.isNone_none, if_true]
    omega
  | _ => exact Nat.le_refl _

/-- The refresh task sends at most one command after the cancellation, and no other
refresh comes into the channel. -/
theorem one_more_refresh {panics : Bool} {n n' : Main wt fs K} (hs : Steps panics n n')
    (hm : n.stage ≠ .serving) :
    n'.sent ≤ n.sent + 1 ∧ refreshes n' + n.sent ≤ refreshes n + n'.sent := by
  have hsum : n'.sent + Refresher.due n'.refresher ≤ n.sent + Refresher.due n.refresher ∧
      refreshes n' + n.sent ≤ refreshes n + n'.sent := by
    induction hs with
    | refl => exact ⟨Nat.le_refl _, Nat.le_refl _⟩
    | tail hb hstep ih =>
      have hdue := hstep.sent_le (Steps.stays_cancelled hb hm)
      have hthere := hstep.refreshes
      omega
  have hle := due_le n.refresher
  omega

/-- The refresh task is woken, and sends the one command. -/
theorem one_more_refresh_reference : ∃ n n' : Reference, Reachable false n ∧
    n.stage = .joining ∧ Steps false n n' ∧ n.sent = 1 ∧ n'.sent = 2 ∧
    n'.sent ≤ n.sent + 1 ∧ refreshes n' + n.sent ≤ refreshes n + n'.sent := by
  obtain ⟨n, hn, hm, hr, hp, -, hq, hsent⟩ := Reference.joined
  have hmain : n.stage ≠ .serving := by rw [hm]; simp
  let woken : Reference := { n with refresher := .sending }
  have hwake : Step false n woken := .wake hr
  have hsend : Step false woken _ := .refresh rfl
    (by rw [show woken.service.queue = _ from hq]; exact Nat.succ_lt_succ (Nat.zero_lt_succ _))
    (by rw [show woken.service.phase = _ from hp]; nofun)
  have hs : Steps false n _ := .tail (.single hwake) hsend
  obtain ⟨hone, hthere⟩ := one_more_refresh hs hmain
  exact ⟨n, _, hn, hm, hs, hsent, by rw [hsent], hone, hthere⟩

/-! ## The shutdown ends -/

def Stage.rank : Stage → Nat
  | .serving => 2
  | .joining => 1
  | .halted => 0

def Refresher.rank : Refresher → Nat
  | .sleeping => 2
  | .sending => 1
  | .done => 0

/-- What is left of the shutdown besides the work of the service. -/
def remaining (n : Main wt fs K) : Nat :=
  Stage.rank n.stage + Refresher.rank n.refresher + if n.service.closed then 0 else 1

theorem Step.decreases {panics : Bool} {n n' : Main wt fs K} (hs : Step panics n n')
    (h : Staged n) (hm : n.stage ≠ .serving) :
    Prod.Lex (· < ·) (Prod.Lex (Relation.CutExpand Advance) (· < ·))
      (remaining n', n'.service.work, n'.service.backlog)
      (remaining n, n.service.work, n.service.backlog) := by
  cases hs with
  | arrive _ _ hm' => exact absurd hm' hm
  | @work s hf =>
    have hstage : remaining ({ n with service := s } : Main wt fs K) = remaining n := by
      simp only [remaining, hf.closed]
    rw [hstage]
    exact .right _ hf.decreases
  | abandon ht hnot => exact absurd (h.finished hm _ (List.mem_of_getElem? ht)) hnot
  | panic _ hp =>
    refine .right _ (.right _ ?_)
    simp [State.backlog, hp, Phase.rank]
  | refresh hr _ _ =>
    refine .left _ _ ?_
    simp [remaining, afterSend_of_cancelled hm, hr, Refresher.rank]
  | refreshLost hr _ =>
    refine .left _ _ ?_
    simp [remaining, afterSend_of_cancelled hm, hr, Refresher.rank]
  | wake hr =>
    refine .left _ _ ?_
    simp [remaining, hr, Refresher.rank]
  | cancelled hr _ =>
    refine .left _ _ ?_
    simp [remaining, hr, Refresher.rank]
  | join hm' => exact absurd hm' hm
  | release _ _ hc =>
    refine .left _ _ ?_
    simp [remaining, hc]
  | halt hm' _ =>
    refine .left _ _ ?_
    simp [remaining, hm', Stage.rank]

/-- After the server has stopped no run of the node is infinite. -/
theorem acc_of_cancelled {panics : Bool} {n : Main wt fs K} (h : Staged n)
    (hm : n.stage ≠ .serving) : Acc (fun n' n => Step panics n n') n := by
  have hirr : Std.Irrefl (Advance : TaskState (RgbNodeApi.service wt fs (Serves K)) → _ → Prop) :=
    advance_wf.irrefl
  have hwf := WellFounded.prod_lex Nat.lt_wfRel.wf (WellFounded.prod_lex
    (WellFounded.cutExpand (advance_wf (A := RgbNodeApi.service wt fs (Serves K))))
    Nat.lt_wfRel.wf)
  induction he : (remaining n, n.service.work, n.service.backlog) using hwf.induction generalizing n
    with
  | _ x ih =>
    subst he
    constructor
    intro n' hs
    exact ih _ (hs.decreases h hm) (hs.staged h) (hs.stays_cancelled hm) rfl

theorem no_endless_shutdown {panics : Bool} {f : Nat → Main wt fs K} (h : Staged (f 0))
    (hm : (f 0).stage ≠ .serving) : ¬ ∀ i, Step panics (f i) (f (i + 1)) := by
  intro hrun
  have hacc : ∀ n, Acc (fun n' n => Step panics n n') n → ∀ i, f i ≠ n := by
    intro n hn
    induction hn with
    | intro n _ ih =>
      rintro i rfl
      exact ih _ (hrun i) (i + 1) rfl
  exact hacc _ (acc_of_cancelled h hm) 0 rfl

/-- `main` has returned, and the refresh task and the wallet thread with it. -/
structure Over (n : Main wt fs K) : Prop where
  stage : n.stage = .halted
  refresher : n.refresher = .done
  service : n.service.phase = .exited

section

variable [Nonempty (Env D)]

theorem forward_or_exited {panics : Bool} {n : Main wt fs K} (h : Reachable panics n) :
    (∃ n', Step panics n n') ∨ n.service.phase = .exited ∨
      (n.service.phase = .idle ∧ n.service.closed = false ∧ n.service.queue = []) := by
  have hworld : Nonempty (RgbNodeApi.service wt fs (Serves K)).World := ‹Nonempty (Env D)›
  have htime : Nonempty (RgbNodeApi.service wt fs (Serves K)).Time := ⟨(0 : Int)⟩
  obtain ⟨s, hs⟩ | hq := forward_or_quiescent h.service capacity_pos
  · exact .inl ⟨_, .work hs⟩
  · obtain ⟨hp, hc⟩ | hp := hq.server
    · exact .inr (.inr ⟨hp, hc, hq.queue⟩)
    · exact .inr (.inl hp)

/-- Once the server has stopped, where no step is left everything is over. -/
theorem step_or_over {panics : Bool} {n : Main wt fs K} (h : Reachable panics n)
    (hm : n.stage ≠ .serving) : (∃ n', Step panics n n') ∨ Over n := by
  obtain hstep | hphase := forward_or_exited h
  · exact .inl hstep
  cases hr : n.refresher with
  | sleeping => exact .inl ⟨_, .cancelled hr hm⟩
  | sending =>
    obtain hp | ⟨hp, -, hq⟩ := hphase
    · exact .inl ⟨_, .refreshLost hr hp⟩
    · exact .inl ⟨_, .refresh hr (by simp [hq]) (by simp [hp])⟩
  | done =>
    obtain hp | ⟨-, hc, -⟩ := hphase
    · cases hmain : n.stage with
      | serving => exact absurd hmain hm
      | joining => exact .inl ⟨_, .halt hmain hp⟩
      | halted => exact .inr ⟨hmain, hr, hp⟩
    · exact .inl ⟨_, .release hm hr hc⟩

theorem reaches_over {panics : Bool} {n : Main wt fs K} (h : Reachable panics n)
    (hm : n.stage ≠ .serving) : ∃ n', Steps panics n n' ∧ Over n' := by
  have hacc : Acc (fun n' n => Step panics n n') n := acc_of_cancelled (staged h) hm
  induction hacc with
  | intro n _ ih =>
    obtain ⟨n₁, hs₁⟩ | hover := step_or_over h hm
    · obtain ⟨n', hs', hover⟩ := ih n₁ hs₁ (h.tail hs₁) (hs₁.stays_cancelled hm)
      exact ⟨n', .head hs₁ hs', hover⟩
    · exact ⟨n, .refl, hover⟩

/-- After the server has stopped the node halts, in whatever order its parts move:
no run is infinite, and only with all of them ended is there no step left. -/
theorem shutdown_completes {panics : Bool} {n : Main wt fs K} (h : Reachable panics n)
    (hm : n.stage ≠ .serving) :
    (∀ f : Nat → Main wt fs K, f 0 = n → ¬ ∀ i, Step panics (f i) (f (i + 1))) ∧
    (∃ n', Steps panics n n' ∧ Over n') ∧
    ∀ n', Steps panics n n' → (∀ n'', ¬ Step panics n' n'') → Over n' := by
  refine ⟨fun f hf => ?_, reaches_over h hm, fun n' hs hstuck => ?_⟩
  · subst hf
    exact no_endless_shutdown (staged h) hm
  · obtain ⟨n'', hstep⟩ | hover := step_or_over (h.trans hs) (hs.stays_cancelled hm)
    · exact absurd hstep (hstuck n'')
    · exact hover

end

theorem Reference.over : ∃ n n' : Reference, Reachable false n ∧ n.stage = .joining ∧
    n.service.arrivals = [⟨Request.refresh, none⟩] ∧ Steps false n n' ∧ Over n' := by
  have hnonempty : Nonempty (Env Reference.deps) := ⟨Reference.world⟩
  obtain ⟨n, hn, hm, -, hp, hl, hq, -⟩ := Reference.joined
  obtain ⟨n', hs, hover⟩ := reaches_over hn (by rw [hm]; simp)
  exact ⟨n, n', hn, hm, by simp [State.arrivals, hp, hl, hq], hs, hover⟩

theorem shutdown_completes_reference : ∃ n n' : Reference, Reachable false n ∧
    Steps false n n' ∧ n.stage = .joining ∧ Over n' := by
  have hnonempty : Nonempty (Env Reference.deps) := ⟨Reference.world⟩
  obtain ⟨n, hn, hm, -, -⟩ := Reference.joined
  obtain ⟨-, ⟨n', hs, hover⟩, -⟩ := shutdown_completes hn (by rw [hm]; simp)
  exact ⟨n, n', hn, hs, hm, hover⟩

/-- The first refresh is handled before the exit. -/
theorem nothing_lost_reference : ∃ n n' : Reference, Steps false n n' ∧ Over n' ∧
    [⟨Request.refresh, none⟩] <+: n'.service.log.map Prod.snd := by
  obtain ⟨n, n', hn, -, harr, hs, hover⟩ := Reference.over
  have h := nothing_lost hn hs hover.service
  rw [harr] at h
  exact ⟨n, n', hs, hover, h⟩

end Main

end RgbNodeApi

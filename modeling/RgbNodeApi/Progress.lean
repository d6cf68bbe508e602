import RgbNodeApi.Lib.ActorProgress
import RgbNodeApi.Accounts

/-!
# Turns and rest

A command in the channel is handled in its turn, in the state that those ahead of
it leave, whatever is sent later. And when no more requests come, every one of
them is answered.
-/
namespace RgbNodeApi

open Files Actor

variable {D : Deps} {wt : WalletThread} {fs : Fs} {arrives : Client D → Prop}

/-- A command at place `j` of the channel has `j` others ahead of it there, fewer than
256. Between now and its handling just these and the one in the loop are
handled, and its answer is the loop's after them. -/
theorem handled_in_turn {s s' : State (service wt fs arrives)} (h : Reachable s) (hs : Steps s s')
    {j : Nat} {m : Msg (service wt fs arrives)} {k : Ticket (service wt fs arrives)}
    (hj : s.queue[j]? = some m) (hk : m.ticket = some k) {n : Nat} {env : Env D} {r : Request D}
    {k' : Ticket (service wt fs arrives)} (hn : s'.log[n]? = some (env, ⟨r, some k'⟩))
    (hc : k'.chan = k.chan) :
    j < 256 ∧ r = m.request ∧ k' = k ∧ ∃ ahead : List (Env D × Msg (service wt fs arrives)),
      ahead.map Prod.snd = s.phase.message ++ s.queue.take j ∧ s'.log.take n = s.log ++ ahead ∧
      Answered s'.log n k' r
        (answer wt (runLoop wt s.server (history ahead)) (r.input env)) := by
  obtain ⟨hcap, hsame, hpos⟩ := fifo h hs hj
  obtain rfl := hpos k hk n env r k' hn hc
  obtain ⟨rfl, rfl⟩ : r = m.request ∧ k' = k := by
    have he := hsame env _ hn
    subst he
    cases hk
    exact ⟨rfl, rfl⟩
  obtain ⟨rest, hrest⟩ := Steps.log_prefix hs
  obtain ⟨hltn, -⟩ := List.getElem?_eq_some_iff.mp hn
  obtain ⟨hltj, -⟩ := List.getElem?_eq_some_iff.mp hj
  let ahead := rest.take (s.phase.message.length + j)
  have htake : s'.log.take (s.log.length + s.phase.message.length + j) = s.log ++ ahead := by
    rw [← hrest, Nat.add_assoc, List.take_length_add_append]
  refine ⟨hcap, rfl, rfl, ahead, ?_, htake, env, hn, ?_⟩
  · have hlen : s.log.length + s.phase.message.length + j ≤ s.arrivals.length := by
      simp only [State.arrivals, List.length_append, List.length_map]
      omega
    have hall := hs.log_take (Nat.le_of_lt hltn) hlen
    rw [← List.map_take, htake, List.map_append, State.arrivals] at hall
    have hpre : s.log.length + s.phase.message.length =
        (s.log.map Prod.snd ++ s.phase.message).length := by simp
    rw [hpre, List.take_length_add_append, List.append_assoc] at hall
    exact List.append_cancel_left hall
  · have hlive : ¬ s.phase.ended := by
      intro hended
      rw [(Steps.ended hs hended).2] at hltn
      omega
    rw [htake, after_eq_runLoop, history_append, runLoop_append, ← server_eq_history h hlive]

/-- Three requests: while the first command is handled, the others wait behind it. -/
theorem Reference.three_wait :
    ∃ (s s' : State (Reference.system [Reference.request Reference.key .address,
        Reference.request Reference.otherXpubs .drop,
        Reference.request Reference.upperCase (.sendBtcBegin Reference.payment)]))
      (first second third : Msg _) (k : Ticket _), Reachable s ∧ Steps s s' ∧
      s.phase = .handling first ∧ s.queue = [second, third] ∧ third.ticket = some k ∧
      third.request = registration Reference.upperCase ∧
      s'.log = [(Reference.world, first), (Reference.world, second), (Reference.world, third)] := by
  let reqs := [Reference.request Reference.key .address,
    Reference.request Reference.otherXpubs .drop,
    Reference.request Reference.upperCase (.sendBtcBegin Reference.payment)]
  let A := Reference.system reqs
  obtain ⟨k₁, hk₁, -⟩ := registers_launch (Reference.request_key Reference.key rfl rfl rfl .address)
    rfl
  obtain ⟨k₂, hk₂, -⟩ := removes_launch
    (Reference.request_key Reference.otherXpubs rfl rfl rfl .drop) rfl
  obtain ⟨k₃, hk₃, -⟩ := registers_launch (Reference.request_key Reference.upperCase rfl rfl rfl
    (.sendBtcBegin Reference.payment)) rfl
  -- the first command is taken from the channel before the others come
  obtain ⟨s₁, hs₁, hc₁, hp₁, hq₁, hlog₁, hserver₁⟩ := queues (s := A.init) rfl nofun
    (Nat.zero_lt_succ _) (o := .http (Reference.request Reference.key .address))
    (List.mem_cons_self : _ ∈ reqs) hk₁
  let first : Msg A := ⟨registration Reference.key, some ⟨0, .http reqs[0], 0⟩⟩
  let s₂ : State A := { s₁ with phase := .handling first, queue := [] }
  have hs₂ : Step s₁ s₂ := .recv hp₁ hq₁
  obtain ⟨s₃, hs₃, hc₃, hp₃, hq₃, hlog₃, hserver₃⟩ := queues (s := s₂) hc₁ nofun
    (Nat.zero_lt_succ _) (o := .http (Reference.request Reference.otherXpubs .drop))
    (show _ ∈ reqs by simp [reqs]) hk₂
  obtain ⟨s₄, hs₄, -, hp₄, hq₄, hlog₄, hserver₄⟩ := queues (s := s₃) hc₃ (by rw [hp₃]; nofun)
    (by rw [hq₃]; exact Nat.succ_lt_succ (Nat.zero_lt_succ _))
    (o := .http (Reference.request Reference.upperCase (.sendBtcBegin Reference.payment)))
    (show _ ∈ reqs by simp [reqs]) hk₃
  have hphase : s₄.phase = .handling first := by rw [hp₄, hp₃]
  have hserver : s₄.server = .start fun _ => absent := by rw [hserver₄, hserver₃]; exact hserver₁
  have hlog : s₄.log = [] := by rw [hlog₄, hlog₃]; exact hlog₁
  rw [hq₃] at hq₄
  have hgoes : ∀ m ∈ first :: s₄.queue, m.request.cmd.isStop = false := by
    rw [hq₄]
    intro m hm
    rcases List.mem_cons.mp hm with rfl | hm
    · rfl
    rcases List.mem_cons.mp hm with rfl | hm
    · rfl
    rw [List.mem_singleton.mp hm]
    rfl
  obtain ⟨s₅, hs₅, hlog₅⟩ := drains Reference.world hphase (by rw [hserver]; rfl)
    fun m hm st hst => step_stays_running _ hst (m.request.input Reference.world) (hgoes m hm)
  refine ⟨s₄, s₅, first, _, _, _, ((hs₁.tail hs₂).trans hs₃).trans hs₄, hs₅, hphase, hq₄, rfl, rfl,
    ?_⟩
  rw [hlog₅, hq₄, hlog]
  rfl

/-- The third of them is answered in the state that the first two leave. -/
theorem handled_in_turn_third :
    ∃ (s s' : State (Reference.system [Reference.request Reference.key .address,
        Reference.request Reference.otherXpubs .drop,
        Reference.request Reference.upperCase (.sendBtcBegin Reference.payment)]))
      (first second third : Msg _) (k : Ticket _), Reachable s ∧ Steps s s' ∧
      s.phase = .handling first ∧ s.queue = [second, third] ∧ third.ticket = some k ∧
      ∃ ahead, ahead.map Prod.snd = [first, second] ∧ s'.log.take 2 = s.log ++ ahead ∧
        Answered s'.log 2 k (registration Reference.upperCase)
          (answer ⟨Reference.config, Reference.tempDir⟩
            (runLoop ⟨Reference.config, Reference.tempDir⟩ s.server (history ahead))
            ((registration Reference.upperCase).input Reference.world)) := by
  obtain ⟨s, s', first, second, ⟨r, ticket⟩, k, h, hs, hp, hq, hk, hr, hlog⟩ := Reference.three_wait
  change r = registration Reference.upperCase at hr
  change ticket = some k at hk
  subst hr hk
  obtain ⟨-, -, -, ahead, hahead, htake, hans⟩ :=
    handled_in_turn (j := 1) (n := 2) h hs (by rw [hq]; rfl) rfl (by rw [hlog]; rfl) rfl
  rw [hp, hq] at hahead
  exact ⟨s, s', first, second, _, k, h, hs, hp, hq, rfl, ahead, hahead, htake, hans⟩

/-- What a request has when it has finished is a response. -/
theorem finished_response {s : State (service wt fs arrives)} (h : Reachable s) {i : Nat}
    {req : HttpRequest D} {b : Result D} (ht : s.tasks[i]? = some ⟨.http req, .running (.ret b)⟩) :
    ∃ res, b = .response res := by
  obtain ⟨q, -, he⟩ := (ran_turns h ht).bind_ret
  cases q with
  | ret res =>
    cases he
    exact ⟨res, rfl⟩
  | clock k => cases he
  | ask r k => cases he

/-- When no more requests come and nothing panics, the service comes to rest by
itself, after finitely many steps in whatever order. Where no step is left, every
request that was not cancelled has its response, the channel is empty, and the
wallet thread waits for the next command or has exited. -/
theorem service_settles [Nonempty (Env D)] {s : State (service wt fs arrives)}
    (h : Reachable s) :
    (∀ f : Nat → State (service wt fs arrives), f 0 = s → ¬ ∀ n, Forward (f n) (f (n + 1))) ∧
    (∃ s', ForwardRun s s' ∧ Quiescent s') ∧
    ∀ s' : State (service wt fs arrives), ForwardRun s s' →
      ((∀ s'', ¬ Forward s' s'') ↔ Quiescent s') ∧
      (Quiescent s' → ∀ (i : Nat) (req : HttpRequest D) (st : TaskState (service wt fs arrives)),
        s.tasks[i]? = some ⟨.http req, st⟩ → st ≠ .cancelled →
          ∃ res, s'.tasks[i]? = some ⟨.http req, .running (.ret (.response res))⟩) := by
  have hworld : Nonempty (service wt fs arrives).World := ‹Nonempty (Env D)›
  have htime : Nonempty (service wt fs arrives).Time := ⟨(0 : Int)⟩
  refine ⟨fun f _ => no_endless_run f, settles h capacity_pos, fun s' hs => ?_⟩
  have h' : Reachable s' := h.trans (ForwardRun.steps hs)
  refine ⟨(quiescent_iff_stuck h' capacity_pos).symm, fun hq i req st ht hst => ?_⟩
  obtain ⟨⟨o, st'⟩, ht', ho⟩ := Steps.origin (ForwardRun.steps hs) ht
  change o = .http req at ho
  subst ho
  obtain ⟨b, hb⟩ | hcan := hq.finished _ (List.mem_of_getElem? ht')
  · change st' = _ at hb
    subst hb
    obtain ⟨res, rfl⟩ := finished_response h' ht'
    exact ⟨res, ht'⟩
  · have hold := ForwardRun.cancelled hs ht' hcan
    rw [ht] at hold
    cases hold
    exact absurd hcan hst

/-- A request that has just arrived. -/
theorem service_settles_request :
    ∃ (s s' : State (Reference.system [Reference.request Reference.key .drop])) (res : _),
      ForwardRun s s' ∧
      s.tasks.length = 1 ∧ s'.tasks[0]? =
        some ⟨.http (Reference.request Reference.key .drop), .running (.ret (.response res))⟩ := by
  have hnonempty : Nonempty (Env Reference.deps) := ⟨Reference.world⟩
  obtain ⟨s, hs, -, htasks, -⟩ :=
    (calm_init (Reference.system [Reference.request Reference.key .drop])).begin
      (o := .http (Reference.request Reference.key .drop)) List.mem_cons_self rfl
  have htasks : s.tasks = [⟨.http (Reference.request Reference.key .drop), .running _⟩] := htasks
  obtain ⟨-, ⟨s', hs', hq⟩, hrest⟩ := service_settles hs
  obtain ⟨res, hres⟩ := (hrest s' hs').2 hq 0 _ _ (by rw [htasks]; rfl) (by simp)
  exact ⟨s, s', res, hs', by rw [htasks]; rfl, hres⟩

end RgbNodeApi

import RgbNodeApi.Service
import RgbNodeApi.Reference

/-!
# Replies

What every client of the service can rely on for the reply to its commands, in
any interleaving, with clients that disconnect, a thread that crashes, and a
shutdown with commands still queued.
-/
namespace RgbNodeApi

open Files Actor

variable {D : Deps} {wt : WalletThread} {fs : Fs} {arrives : Client D → Prop}

/-- A client in `send_cmd` has its command on the way, or its reply is there and
the client can take it. -/
theorem asking_cases {s : State (service wt fs arrives)} (h : Reachable s) {i : Nat}
    {t : Task (service wt fs arrives)} {r : Request D} {c : Nat} (ht : s.tasks[i]? = some t)
    (ha : t.state.asking = some (r, c)) :
    (∃ k, t.state = .sending r c k) ∨ ⟨r, some ⟨i, t.origin, c⟩⟩ ∈ s.queue ∨
      s.phase = .handling ⟨r, some ⟨i, t.origin, c⟩⟩ ∨
      ∃ (k : Option (Answer D r.T) → Async D (Result D)) (x : Option (Answer D r.T))
        (ch : Chan (service wt fs arrives)),
        t.state = .waiting r c k ∧ s.chans[c]? = some ch ∧ ch.resolved = [x.map (Sigma.mk r)] ∧
        Step s (s.setTask i t.origin (.running (k x))) := by
  obtain ⟨o, st⟩ := t
  cases st with
  | running p => cases ha
  | cancelled => cases ha
  | sending r' c' k =>
    cases ha
    exact .inl ⟨k, rfl⟩
  | waiting r' c' k =>
    cases ha
    obtain (hq | hp) | ⟨ch, x, hch, hres⟩ := waiting_cases h ht
    · exact .inr (.inl hq)
    · exact .inr (.inr (.inl hp))
    · exact .inr (.inr (.inr ⟨k, x, ch, rfl, hch, hres, .deliver x ht hch (by simp [hres])⟩))

/-- Every channel is held by one party and open, or free and resolved once. -/
theorem channel_cases {s : State (service wt fs arrives)} (h : Reachable s) {c : Nat}
    {ch : Chan (service wt fs arrives)} (hc : s.chans[c]? = some ch) :
    (ch.resolved = [] ∧ (held s).count c = 1) ∨ (ch.resolved.length = 1 ∧ c ∉ held s) := by
  obtain ⟨hlt, -⟩ := List.getElem?_eq_some_iff.mp hc
  have hone := conserved h c
  simp only [issued, hlt, if_true, resolutions, hc, Option.map_some, Option.getD_some] at hone
  by_cases hres : ch.resolved = []
  · rw [hres, List.length_nil] at hone
    exact .inl ⟨hres, by omega⟩
  · have hpos := List.length_pos_iff.mpr hres
    exact .inr ⟨by omega, List.count_eq_zero.mp (by omega)⟩

/-- What the loop resolved the channel of a handled command with. -/
theorem handled_reply {s : State (service wt fs arrives)} (h : Reachable s) {n : Nat} {env : Env D}
    {r : Request D} {k : Ticket (service wt fs arrives)}
    (hn : s.log[n]? = some (env, ⟨r, some k⟩)) :
    ∃ ch : Chan (service wt fs arrives), s.chans[k.chan]? = some ch ∧ ch.resolved =
      [(answer wt (runLoop wt (.start fs) (history (s.log.take n))) (r.input env)).map
        (Sigma.mk r)] := by
  obtain ⟨ch, hch, hres⟩ := (explained h).handled n k r _ ⟨env, hn, rfl⟩
  refine ⟨ch, hch, ?_⟩
  rw [hres, after_eq_runLoop]

/-- A client sees a closed channel as the dead-thread error. -/
theorem closed_is_dead {s : State (service wt fs arrives)} (h : Reachable s) {i : Nat}
    {o : Client D} {r : Request D} {c : Nat}
    {k : Option (Answer D r.T) → Async D (Result D)}
    (ht : s.tasks[i]? = some ⟨o, .sending r c k⟩ ∨ s.tasks[i]? = some ⟨o, .waiting r c k⟩) :
    k none = k (dead D r.T) := by
  have hf := (dead_session wt fs arrives).follows h
  obtain ht | ht := ht
  · exact (hf.task i _ (.ask r k) ht rfl).1
  · exact (hf.task i _ (.ask r k) ht rfl).1

/-- No reply is orphaned and none is doubled: a client in `send_cmd` has its
command on the way, with the thread, or answered; a channel is open in one hand
or resolved once; a command the loop has passed was resolved with its own answer
or closed; after the exit what was queued is closed, and so is what comes later,
which its client takes for the dead-thread error. -/
theorem replies_resolved_once (wt : WalletThread) (fs : Fs) (arrives : Client D → Prop)
    (s : State (service wt fs arrives)) (h : Reachable s) :
    (∀ (i : Nat) (t : Task (service wt fs arrives)) (r : Request D) (c : Nat),
      s.tasks[i]? = some t → t.state.asking = some (r, c) →
      (∃ k, t.state = .sending r c k) ∨ ⟨r, some ⟨i, t.origin, c⟩⟩ ∈ s.queue ∨
      s.phase = .handling ⟨r, some ⟨i, t.origin, c⟩⟩ ∨
      ∃ (k : Option (Answer D r.T) → Async D (Result D)) (x : Option (Answer D r.T))
        (ch : Chan (service wt fs arrives)),
        t.state = .waiting r c k ∧ s.chans[c]? = some ch ∧ ch.resolved = [x.map (Sigma.mk r)] ∧
        Step s (s.setTask i t.origin (.running (k x)))) ∧
    (∀ (c : Nat) (ch : Chan (service wt fs arrives)), s.chans[c]? = some ch →
      (ch.resolved = [] ∧ (held s).count c = 1) ∨ (ch.resolved.length = 1 ∧ c ∉ held s)) ∧
    (∀ (n : Nat) (env : Env D) (r : Request D) (k : Ticket (service wt fs arrives)),
      s.log[n]? = some (env, ⟨r, some k⟩) →
      ∃ ch : Chan (service wt fs arrives), s.chans[k.chan]? = some ch ∧ ch.resolved =
        [(answer wt (runLoop wt (.start fs) (history (s.log.take n))) (r.input env)).map
          (Sigma.mk r)]) ∧
    (∀ s' : State (service wt fs arrives), Steps s s' →
      ∀ (m : Msg (service wt fs arrives)) (k : Ticket (service wt fs arrives)),
        m ∈ s.queue ++ s.phase.message → m.ticket = some k →
        m ∉ s'.queue ++ s'.phase.message →
        ∃ ch : Chan (service wt fs arrives), s'.chans[k.chan]? = some ch ∧
          (ch.resolved = [none] ∨ ∃ n a, ch.resolved = [some ⟨m.request, a⟩] ∧
            Answered s'.log n k m.request (some a))) ∧
    (s.phase.ended → ∀ s' : State (service wt fs arrives), Steps s s' → s'.phase = .exited →
      (∀ (m : Msg (service wt fs arrives)) (k : Ticket (service wt fs arrives)),
        m ∈ s.queue → m.ticket = some k →
        ∃ ch : Chan (service wt fs arrives), s'.chans[k.chan]? = some ch ∧
          ch.resolved = [none]) ∧
      (∀ (c : Nat) (ch : Chan (service wt fs arrives)), s'.chans[c]? = some ch →
        (∀ ch₀ : Chan (service wt fs arrives), s.chans[c]? = some ch₀ → ch₀.resolved = []) →
        ch.resolved = [none] ∨ ∃ (i : Nat) (o : Client D) (r : Request D)
          (k : Option (Answer D r.T) → Async D (Result D)),
          s'.tasks[i]? = some ⟨o, .sending r c k⟩ ∧
          Step s' { s'.setTask i o (.waiting r c k) with chans := closeAll s'.chans [c] })) ∧
    (∀ (i : Nat) (o : Client D) (r : Request D) (c : Nat)
      (k : Option (Answer D r.T) → Async D (Result D)),
      s.tasks[i]? = some ⟨o, .sending r c k⟩ ∨ s.tasks[i]? = some ⟨o, .waiting r c k⟩ →
      k none = k (dead D r.T)) := by
  refine ⟨?_, ?_, ?_, ?_, ?_, ?_⟩
  · intro i t r c ht ha
    exact asking_cases h ht ha
  · intro c ch hc
    exact channel_cases h hc
  · intro n env r k hn
    exact handled_reply h hn
  · intro s' hs m k hm hk hgone
    exact passed_resolved h hs hm hk hgone
  · intro hp s' hs he
    refine ⟨fun m k hm hk => queue_closed_at_exit h hp hs he hm hk, fun c ch hc hopen => ?_⟩
    obtain hnil | hnone := closed_after_end h hp hs hc hopen
    · obtain ⟨i, o, r, k, ht⟩ := open_after_exit (h.trans hs) he hc hnil
      exact .inr ⟨i, o, r, k, ht, .bounce ht he⟩
    · exact .inl hnone
  · intro i o r c k ht
    exact closed_is_dead h ht

/-- A client that has made its request and not sent it yet: its channel is open and
in one hand. -/
theorem replies_resolved_once_asked :
    ∃ (s : State (service (D := Reference.deps) ⟨Reference.config, Reference.tempDir⟩
        (fun _ => absent) fun _ => True)) (c : Nat) (ch : Chan _),
      Reachable s ∧ s.chans[c]? = some ch ∧ ch.resolved = [] ∧ (held s).count c = 1 := by
  let A : System := service (D := Reference.deps) ⟨Reference.config, Reference.tempDir⟩
    (fun _ => absent) fun _ => True
  obtain ⟨s, hs, -, htasks, -⟩ :=
    (calm_init A).begin (o := Client.call WalletCtx.new .unit .stop) trivial rfl
  have ht : s.tasks[0]? = some ⟨.call .new .unit .stop, .running
      (Client.call (D := Reference.deps) .new .unit .stop).launch⟩ := by
    rw [htasks]
    rfl
  have hasked : Reachable (A := A) _ := hs.tail (.ask ht)
  have hch := List.getElem?_concat_length (l := s.chans)
    (a := (⟨⟨none, some .unit, .stop⟩, 0, []⟩ : Chan A))
  refine ⟨_, s.chans.length, _, hasked, hch, rfl, ?_⟩
  obtain ⟨-, hone, -⟩ := replies_resolved_once _ _ _ _ hasked
  obtain ⟨-, hcount⟩ | ⟨hlen, -⟩ := hone _ _ hch
  · exact hcount
  · cases hlen

end RgbNodeApi

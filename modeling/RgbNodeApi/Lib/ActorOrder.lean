import RgbNodeApi.Lib.ActorRuns
import Mathlib.Data.List.Flatten
import Mathlib.Data.List.Nodup

/-!
# First come, first served

The requests in the order in which they entered the queue: those that were
handled, the one with the server, and the queue. A step only adds to the end of
this list, until the server ends; so the log follows the queue, and a request is
overtaken by none.
-/
namespace Actor

variable {A : System}

def State.arrivals (s : State A) : List (Msg A) :=
  s.log.map Prod.snd ++ s.phase.message ++ s.queue

/-- Before the end nothing leaves the list of arrivals. -/
theorem Step.arrivals {s s' : State A} (hs : Step s s') (hp' : ¬ s'.phase.ended) :
    s.arrivals <+: s'.arrivals := by
  cases hs with
  | enqueue =>
    simp only [State.arrivals, State.setTask, ← List.append_assoc]
    exact List.prefix_append _ _
  | post =>
    simp only [State.arrivals, ← List.append_assoc]
    exact List.prefix_append _ _
  | recv hp hq => simp [State.arrivals, hp, hq]
  | handle w hp => simp [State.arrivals, hp, message_next]
  | crash => exact absurd trivial hp'
  | hangup => exact absurd trivial hp'
  | shutdown => exact absurd trivial hp'
  | _ => exact List.prefix_refl _

theorem Steps.arrivals {s s' : State A} (hs : Steps s s') (hp : ¬ s'.phase.ended) :
    s.arrivals <+: s'.arrivals := by
  induction hs with
  | refl => exact List.prefix_refl _
  | tail _ hstep ih =>
    have hrun : ¬ (_ : State A).phase.ended := fun hended => hp (hstep.ended hended).1
    exact (ih hrun).trans (hstep.arrivals hp)

/-- The log follows the list of arrivals of any earlier state. -/
theorem Steps.log_follows {s s' : State A} (hs : Steps s s') :
    s'.log.map Prod.snd <+: s.arrivals ∨ s.arrivals <+: s'.log.map Prod.snd := by
  induction hs with
  | refl =>
    rw [State.arrivals, List.append_assoc]
    exact .inl (List.prefix_append _ _)
  | @tail b c hb hstep ih =>
    obtain hl | ⟨w, m, hp, hl⟩ := hstep.log
    · rwa [hl]
    · have hrun : ¬ b.phase.ended := by simp [hp, Phase.ended]
      have hlog : c.log.map Prod.snd <+: b.arrivals := by
        rw [hl, State.arrivals, hp]
        simp
      exact List.prefix_or_prefix_of_prefix hlog (Steps.arrivals hb hrun)

/-- What is handled at a place of the list of arrivals is what stands there. -/
theorem logged_arrival {s s' : State A} (hs : Steps s s') {n : Nat} {w : A.World} {m m' : Msg A}
    (hn : s'.log[n]? = some (w, m')) (hm : s.arrivals[n]? = some m) : m' = m := by
  have hn' : (s'.log.map Prod.snd)[n]? = some m' := by
    rw [List.getElem?_map, hn]
    rfl
  obtain ⟨rest, hrest⟩ | ⟨rest, hrest⟩ := hs.log_follows
  · obtain ⟨hlt, -⟩ := List.getElem?_eq_some_iff.mp hn'
    rw [← hrest, List.getElem?_append_left hlt, hn'] at hm
    exact Option.some.inj hm
  · obtain ⟨hlt, -⟩ := List.getElem?_eq_some_iff.mp hm
    rw [← hrest, List.getElem?_append_left hlt, hm] at hn'
    exact (Option.some.inj hn').symm

/-- The first requests that are handled are the first arrivals. -/
theorem Steps.log_take {s s' : State A} (hs : Steps s s') {n : Nat} (hlog : n ≤ s'.log.length)
    (harr : n ≤ s.arrivals.length) : (s'.log.map Prod.snd).take n = s.arrivals.take n := by
  obtain ⟨rest, hrest⟩ | ⟨rest, hrest⟩ := hs.log_follows
  · rw [← hrest, List.take_append_of_le_length (by simpa using hlog)]
  · rw [← hrest, List.take_append_of_le_length harr]

/-- The place of a queued request in the list of arrivals. -/
theorem queued_arrival (s : State A) {j : Nat} {m : Msg A} (hj : s.queue[j]? = some m) :
    s.arrivals[s.log.length + s.phase.message.length + j]? = some m := by
  have hlen : (s.log.map Prod.snd ++ s.phase.message).length =
      s.log.length + s.phase.message.length := by simp
  rw [State.arrivals, List.getElem?_append_right (by omega), hlen, Nat.add_sub_cancel_left, hj]

/-! ## No request arrives twice -/

/-- The channels of all requests that have arrived. -/
def arrived (s : State A) : List Nat := s.arrivals.flatMap Msg.chans

theorem mem_arrived {s : State A} {c : Nat} (h : c ∈ arrived s) :
    (∃ m ∈ s.queue ++ s.phase.message, c ∈ m.chans) ∨
      ∃ (n : Nat) (w : A.World) (m : Msg A), s.log[n]? = some (w, m) ∧ c ∈ m.chans := by
  obtain ⟨m, hm, hc⟩ := List.mem_flatMap.mp h
  simp only [State.arrivals, List.mem_append, List.mem_map] at hm
  rcases hm with (⟨⟨w, m'⟩, he, rfl⟩ | hm) | hm
  · obtain ⟨n, hn⟩ := List.mem_iff_getElem?.mp he
    exact .inr ⟨n, w, m', hn, hc⟩
  · exact .inl ⟨m, List.mem_append_right _ hm, hc⟩
  · exact .inl ⟨m, List.mem_append_left _ hm, hc⟩

/-- A channel that a client is about to use has not arrived. -/
theorem pending_not_arrived {s : State A} (h : Reachable s) {i : Nat} {t : Task A} {r : A.Req}
    {c : Nat} (ht : s.tasks[i]? = some t) (ha : t.state.asking = some (r, c))
    (hc : c ∈ t.state.pending) : c ∉ arrived s := by
  intro harr
  have hpend : c ∈ s.tasks.flatMap (·.state.pending) :=
    List.mem_flatMap.mpr ⟨t, List.mem_of_getElem? ht, hc⟩
  obtain ⟨m, hm, hmc⟩ | ⟨n, w, m, hn, hmc⟩ := mem_arrived harr
  · have hone := conserved h c
    have hfly : c ∈ (s.queue ++ s.phase.message).flatMap Msg.chans :=
      List.mem_flatMap.mpr ⟨m, hm, hmc⟩
    have hp₁ := List.count_pos_iff.mpr hpend
    have hp₂ := List.count_pos_iff.mpr hfly
    simp only [held, List.count_append, issued] at hone
    split at hone <;> omega
  · obtain ⟨r', ticket⟩ := m
    cases ticket with
    | none => simp [Msg.chans] at hmc
    | some k =>
      simp only [Msg.chans, Option.map_some, Option.toList_some, List.mem_singleton] at hmc
      subst hmc
      have hnot := (explained h).not_held (conserved h) (n := n) (k := k) (r := r') ⟨w, hn, rfl⟩
      exact hnot (List.mem_append_left _ hpend)

theorem Step.arrived_nodup {s s' : State A} (hs : Step s s') (h : Reachable s)
    (hnd : (arrived s).Nodup) : (arrived s').Nodup := by
  have hsub : ∀ {b : State A}, b.arrivals.Sublist s.arrivals → (arrived b).Nodup :=
    fun hb => hnd.sublist (hb.flatMap _)
  cases hs with
  | @enqueue i o r c k ht hq hp =>
    have hnew := pending_not_arrived h ht rfl (List.mem_singleton_self c)
    have harr : arrived { s.setTask i o (.waiting r c k) with
        queue := s.queue ++ [⟨r, some ⟨i, o, c⟩⟩] } = arrived s ++ [c] := by
      simp [arrived, State.arrivals, State.setTask, Msg.chans]
    rw [harr, List.nodup_append]
    exact ⟨hnd, List.nodup_singleton c, by
      intro a ha b hb
      rw [List.mem_singleton.mp hb]
      rintro rfl
      exact hnew ha⟩
  | post r hr hq hp hc =>
    have harr : arrived { s with queue := s.queue ++ [⟨r, none⟩] } = arrived s := by
      simp [arrived, State.arrivals, Msg.chans]
    rwa [harr]
  | recv hp hq =>
    apply hsub
    simp [State.arrivals, hp, hq]
  | handle w hp =>
    apply hsub
    simp [State.arrivals, hp, message_next]
  | crash hp =>
    apply hsub
    simp [State.arrivals, hp]
  | hangup hp hq =>
    apply hsub
    simp [State.arrivals, hp]
  | shutdown hp =>
    apply hsub
    simp [State.arrivals, hp]
  | _ => exact hnd

theorem arrived_nodup {s : State A} (h : Reachable s) : (arrived s).Nodup := by
  induction h with
  | refl => simp [arrived, State.arrivals, System.init]
  | tail hr hs ih => exact hs.arrived_nodup hr ih

/-- Two arrivals on one channel are the same. -/
theorem arrival_unique {s : State A} (h : Reachable s) {a b : Nat} {m m' : Msg A}
    {k k' : Ticket A} (ha : s.arrivals[a]? = some m) (hb : s.arrivals[b]? = some m')
    (hm : m.ticket = some k) (hm' : m'.ticket = some k') (hk : k.chan = k'.chan) : a = b := by
  have hpair := List.pairwise_iff_getElem.mp (List.nodup_flatMap.mp (arrived_nodup h)).2
  obtain ⟨hlta, rfl⟩ := List.getElem?_eq_some_iff.mp ha
  obtain ⟨hltb, rfl⟩ := List.getElem?_eq_some_iff.mp hb
  have hmem : k.chan ∈ s.arrivals[a].chans := by simp [Msg.chans, hm]
  have hmem' : k.chan ∈ s.arrivals[b].chans := by simp [Msg.chans, hm', hk]
  rcases Nat.lt_trichotomy a b with hlt | rfl | hlt
  · exact absurd hmem' (hpair a b hlta hltb hlt hmem)
  · rfl
  · exact absurd hmem (hpair b a hltb hlta hlt hmem')

theorem logged_in_arrivals {s : State A} {n : Nat} {w : A.World} {m : Msg A}
    (hn : s.log[n]? = some (w, m)) : s.arrivals[n]? = some m := by
  obtain ⟨hlt, -⟩ := List.getElem?_eq_some_iff.mp hn
  rw [State.arrivals, List.append_assoc, List.getElem?_append_left (by simpa using hlt),
    List.getElem?_map, hn]
  rfl

/-! ## A bounded queue -/

theorem queue_le_capacity {s : State A} (h : Reachable s) : s.queue.length ≤ A.capacity := by
  induction h with
  | refl => exact Nat.zero_le _
  | tail _ hs ih =>
    cases hs with
    | enqueue ht hq hp => simpa using Nat.succ_le_of_lt hq
    | post r hr hq hp hc => simpa using Nat.succ_le_of_lt hq
    | recv hp hq =>
      rw [hq] at ih
      exact Nat.le_of_succ_le ih
    | shutdown => exact Nat.zero_le _
    | _ => exact ih

/-- A queued request is handled in its turn: after those that are ahead of it, which
are fewer than the queue holds and the one with the server, and after no other. -/
theorem fifo {s s' : State A} (h : Reachable s) (hs : Steps s s') {j : Nat} {m : Msg A}
    (hj : s.queue[j]? = some m) :
    j < A.capacity ∧
    (∀ w m', s'.log[s.log.length + s.phase.message.length + j]? = some (w, m') → m' = m) ∧
    ∀ k, m.ticket = some k → ∀ n w r k', s'.log[n]? = some (w, ⟨r, some k'⟩) →
      k'.chan = k.chan → n = s.log.length + s.phase.message.length + j := by
  have hpos := queued_arrival s hj
  obtain ⟨hltj, -⟩ := List.getElem?_eq_some_iff.mp hj
  refine ⟨Nat.lt_of_lt_of_le hltj (queue_le_capacity h), ?_, ?_⟩
  · intro w m' hn
    exact logged_arrival hs hn hpos
  · intro k hk n w r k' hn hchan
    rcases Nat.lt_or_ge n s.arrivals.length with hlt | hge
    · have hat := List.getElem?_eq_getElem hlt
      have hsame := logged_arrival hs hn hat
      rw [← hsame] at hat
      exact arrival_unique h hat hpos rfl hk hchan
    · -- the whole of the earlier list has been handled by then
      have hall : s.arrivals <+: s'.log.map Prod.snd := by
        obtain hpre | hpre := hs.log_follows
        · have hle := hpre.length_le
          obtain ⟨hlt, -⟩ := List.getElem?_eq_some_iff.mp hn
          rw [List.length_map] at hle
          omega
        · exact hpre
      obtain ⟨rest, hrest⟩ := hall
      obtain ⟨hlt, -⟩ := List.getElem?_eq_some_iff.mp hpos
      have hpos' : (s'.log.map Prod.snd)[s.log.length + s.phase.message.length + j]? = some m := by
        rw [← hrest, List.getElem?_append_left hlt, hpos]
      rw [List.getElem?_map] at hpos'
      obtain ⟨⟨w', m₁⟩, he, rfl⟩ := Option.map_eq_some_iff.mp hpos'
      exact arrival_unique (h.trans hs) (logged_in_arrivals hn) (logged_in_arrivals he) rfl hk hchan

/-! ## Waiting in the queue -/

/-- A client arrives and puts its first request in the queue. -/
theorem queues {s : State A} (hc : s.closed = false) (hp : s.phase ≠ .exited)
    (hq : s.queue.length < A.capacity) {o : A.Origin} (ho : A.arrives o) {r : A.Req}
    {k : Option (A.Ans r) → A.Prog} (hl : A.launch o = .ask r k) :
    ∃ s' : State A, Steps s s' ∧ s'.closed = false ∧ s'.phase = s.phase ∧
      s'.queue = s.queue ++ [⟨r, some ⟨s.tasks.length, o, s.chans.length⟩⟩] ∧
      s'.log = s.log ∧ s'.server = s.server := by
  let i := s.tasks.length
  let c := s.chans.length
  let s₁ : State A := { s with tasks := s.tasks ++ [⟨o, .running (.ask r k)⟩] }
  let s₂ : State A := { s₁.setTask i o (.sending r c k) with chans := s.chans ++ [⟨r, i, []⟩] }
  have hlt : i < s₁.tasks.length := by simp [s₁, i]
  have h₁ : Step s s₁ := by
    have hbegin := Step.begin o ho hc
    rwa [hl] at hbegin
  have h₂ : Step s₁ s₂ := .ask (by simp [s₁, i])
  have h₃ : Step s₂ { s₂.setTask i o (.waiting r c k) with
      queue := s.queue ++ [⟨r, some ⟨i, o, c⟩⟩] } :=
    .enqueue (List.getElem?_set_self hlt) hq hp
  exact ⟨_, .tail (.tail (.single h₁) h₂) h₃, hc, rfl, rfl, rfl, rfl⟩

/-- The server handles its request and those in the queue, if none of them stops it. -/
theorem drains (w : A.World) {s : State A} {m : Msg A} (hp : s.phase = .handling m)
    (hrun : A.running s.server = true) (hkeep : ∀ m' ∈ m :: s.queue, ∀ st, A.running st = true →
      A.running (A.handle st w m'.request).2 = true) :
    ∃ s' : State A, Steps s s' ∧ s'.log = s.log ++ (m :: s.queue).map (w, ·) := by
  induction hq : s.queue generalizing s m with
  | nil => exact ⟨_, .single (.handle w hp), rfl⟩
  | cons m' q ih =>
    rw [hq] at hkeep
    have hnext := hkeep m List.mem_cons_self s.server hrun
    let s₁ : State A := { s with
      server := (A.handle s.server w m.request).2
      chans := reply s.chans m (A.handle s.server w m.request).1
      log := s.log ++ [(w, m)]
      phase := .idle }
    have h₁ : Step s s₁ := by
      have hhandle := Step.handle w hp
      rwa [hnext, if_pos rfl] at hhandle
    have h₂ : Step s₁ { s₁ with phase := .handling m', queue := q } := .recv rfl hq
    obtain ⟨s', hs, hlog⟩ := ih (s := { s₁ with phase := .handling m', queue := q }) rfl hnext
      (fun m'' hm => hkeep m'' (List.mem_cons_of_mem m hm)) rfl
    exact ⟨s', .head h₁ (.head h₂ hs), by rw [hlog]; simp [s₁]⟩

end Actor

import RgbNodeApi.Lib.ActorSessions

/-!
# Runs

Where closed channels come from while the server runs, and how a run is put
together: a calm system serves one request in a round of five steps.
-/
namespace Actor

variable {A : System}

/-- A request without a reply channel was posted by the service itself. -/
theorem posted_of_no_ticket {s : State A} (h : Reachable s) {m : Msg A} (hm : m ∈ s.messages)
    (hk : m.ticket = none) : A.posted m.request := by
  induction h with
  | refl => simp [State.messages, System.init] at hm
  | tail _ hs ih =>
    obtain hm | ⟨-, hp⟩ | ⟨i, o, c, k, -, hk'⟩ := hs.message hm
    · exact ih hm
    · exact hp
    · rw [hk] at hk'
      cases hk'

/-! ## Closed channels -/

/-- A client that is still there and whose channel was closed. -/
def ClosedOn (s : State A) (i : Nat) (o : A.Origin) (r : A.Req) (c : Nat) : Prop :=
  ∃ (t : Task A) (ch : Chan A), s.tasks[i]? = some t ∧ t.origin = o ∧
    t.state.asking = some (r, c) ∧ s.chans[c]? = some ch ∧ ch.resolved = [none]

/-- A channel that a reply closes is the one of the message, which had no answer. -/
theorem reply_closed {chans : List (Chan A)} {m : Msg A} {x : Option (A.Ans m.request)} {c : Nat}
    {ch ch' : Chan A} (hch : chans[c]? = some ch) (hopen : ch.resolved = [])
    (hch' : (reply chans m x)[c]? = some ch') (hres : ch'.resolved = [none]) :
    ∃ k, m.ticket = some k ∧ k.chan = c ∧ x = none := by
  obtain h | ⟨k, ch₀, hk, hc, h₀, hr⟩ := reply_cases hch'
  · rw [hch] at h
    cases h
    simp [hopen] at hres
  · rw [hch] at h₀
    cases h₀
    rw [hr, hopen] at hres
    exact ⟨k, hk, hc, Option.map_eq_none_iff.mp (List.singleton_inj.mp hres)⟩

/-- A step closes the open channel of a client that goes on asking only when the
server ends or handles the request without an answer. -/
theorem Step.closes {s s' : State A} (hs : Step s s') (h : Reachable s) {i : Nat} {t t' : Task A}
    {r : A.Req} {c : Nat} {ch ch' : Chan A} (ht : s.tasks[i]? = some t)
    (ha : t.state.asking = some (r, c)) (ht' : s'.tasks[i]? = some t')
    (ha' : t'.state.asking = some (r, c)) (hch : s.chans[c]? = some ch) (hopen : ch.resolved = [])
    (hch' : s'.chans[c]? = some ch') (hres : ch'.resolved = [none]) :
    s'.phase.ended ∨ ∃ w, s'.log = s.log ++ [(w, ⟨r, some ⟨i, t.origin, c⟩⟩)] ∧
      (A.handle (A.after s.log) w r).1 = none := by
  obtain ⟨cs, hcs, hch₁, -⟩ | ⟨r₁, j, hch₁, -⟩ | ⟨m, w, hp, hch₁, hl⟩ := hs.chans
  · by_cases hmem : c ∈ cs
    · obtain ⟨-, hended | ⟨j, u, hu, hpend, hcancel⟩⟩ := hcs c hmem
      · exact .inl hended
      · have hji := pending_owner h ht ha hu hpend
        subst hji
        rw [ht'] at hcancel
        cases hcancel
        cases ha'
    · rw [hch₁, closeAll_other _ _ hmem, hch] at hch'
      cases hch'
      simp [hopen] at hres
  · obtain ⟨hlt, -⟩ := List.getElem?_eq_some_iff.mp hch
    rw [hch₁, List.getElem?_append_left hlt, hch] at hch'
    cases hch'
    simp [hopen] at hres
  · rw [hch₁] at hch'
    obtain ⟨k, hk, hc, hnone⟩ := reply_closed hch hopen hch' hres
    obtain ⟨rm, ticket⟩ := m
    cases hk
    have hmsg : ⟨rm, some k⟩ ∈ s.messages :=
      List.mem_append_left _ (List.mem_append_right _ (by simp [hp]))
    obtain ⟨rfl, rfl⟩ := (Actor.recorded h).ticket_eq ht ha hmsg hc
    have hlive : ¬ s.phase.ended := by simp [hp, Phase.ended]
    rw [server_eq_after h hlive] at hnone
    exact .inr ⟨w, hl, hnone⟩

/-- While the server has not ended, a client finds its channel closed only when
the server handled its request and did not answer. -/
theorem closed_cases {s : State A} (h : Reachable s) {i : Nat} {o : A.Origin} {r : A.Req} {c : Nat}
    (hc : ClosedOn s i o r c) : s.phase.ended ∨ ∃ n, Answered s.log n ⟨i, o, c⟩ r none := by
  induction h with
  | refl =>
    obtain ⟨t, ch, ht, -⟩ := hc
    simp [System.init] at ht
  | @tail s s' hr hs ih =>
    obtain ⟨t', ch', ht', ho', ha', hch', hres'⟩ := hc
    obtain ⟨t, ht, ha⟩ | hnew := hs.asked ht' ha'
    · obtain ⟨ch, hch, -⟩ := (recorded hr).asked i t r c ht ha
      obtain ⟨t₁, ht₁, ho₁⟩ := hs.origin ht
      rw [ht'] at ht₁
      cases ht₁
      have ho : t.origin = o := ho₁.symm.trans ho'
      by_cases hopen : ch.resolved = []
      · obtain hended | ⟨w, hl, hnone⟩ := hs.closes hr ht ha ht' ha' hch hopen hch' hres'
        · exact .inl hended
        · refine .inr ⟨s.log.length, w, ?_, ?_⟩
          · rw [hl, List.getElem?_concat_length, ho]
          · rw [hl, List.take_left, hnone]
      · have hstay := hs.resolved_stays hr hch hopen
        rw [hch'] at hstay
        cases hstay
        obtain hended | ⟨n, hans⟩ := ih ⟨t, ch', ht, ho, ha, hch, hres'⟩
        · exact .inl (hs.ended hended).1
        · obtain hl | ⟨w, m, -, hl⟩ := hs.log
          · exact .inr ⟨n, by rwa [hl]⟩
          · exact .inr ⟨n, by rw [hl]; exact hans.mono _⟩
    · rw [hch'] at hnew
      cases hnew
      cases hres'

/-! ## Rounds -/

/-- Open for the next request, or busy with one. -/
def Phase.serving : Phase A → Bool
  | .idle => true
  | .handling _ => true
  | .stopping => false
  | .exited => false

theorem Step.running {s s' : State A} (hs : Step s s')
    (h : s.phase.serving = true → A.running s.server = true) (hp : s'.phase.serving = true) :
    A.running s'.server = true := by
  cases hs with
  | recv hidle => exact h (by rw [hidle]; rfl)
  | handle w =>
    simp only at hp ⊢
    split at hp
    · assumption
    · cases hp
  | crash => cases hp
  | hangup => cases hp
  | shutdown => cases hp
  | _ => exact h hp

/-- The server is running as long as requests are taken. -/
theorem running_of_serving {s : State A} (h : Reachable s) (hstart : A.running A.start = true)
    (hp : s.phase.serving = true) : A.running s.server = true := by
  induction h with
  | refl => exact hstart
  | tail _ hstep ih => exact hstep.running ih hp

theorem Step.not_running {s s' : State A} (hleft : ∀ st, A.running (A.leftover st) = false)
    (hs : Step s s') (h : s.phase.ended → A.running s.server = false) (hp : s'.phase.ended) :
    A.running s'.server = false := by
  cases hs with
  | recv => exact absurd hp id
  | handle w =>
    simp only at hp ⊢
    split at hp
    · exact absurd hp id
    · rename_i hstop
      exact Bool.eq_false_iff.mpr hstop
  | crash => exact hleft _
  | hangup => exact hleft _
  | shutdown hstop => exact h (by rw [hstop]; trivial)
  | _ => exact h hp

/-- Once the loop has ended the server runs no more. -/
theorem not_running_of_ended {s : State A} (h : Reachable s)
    (hleft : ∀ st, A.running (A.leftover st) = false) (hp : s.phase.ended) :
    A.running s.server = false := by
  induction h with
  | refl => exact absurd hp id
  | tail _ hstep ih => exact hstep.not_running hleft ih hp

/-- The loop ends in a step that handles nothing: a request crashes, or nobody is
left to ask. -/
def Breaks (s s' : State A) : Prop := ¬ s.phase.ended ∧ s'.phase.ended ∧ s'.log = s.log

/-- A loop that has ended broke off, or handled a request that stopped the server. -/
theorem ended_cases {s s' : State A} (hs : Steps s s') (hlive : ¬ s.phase.ended)
    (hp : s'.phase.ended) :
    (∃ b c, Steps s b ∧ Step b c ∧ Steps c s' ∧ Breaks b c) ∨
      ∃ b w m, Steps s b ∧ b.phase = .handling m ∧ b.log ++ [(w, m)] = s'.log ∧
        A.running (A.handle b.server w m.request).2 = false := by
  induction hs with
  | refl => exact absurd hp hlive
  | @tail b c hb hstep ih =>
    by_cases hended : b.phase.ended
    · obtain ⟨-, hl⟩ := hstep.ended hended
      obtain ⟨b', c', hb', hbc, hc', hbreak⟩ | ⟨b', w, m, hb', hm, hl', hstop⟩ := ih hended
      · exact .inl ⟨b', c', hb', hbc, hc'.tail hstep, hbreak⟩
      · exact .inr ⟨b', w, m, hb', hm, hl'.trans hl.symm, hstop⟩
    · have hbreak (hl : c.log = b.log) :
          ∃ b' c', Steps s b' ∧ Step b' c' ∧ Steps c' c ∧ Breaks b' c' :=
        ⟨b, c, hb, hstep, .refl, hended, hp, hl⟩
      cases hstep with
      | @handle m w hm =>
        refine .inr ⟨b, w, m, hb, hm, rfl, ?_⟩
        simp only at hp
        split at hp
        · exact absurd hp id
        · rename_i hstop
          exact Bool.eq_false_iff.mpr hstop
      | _ => exact .inl (hbreak rfl)

/-- Nothing is on its way. -/
structure Calm (s : State A) : Prop where
  phase : s.phase = .idle
  queue : s.queue = []
  closed : s.closed = false

theorem calm_init (A : System) : Calm A.init := ⟨rfl, rfl, rfl⟩

theorem Calm.live {s : State A} (h : Calm s) : ¬ s.phase.ended := by
  simp [h.phase, Phase.ended]

/-- A client arrives. -/
theorem Calm.begin {s : State A} (h : Calm s) {o : A.Origin} (ho : A.arrives o) {p : A.Prog}
    (hp : A.launch o = p) :
    ∃ s', Steps s s' ∧ Calm s' ∧ s'.tasks = s.tasks ++ [⟨o, .running p⟩] ∧
      s'.server = s.server ∧ s'.log = s.log := by
  subst hp
  exact ⟨_, .single (.begin o ho h.closed), ⟨h.phase, h.queue, h.closed⟩, rfl, rfl, rfl⟩

theorem Calm.clock {s : State A} (h : Calm s) {i : Nat} {o : A.Origin} {k : A.Time → A.Prog}
    (ht : s.tasks[i]? = some ⟨o, .running (.clock k)⟩) (now : A.Time) :
    ∃ s', Steps s s' ∧ Calm s' ∧ s'.tasks = s.tasks.set i ⟨o, .running (k now)⟩ ∧
      s'.server = s.server ∧ s'.log = s.log :=
  ⟨_, .single (.clock now ht), ⟨h.phase, h.queue, h.closed⟩, rfl, rfl, rfl⟩

/-- One request is made, handled and answered while nothing else happens. -/
theorem Calm.round {s : State A} (h : Calm s) (hcap : 0 < A.capacity) {i : Nat} {o : A.Origin}
    {r : A.Req} {k : Option (A.Ans r) → A.Prog}
    (ht : s.tasks[i]? = some ⟨o, .running (.ask r k)⟩) {w : A.World} {x : Option (A.Ans r)}
    (hx : (A.handle s.server w r).1 = x) (hrun : A.running (A.handle s.server w r).2 = true) :
    ∃ s', Steps s s' ∧ Calm s' ∧ s'.tasks = s.tasks.set i ⟨o, .running (k x)⟩ ∧
      s'.server = (A.handle s.server w r).2 ∧
      s'.log = s.log ++ [(w, ⟨r, some ⟨i, o, s.chans.length⟩⟩)] := by
  obtain ⟨hlt, -⟩ := List.getElem?_eq_some_iff.mp ht
  let c := s.chans.length
  let m : Msg A := ⟨r, some ⟨i, o, c⟩⟩
  let s₁ : State A := { s.setTask i o (.sending r c k) with chans := s.chans ++ [⟨r, i, []⟩] }
  let s₂ : State A := { s₁.setTask i o (.waiting r c k) with queue := s₁.queue ++ [m] }
  let s₃ : State A := { s₂ with phase := .handling m, queue := [] }
  let s₄ : State A := { s₃ with
    server := (A.handle s.server w r).2
    chans := reply s₃.chans m x
    log := s.log ++ [(w, m)]
    phase := .idle }
  have h₁ : Step s s₁ := .ask ht
  have h₂ : Step s₁ s₂ := by
    apply Step.enqueue
    · exact List.getElem?_set_self hlt
    · simpa [s₁, State.setTask, h.queue] using hcap
    · simp [s₁, State.setTask, h.phase]
  have h₃ : Step s₂ s₃ := by
    apply Step.recv
    · exact h.phase
    · simp [s₂, s₁, State.setTask, h.queue]
  have h₄ : Step s₃ s₄ := by
    have hstep : Step s₃ _ := .handle w rfl
    rwa [show A.running (A.handle s₃.server w m.request).2 = true from hrun, if_pos rfl,
      show (A.handle s₃.server w m.request).1 = x from hx] at hstep
  have htask : s₄.tasks[i]? = some ⟨o, .waiting r c k⟩ := by
    apply List.getElem?_set_self
    simpa [s₁, State.setTask] using hlt
  have hchan : s₄.chans[c]? = some ⟨r, i, [x.map (Sigma.mk r)]⟩ := by
    change (resolve (s.chans ++ [⟨r, i, []⟩]) c (x.map (Sigma.mk r)))[c]? = _
    rw [resolve_self]
    simp [c]
  have h₅ : Step s₄ (s₄.setTask i o (.running (k x))) := .deliver x htask hchan rfl
  refine ⟨_, .tail (.tail (.tail (.tail (.single h₁) h₂) h₃) h₄) h₅, ⟨rfl, rfl, h.closed⟩, ?_, rfl,
    rfl⟩
  simp [s₄, s₃, s₂, s₁, State.setTask, List.set_set]

/-- What a client gets whose requests are handled with no others between them: the
requests it makes, the server after them, and its result. -/
inductive Alone (w : A.World) (now : A.Time) :
    A.Server → A.Prog → List A.Req → A.Server → A.Result → Prop
  | ret {st b} : Alone w now st (.ret b) [] st b
  | clock {st k rs st' b} (h : Alone w now st (k now) rs st' b) :
      Alone w now st (.clock k) rs st' b
  | ask {st r k rs st₁ st' b} (x : Option (A.Ans r)) (hh : A.handle st w r = (x, st₁))
      (hrun : A.running st₁ = true) (h : Alone w now st₁ (k x) rs st' b) :
      Alone w now st (.ask r k) (r :: rs) st' b

theorem Calm.alone {s : State A} (h : Calm s) (hcap : 0 < A.capacity) {i : Nat} {o : A.Origin}
    {p : A.Prog} (ht : s.tasks[i]? = some ⟨o, .running p⟩) {w : A.World} {now : A.Time}
    {st : A.Server} (hst : s.server = st) {rs : List A.Req} {st' : A.Server} {b : A.Result}
    (ha : Alone w now st p rs st' b) :
    ∃ s', Steps s s' ∧ Calm s' ∧ s'.tasks = s.tasks.set i ⟨o, .running (.ret b)⟩ ∧
      s'.server = st' ∧
      s'.log.map (fun e => (e.1, e.2.request)) =
        s.log.map (fun e => (e.1, e.2.request)) ++ rs.map (w, ·) := by
  induction ha generalizing s with
  | @ret st b =>
    refine ⟨s, .refl, h, ?_, hst, by simp⟩
    obtain ⟨hlt, hget⟩ := List.getElem?_eq_some_iff.mp ht
    rw [← hget, List.set_getElem_self]
  | clock _ ih =>
    obtain ⟨s₁, hs₁, hcalm₁, htasks₁, hserver₁, hlog₁⟩ := h.clock ht now
    obtain ⟨hlt, -⟩ := List.getElem?_eq_some_iff.mp ht
    obtain ⟨s', hs, hcalm, htasks, hserver, hlog⟩ :=
      ih hcalm₁ (by rw [htasks₁, List.getElem?_set_self hlt]) (hserver₁.trans hst)
    refine ⟨s', hs₁.trans hs, hcalm, ?_, hserver, ?_⟩
    · rw [htasks, htasks₁, List.set_set]
    · rw [hlog, hlog₁]
  | ask x hh hrun _ ih =>
    subst hst
    obtain ⟨s₁, hs₁, hcalm₁, htasks₁, hserver₁, hlog₁⟩ :=
      h.round hcap ht (w := w) (x := x) (by rw [hh]) (by rw [hh]; exact hrun)
    rw [hh] at hserver₁
    obtain ⟨hlt, -⟩ := List.getElem?_eq_some_iff.mp ht
    obtain ⟨s', hs, hcalm, htasks, hserver, hlog⟩ :=
      ih hcalm₁ (by rw [htasks₁, List.getElem?_set_self hlt]) hserver₁
    refine ⟨s', hs₁.trans hs, hcalm, ?_, hserver, ?_⟩
    · rw [htasks, htasks₁, List.set_set]
    · rw [hlog, hlog₁]
      simp

end Actor

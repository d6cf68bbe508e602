import RgbNodeApi.Lib.ActorLaws

/-!
# What clients learn

The log explains the server and every answer: the server is what the requests of
the log made of it until its loop ends, and a channel was resolved with a value by
the handling of the request it was made for. From this follow a rule for
properties of a client's requests, proved one request at a time, and what clients
see once the server has ended.
-/
namespace Actor

variable {A : System}

/-- The `n`-th request handled carried this ticket, and was answered with `x`. -/
def Answered (log : List (A.World × Msg A)) (n : Nat) (k : Ticket A) (r : A.Req)
    (x : Option (A.Ans r)) : Prop :=
  ∃ w, log[n]? = some (w, ⟨r, some k⟩) ∧ (A.handle (A.after (log.take n)) w r).1 = x

theorem Answered.mono {log : List (A.World × Msg A)} {n : Nat} {k : Ticket A} {r : A.Req}
    {x : Option (A.Ans r)} (h : Answered log n k r x) (e : A.World × Msg A) :
    Answered (log ++ [e]) n k r x := by
  obtain ⟨w, hn, hx⟩ := h
  obtain ⟨hlt, -⟩ := List.getElem?_eq_some_iff.mp hn
  refine ⟨w, by rw [List.getElem?_append_left hlt, hn], ?_⟩
  rw [List.take_append_of_le_length (Nat.le_of_lt hlt), hx]

/-- An answer in a longer log is the last one or was there before. -/
theorem Answered.cases {log : List (A.World × Msg A)} {n : Nat} {k : Ticket A} {r : A.Req}
    {x : Option (A.Ans r)} {w : A.World} {m : Msg A} (h : Answered (log ++ [(w, m)]) n k r x) :
    (n = log.length ∧ m = ⟨r, some k⟩ ∧ (A.handle (A.after log) w r).1 = x) ∨
      Answered log n k r x := by
  obtain ⟨w', hn, hx⟩ := h
  obtain ⟨rfl, he⟩ | hn := getElem?_snoc_cases hn
  · cases he
    rw [List.take_left] at hx
    exact .inl ⟨rfl, rfl, hx⟩
  · obtain ⟨hlt, -⟩ := List.getElem?_eq_some_iff.mp hn
    rw [List.take_append_of_le_length (Nat.le_of_lt hlt)] at hx
    exact .inr ⟨w', hn, hx⟩

/-- An answer in the first entries of a log. -/
theorem Answered.of_take {log : List (A.World × Msg A)} {m n : Nat} {k : Ticket A} {r : A.Req}
    {x : Option (A.Ans r)} (h : Answered (log.take n) m k r x) : m < n ∧ Answered log m k r x := by
  obtain ⟨w, hm, hx⟩ := h
  rw [List.getElem?_take] at hm
  split at hm
  · rename_i hlt
    rw [List.take_take, Nat.min_eq_left (Nat.le_of_lt hlt)] at hx
    exact ⟨hlt, w, hm, hx⟩
  · cases hm

/-! ## The server and the log -/

/-- The loop has returned: the queue is no longer read. -/
def Phase.ended : Phase A → Prop
  | .stopping | .exited => True
  | _ => False

theorem Step.ended {s s' : State A} (hs : Step s s') (hp : s.phase.ended) :
    s'.phase.ended ∧ s'.log = s.log := by
  cases hs with
  | recv hp' => simp [hp', Phase.ended] at hp
  | handle w hp' => simp [hp', Phase.ended] at hp
  | crash hp' => simp [hp', Phase.ended] at hp
  | hangup => exact ⟨trivial, rfl⟩
  | shutdown => exact ⟨trivial, rfl⟩
  | _ => exact ⟨hp, rfl⟩

theorem Steps.ended {s s' : State A} (hs : Steps s s') (hp : s.phase.ended) :
    s'.phase.ended ∧ s'.log = s.log := by
  induction hs with
  | refl => exact ⟨hp, rfl⟩
  | tail _ hstep ih =>
    obtain ⟨hp', hl⟩ := hstep.ended ih.1
    exact ⟨hp', hl.trans ih.2⟩

/-- Until its loop ends the server is as the requests of the log left it. -/
theorem server_eq_after {s : State A} (h : Reachable s) (hp : ¬ s.phase.ended) :
    s.server = A.after s.log := by
  induction h with
  | refl => rfl
  | @tail s s' _ hs ih =>
    have hold := ih fun hended => hp (hs.ended hended).1
    cases hs with
    | @handle m w =>
      change (A.handle s.server w m.request).2 = A.after (s.log ++ [(w, m)])
      rw [after_snoc, hold]
    | crash => exact absurd trivial hp
    | hangup => exact absurd trivial hp
    | shutdown => exact absurd trivial hp
    | _ => exact hold

/-- What a step keeps of the server, if requests, crashes and the end of the loop do. -/
theorem Step.server_holds {s s' : State A} (hs : Step s s') {I : A.Server → Prop}
    (hhandle : ∀ e ∈ s'.log, ∀ st, I st → I (A.handle st e.1 e.2.request).2)
    (hleft : ∀ st, I st → I (A.leftover st)) (hbroken : ∀ st st', A.broken st st' → I st → I st')
    (h : I s.server) : I s'.server := by
  cases hs with
  | @handle m w hp => exact hhandle (w, m) (by simp) s.server h
  | crash hp st hst => exact hleft st (hbroken s.server st hst h)
  | hangup => exact hleft s.server h
  | _ => exact h

/-- The rule for the server: what the requests handled in a run keep, and crashes and
the end of the loop, holds at the end of the run. -/
theorem Steps.server_holds {s s' : State A} (hs : Steps s s') {I : A.Server → Prop}
    (hhandle : ∀ e ∈ s'.log, ∀ st, I st → I (A.handle st e.1 e.2.request).2)
    (hleft : ∀ st, I st → I (A.leftover st)) (hbroken : ∀ st st', A.broken st st' → I st → I st')
    (h : I s.server) : I s'.server := by
  induction hs with
  | refl => exact h
  | @tail b c _ hstep ih =>
    have hearlier : ∀ e ∈ b.log, e ∈ c.log := by
      intro e he
      obtain hl | ⟨w, m, -, hl⟩ := hstep.log
      · rwa [hl]
      · rw [hl]
        exact List.mem_append_left _ he
    exact hstep.server_holds hhandle hleft hbroken (ih fun e he => hhandle e (hearlier e he))

/-! ## The channels and the log -/

/-- Every resolved channel is what the log says. -/
structure Explained (s : State A) : Prop where
  value : ∀ (c : Nat) (ch : Chan A) (r : A.Req) (a : A.Ans r), s.chans[c]? = some ch →
    some ⟨r, a⟩ ∈ ch.resolved → ∃ n k, k.chan = c ∧ Answered s.log n k r (some a)
  handled : ∀ n k r x, Answered s.log n k r x →
    ∃ ch : Chan A, s.chans[k.chan]? = some ch ∧ ch.resolved = [x.map (Sigma.mk r)]

theorem explained_init : Explained (A.init) where
  value c ch r a h := by simp [System.init] at h
  handled n k r x h := by
    obtain ⟨w, hn, -⟩ := h
    simp [System.init] at hn

/-- A channel is held and open, or was resolved once and is held no longer. -/
theorem Conserved.held_or_resolved {s : State A} (h : Conserved s) {c : Nat} {ch : Chan A}
    (hc : s.chans[c]? = some ch) :
    (c ∈ held s ∧ ch.resolved = []) ∨ (c ∉ held s ∧ ∃ x, ch.resolved = [x]) := by
  obtain ⟨hlt, -⟩ := List.getElem?_eq_some_iff.mp hc
  have hone := h c
  simp only [issued, hlt, if_true, resolutions, hc, Option.map_some, Option.getD_some] at hone
  by_cases hheld : c ∈ held s
  · have hpos := List.count_pos_iff.mpr hheld
    exact .inl ⟨hheld, List.length_eq_zero_iff.mp (by omega)⟩
  · rw [List.count_eq_zero_of_not_mem hheld] at hone
    exact .inr ⟨hheld, List.length_eq_one_iff.mp (by omega)⟩

theorem Conserved.not_held {s : State A} (h : Conserved s) {c : Nat} {ch : Chan A}
    (hc : s.chans[c]? = some ch) (hr : ch.resolved ≠ []) : c ∉ held s := by
  obtain ⟨-, hopen⟩ | ⟨hnot, -⟩ := h.held_or_resolved hc
  · exact absurd hopen hr
  · exact hnot

theorem Conserved.open_of_held {s : State A} (h : Conserved s) {c : Nat} {ch : Chan A}
    (hc : s.chans[c]? = some ch) (hheld : c ∈ held s) : ch.resolved = [] := by
  obtain ⟨-, hopen⟩ | ⟨hnot, -⟩ := h.held_or_resolved hc
  · exact hopen
  · exact absurd hheld hnot

theorem closeAll_value (chans : List (Chan A)) (cs : List Nat) {c : Nat} {ch : Chan A}
    {x : Sigma A.Ans} (h : (closeAll chans cs)[c]? = some ch) (hx : some x ∈ ch.resolved) :
    ∃ ch₀ : Chan A, chans[c]? = some ch₀ ∧ some x ∈ ch₀.resolved := by
  induction cs generalizing chans with
  | nil => exact ⟨ch, h, hx⟩
  | cons d rest ih =>
    obtain ⟨ch₁, h₁, hx₁⟩ := ih (resolve chans d none) h
    by_cases hd : c = d
    · subst hd
      rw [resolve_self] at h₁
      obtain ⟨ch₀, h₀, rfl⟩ := Option.map_eq_some_iff.mp h₁
      exact ⟨ch₀, h₀, by simpa using hx₁⟩
    · rw [resolve_other chans none hd] at h₁
      exact ⟨ch₁, h₁, hx₁⟩

/-- What a step does to the channels: it closes some that are held, because the
server ends or their client is cancelled, or makes one, or answers a request. -/
theorem Step.chans {s s' : State A} (hs : Step s s') :
    (∃ cs, (∀ c ∈ cs, c ∈ held s ∧ (s'.phase.ended ∨ ∃ (i : Nat) (t : Task A),
        s.tasks[i]? = some t ∧ c ∈ t.state.pending ∧
          s'.tasks[i]? = some ⟨t.origin, .cancelled⟩)) ∧
      s'.chans = closeAll s.chans cs ∧ s'.log = s.log) ∨
    (∃ r i, s'.chans = s.chans ++ [⟨r, i, []⟩] ∧ s'.log = s.log) ∨
    ∃ m w, s.phase = .handling m ∧
      s'.chans = reply s.chans m (A.handle s.server w m.request).1 ∧
      s'.log = s.log ++ [(w, m)] := by
  cases hs with
  | @ask i o r k ht => exact .inr (.inl ⟨r, i, rfl, rfl⟩)
  | @bounce i o r c k ht hp =>
    refine .inl ⟨[c], fun d hd => ⟨?_, .inl ?_⟩, rfl, rfl⟩
    · exact List.mem_append_left _ (List.mem_flatMap.mpr ⟨_, List.mem_of_getElem? ht, hd⟩)
    · simp [State.setTask, hp, Phase.ended]
  | @cancel i t ht =>
    obtain ⟨hlt, -⟩ := List.getElem?_eq_some_iff.mp ht
    refine .inl ⟨t.state.pending, fun d hd => ⟨?_, .inr ⟨i, t, ht, hd, ?_⟩⟩, rfl, rfl⟩
    · exact List.mem_append_left _ (List.mem_flatMap.mpr ⟨_, List.mem_of_getElem? ht, hd⟩)
    · exact List.getElem?_set_self hlt
  | @handle m w hp => exact .inr (.inr ⟨m, w, hp, rfl, rfl⟩)
  | @crash m hp =>
    refine .inl ⟨m.chans, fun d hd => ⟨?_, .inl trivial⟩, rfl, rfl⟩
    exact List.mem_append_right _ (List.mem_flatMap.mpr ⟨m, by simp [hp], hd⟩)
  | shutdown hp =>
    refine .inl ⟨_, fun d hd => ⟨?_, .inl trivial⟩, rfl, rfl⟩
    obtain ⟨m, hm, hd⟩ := List.mem_flatMap.mp hd
    exact List.mem_append_right _ (List.mem_flatMap.mpr ⟨m, List.mem_append_left _ hm, hd⟩)
  | _ => exact .inl ⟨[], fun c hc => absurd hc List.not_mem_nil, rfl, rfl⟩

/-- A channel after a reply is as it was, or it is the one of the message. -/
theorem reply_cases {chans : List (Chan A)} {m : Msg A} {x : Option (A.Ans m.request)} {c : Nat}
    {ch : Chan A} (h : (reply chans m x)[c]? = some ch) :
    chans[c]? = some ch ∨ ∃ (k : Ticket A) (ch₀ : Chan A), m.ticket = some k ∧ k.chan = c ∧
      chans[c]? = some ch₀ ∧ ch.resolved = ch₀.resolved ++ [x.map (Sigma.mk m.request)] := by
  cases hm : m.ticket with
  | none =>
    simp only [reply, hm] at h
    exact .inl h
  | some k =>
    simp only [reply, hm] at h
    by_cases hc : k.chan = c
    · subst hc
      rw [resolve_self] at h
      obtain ⟨ch₀, h₀, rfl⟩ := Option.map_eq_some_iff.mp h
      exact .inr ⟨k, ch₀, rfl, rfl, h₀, rfl⟩
    · rw [resolve_other _ _ (Ne.symm hc)] at h
      exact .inl h

theorem Explained.not_held {s : State A} (h : Explained s) (hc : Conserved s) {n : Nat}
    {k : Ticket A} {r : A.Req} {x : Option (A.Ans r)} (ha : Answered s.log n k r x) :
    k.chan ∉ held s := by
  obtain ⟨ch, hch, hr⟩ := h.handled n k r x ha
  exact hc.not_held hch (by simp [hr])

/-- Closing held channels. -/
theorem Explained.close {s s' : State A} (h : Explained s) (hc : Conserved s) {cs : List Nat}
    (hcs : ∀ c ∈ cs, c ∈ held s) (hch : s'.chans = closeAll s.chans cs) (hl : s'.log = s.log) :
    Explained s' := by
  constructor
  · intro c ch r a h' ha
    rw [hch] at h'
    obtain ⟨ch₀, h₀, ha₀⟩ := closeAll_value _ _ h' ha
    rw [hl]
    exact h.value c ch₀ r a h₀ ha₀
  · intro n k r x ha
    rw [hl] at ha
    obtain ⟨ch, hk, hr⟩ := h.handled n k r x ha
    have hnot : k.chan ∉ cs := fun hmem => h.not_held hc ha (hcs _ hmem)
    exact ⟨ch, by rw [hch, closeAll_other _ _ hnot, hk], hr⟩

/-- Making a channel. -/
theorem Explained.make {s s' : State A} (h : Explained s) {r₀ : A.Req} {i : Nat}
    (hch : s'.chans = s.chans ++ [⟨r₀, i, []⟩]) (hl : s'.log = s.log) : Explained s' := by
  constructor
  · intro c ch r a h' ha
    rw [hch] at h'
    obtain ⟨rfl, rfl⟩ | h' := getElem?_snoc_cases h'
    · simp at ha
    · rw [hl]
      exact h.value c ch r a h' ha
  · intro n k r x ha
    rw [hl] at ha
    obtain ⟨ch, hk, hr⟩ := h.handled n k r x ha
    obtain ⟨hlt, -⟩ := List.getElem?_eq_some_iff.mp hk
    exact ⟨ch, by rw [hch, List.getElem?_append_left hlt, hk], hr⟩

/-- Handling a request and answering it over its channel. -/
theorem Explained.handle {s s' : State A} (h : Explained s) (hc : Conserved s) {m : Msg A}
    {w : A.World} (hp : s.phase = .handling m) (hsv : s.server = A.after s.log)
    (hch : s'.chans = reply s.chans m (A.handle s.server w m.request).1)
    (hl : s'.log = s.log ++ [(w, m)]) : Explained s' := by
  have hheld : ∀ c ∈ m.chans, c ∈ held s := fun c hmem =>
    List.mem_append_right _ (List.mem_flatMap.mpr ⟨m, by simp [hp], hmem⟩)
  constructor
  · intro c ch r a h' ha
    rw [hch] at h'
    rw [hl]
    obtain h₀ | ⟨k, ch₀, hk, rfl, h₀, hr⟩ := reply_cases h'
    · obtain ⟨n, k, hk, hans⟩ := h.value c ch r a h₀ ha
      exact ⟨n, k, hk, hans.mono _⟩
    · have hopen := hc.open_of_held h₀ (hheld _ (by simp [Msg.chans, hk]))
      obtain ⟨r', ticket⟩ := m
      cases hk
      rw [hr, hopen] at ha
      obtain ⟨b, hb, he⟩ := Option.map_eq_some_iff.mp (List.mem_singleton.mp ha).symm
      cases he
      refine ⟨s.log.length, k, rfl, w, by simp, ?_⟩
      rw [List.take_left, ← hsv, hb]
  · intro n k r x ha
    rw [hl] at ha
    obtain ⟨rfl, rfl, hx⟩ | ha := ha.cases
    · have hmem : k.chan ∈ held s := hheld _ (by simp [Msg.chans])
      have hlt := hc.lt hmem
      have hempty := hc.open_of_held (List.getElem?_eq_getElem hlt) hmem
      refine ⟨{ s.chans[k.chan] with resolved := [x.map (Sigma.mk r)] }, ?_, rfl⟩
      rw [hch]
      simp only [reply]
      rw [resolve_self, List.getElem?_eq_getElem hlt, hsv, hx]
      simp [hempty]
    · obtain ⟨ch, hk, hr⟩ := h.handled n k r x ha
      have hnot : k.chan ∉ m.chans := fun hmem => h.not_held hc ha (hheld _ hmem)
      exact ⟨ch, by rw [hch, reply_other _ _ _ hnot, hk], hr⟩

theorem Step.explained {s s' : State A} (hs : Step s s') (hr : Reachable s) (h : Explained s) :
    Explained s' := by
  have hc := Actor.conserved hr
  obtain ⟨cs, hcs, hch, hl⟩ | ⟨r, i, hch, hl⟩ | ⟨m, w, hp, hch, hl⟩ := hs.chans
  · exact h.close hc (fun c hmem => (hcs c hmem).1) hch hl
  · exact h.make hch hl
  · have hlive : ¬ s.phase.ended := by simp [hp, Phase.ended]
    exact h.handle hc hp (server_eq_after hr hlive) hch hl

theorem explained {s : State A} (h : Reachable s) : Explained s := by
  induction h with
  | refl => exact explained_init
  | tail hr hs ih => exact hs.explained hr ih

/-! ## Properties of sessions -/

/-- What a client has still to do. -/
def TaskState.program : TaskState A → Option A.Prog
  | .running p => some p
  | .sending r _ k | .waiting r _ k => some (.ask r k)
  | .cancelled => none

/-- `P` holds of what a client has still to do, and gives `Q` for each request
it makes; both last while the log grows. -/
structure Session (A : System)
    (P : Nat → A.Origin → List (A.World × Msg A) → A.Prog → Prop)
    (Q : Nat → A.Origin → List (A.World × Msg A) → A.Req → Prop) : Prop where
  start : ∀ i o log, A.arrives o → P i o log (A.launch o)
  mono : ∀ i o log e p, P i o log p → P i o (log ++ [e]) p
  monoReq : ∀ i o log e r, Q i o log r → Q i o (log ++ [e]) r
  clock : ∀ i o log k now, P i o log (.clock k) → P i o log (k now)
  ask : ∀ i o log r k, P i o log (.ask r k) → Q i o log r
  closed : ∀ i o log r k, P i o log (.ask r k) → P i o log (k none)
  answered : ∀ i o log r k n c a, P i o log (.ask r k) →
    Answered log n ⟨i, o, c⟩ r (some a) → P i o log (k (some a))

variable {P : Nat → A.Origin → List (A.World × Msg A) → A.Prog → Prop}
  {Q : Nat → A.Origin → List (A.World × Msg A) → A.Req → Prop}

structure Follows (P : Nat → A.Origin → List (A.World × Msg A) → A.Prog → Prop)
    (Q : Nat → A.Origin → List (A.World × Msg A) → A.Req → Prop) (s : State A) : Prop where
  task : ∀ (i : Nat) (t : Task A) (p : A.Prog), s.tasks[i]? = some t → t.state.program = some p →
    P i t.origin s.log p
  message : ∀ m ∈ s.queue ++ s.phase.message, ∀ k, m.ticket = some k →
    Q k.task k.origin s.log m.request
  logged : ∀ (n : Nat) (w : A.World) (r : A.Req) (k : Ticket A),
    s.log[n]? = some (w, ⟨r, some k⟩) → Q k.task k.origin (s.log.take n) r

/-- A client's channel is only used by its own request. -/
theorem Recorded.ticket_eq {s : State A} (h : Recorded s) {i : Nat} {t : Task A} {r : A.Req}
    {c : Nat} (ht : s.tasks[i]? = some t) (ha : t.state.asking = some (r, c)) {r' : A.Req}
    {k : Ticket A} (hm : ⟨r', some k⟩ ∈ s.messages) (hc : k.chan = c) :
    r' = r ∧ k = ⟨i, t.origin, c⟩ := by
  obtain ⟨i', o', c'⟩ := k
  change c' = c at hc
  subst hc
  obtain ⟨ch, hch, hr, hi⟩ := h.asked i t r c' ht ha
  obtain ⟨⟨ch', hch', hr', hi'⟩, t', ht', ho'⟩ := h.ticket _ hm _ rfl
  change s.chans[c']? = some ch' at hch'
  change s.tasks[i']? = some t' at ht'
  rw [hch] at hch'
  cases hch'
  have hii : i' = i := hi'.symm.trans hi
  subst hii
  rw [ht] at ht'
  cases ht'
  subst ho'
  exact ⟨hr'.symm.trans hr, rfl⟩

theorem logged_mem {s : State A} {n : Nat} {w : A.World} {m : Msg A}
    (h : s.log[n]? = some (w, m)) : m ∈ s.messages :=
  List.mem_append_right _ (List.mem_map.mpr ⟨(w, m), List.mem_of_getElem? h, rfl⟩)

/-- A value in a client's channel is the answer to its request. -/
theorem answered_of_value {s : State A} (h : Reachable s) {i : Nat} {t : Task A} {r : A.Req}
    {c : Nat} {ch : Chan A} {v : Sigma A.Ans} (ht : s.tasks[i]? = some t)
    (ha : t.state.asking = some (r, c)) (hc : s.chans[c]? = some ch)
    (hx : some v ∈ ch.resolved) :
    ∃ a : A.Ans r, v = ⟨r, a⟩ ∧ ∃ n, Answered s.log n ⟨i, t.origin, c⟩ r (some a) := by
  obtain ⟨r', a⟩ := v
  obtain ⟨n, k, hk, w, hn, hw⟩ := (explained h).value c ch r' a hc hx
  obtain ⟨rfl, rfl⟩ := (recorded h).ticket_eq ht ha (logged_mem hn) hk
  exact ⟨a, rfl, n, w, hn, hw⟩

/-- A client's task is replaced. -/
theorem Follows.setTask {s : State A} (hf : Follows P Q s) {j : Nat} {o : A.Origin}
    {st : TaskState A} (hnew : ∀ p, st.program = some p → P j o s.log p) {i : Nat} {t : Task A}
    {p : A.Prog} (ht : (s.tasks.set j ⟨o, st⟩)[i]? = some t) (hp : t.state.program = some p) :
    P i t.origin s.log p := by
  obtain ⟨rfl, rfl⟩ | ht := getElem?_set_cases ht
  · exact hnew p hp
  · exact hf.task i t p ht hp

theorem Session.task_step (h : Session A P Q) {s s' : State A} (hr : Reachable s) (hs : Step s s')
    (hf : Follows P Q s) (i : Nat) (t : Task A) (p : A.Prog) (ht : s'.tasks[i]? = some t)
    (hp : t.state.program = some p) : P i t.origin s.log p := by
  have hold : ∀ {j o st q}, s.tasks[j]? = some ⟨o, st⟩ → st.program = some q → P j o s.log q :=
    fun ht' hq => hf.task _ _ _ ht' hq
  cases hs with
  | begin o ho _ =>
    obtain ⟨rfl, rfl⟩ | ht := getElem?_snoc_cases ht
    · cases hp
      exact h.start _ _ _ ho
    · exact hf.task i t p ht hp
  | clock now ht' =>
    apply hf.setTask ?_ ht hp
    intro q hq
    cases hq
    exact h.clock _ _ _ _ now (hold ht' rfl)
  | ask ht' =>
    apply hf.setTask ?_ ht hp
    intro q hq
    exact hold ht' hq
  | enqueue ht' =>
    apply hf.setTask ?_ ht hp
    intro q hq
    exact hold ht' hq
  | bounce ht' =>
    apply hf.setTask ?_ ht hp
    intro q hq
    exact hold ht' hq
  | @deliver j o r c k ch x ht' hc hx =>
    apply hf.setTask ?_ ht hp
    intro q hq
    cases hq
    have hask := hold ht' rfl
    cases x with
    | none => exact h.closed _ _ _ _ _ hask
    | some a =>
      obtain ⟨a', ha', n, hans⟩ := answered_of_value hr ht' rfl hc (List.mem_of_mem_head? hx)
      cases ha'
      exact h.answered _ _ _ _ _ n c a hask hans
  | cancel ht' => exact hf.setTask (fun q hq => by cases hq) ht hp
  | _ => exact hf.task i t p ht hp

/-- The rule for sessions: in every reachable state `P` holds of what the clients
have still to do and `Q` of the requests they have made. -/
theorem Session.follows (h : Session A P Q) {s : State A} (hr : Reachable s) : Follows P Q s := by
  induction hr with
  | refl =>
    constructor
    · intro i t p ht
      simp [System.init] at ht
    · intro m hm
      simp [System.init] at hm
    · intro n w r k hn
      simp [System.init] at hn
  | @tail s s' hr hs ih =>
    have htask := h.task_step hr hs ih
    have hmsg : ∀ m ∈ s'.queue ++ s'.phase.message, ∀ k, m.ticket = some k →
        Q k.task k.origin s.log m.request := by
      intro m hm k hk
      obtain hm | hn | ⟨i, o, c, f, ht, hk'⟩ := hs.pendingMessage hm
      · exact ih.message m hm k hk
      · simp [hn.1] at hk
      · rw [hk'] at hk
        cases hk
        exact h.ask _ _ _ _ f (ih.task _ _ _ ht rfl)
    obtain hl | ⟨w₀, m₀, hp, hl⟩ := hs.log
    · rw [← hl] at htask hmsg
      exact ⟨htask, hmsg, by rw [hl]; exact ih.logged⟩
    · constructor
      · intro i t p ht hp
        rw [hl]
        exact h.mono _ _ _ _ _ (htask i t p ht hp)
      · intro m hm k hk
        rw [hl]
        exact h.monoReq _ _ _ _ _ (hmsg m hm k hk)
      · intro n w r k hn
        rw [hl] at hn ⊢
        obtain ⟨rfl, he⟩ | hn := getElem?_snoc_cases hn
        · rw [List.take_left]
          cases he
          have hm : (⟨r, some k⟩ : Msg A) ∈ s.queue ++ s.phase.message := by simp [hp]
          exact ih.message _ hm k rfl
        · obtain ⟨hlt, -⟩ := List.getElem?_eq_some_iff.mp hn
          rw [List.take_append_of_le_length (Nat.le_of_lt hlt)]
          exact ih.logged n w r k hn

/-! ## Waiting, and the end of the server -/

/-- A request that was not sent is on the channel of its own client. -/
theorem pending_owner {s : State A} (h : Reachable s) {i j : Nat} {t u : Task A} {r : A.Req}
    {c : Nat} (ht : s.tasks[i]? = some t) (ha : t.state.asking = some (r, c))
    (hu : s.tasks[j]? = some u) (hc : c ∈ u.state.pending) : j = i := by
  obtain ⟨ch, hch, -, hi⟩ := (recorded h).asked i t r c ht ha
  obtain ⟨o, st⟩ := u
  cases st with
  | sending r' c' k =>
    simp only [pending_sending, List.mem_singleton] at hc
    subst hc
    obtain ⟨ch', hch', -, hj⟩ := (recorded h).asked j _ r' c hu rfl
    rw [hch] at hch'
    cases hch'
    exact hj.symm.trans hi
  | running p => simp at hc
  | waiting r' c' k => simp at hc
  | cancelled => simp at hc

/-- A client that waits has its request in the queue or with the server, or its
channel was resolved, once. -/
theorem waiting_cases {s : State A} (h : Reachable s) {i : Nat} {o : A.Origin} {r : A.Req}
    {c : Nat} {k : Option (A.Ans r) → A.Prog} (ht : s.tasks[i]? = some ⟨o, .waiting r c k⟩) :
    (⟨r, some ⟨i, o, c⟩⟩ ∈ s.queue ∨ s.phase = .handling ⟨r, some ⟨i, o, c⟩⟩) ∨
      ∃ (ch : Chan A) (x : Option (A.Ans r)),
        s.chans[c]? = some ch ∧ ch.resolved = [x.map (Sigma.mk r)] := by
  obtain ⟨ch, hch, -, -⟩ := (recorded h).asked i _ r c ht rfl
  obtain ⟨hheld, -⟩ | ⟨-, y, hy⟩ := (conserved h).held_or_resolved hch
  · left
    rcases List.mem_append.mp hheld with hmem | hmem
    · obtain ⟨t, htm, hpend⟩ := List.mem_flatMap.mp hmem
      obtain ⟨j, hj⟩ := List.mem_iff_getElem?.mp htm
      have hji := pending_owner h ht rfl hj hpend
      subst hji
      rw [ht] at hj
      cases hj
      cases hpend
    · obtain ⟨⟨r', ticket⟩, hm, hmc⟩ := List.mem_flatMap.mp hmem
      cases ticket with
      | none => simp [Msg.chans] at hmc
      | some t =>
        have htc : t.chan = c := by
          simp only [Msg.chans, Option.map_some, Option.toList_some, List.mem_singleton] at hmc
          exact hmc.symm
        obtain ⟨rfl, rfl⟩ := (recorded h).ticket_eq ht rfl (List.mem_append_left _ hm) htc
        rcases List.mem_append.mp hm with hm | hm
        · exact .inl hm
        · cases hp : s.phase with
          | handling m =>
            simp only [hp, message_handling, List.mem_singleton] at hm
            exact .inr (by rw [hm])
          | _ => simp [hp] at hm
  · refine .inr ⟨ch, ?_⟩
    cases y with
    | none => exact ⟨none, hch, hy⟩
    | some v =>
      have hmem : some v ∈ ch.resolved := by simp [hy]
      obtain ⟨a, rfl, -⟩ := answered_of_value h ht rfl hch hmem
      exact ⟨some a, hch, hy⟩

theorem exited_queue {s : State A} (h : Reachable s) (hp : s.phase = .exited) : s.queue = [] := by
  induction h with
  | refl => cases hp
  | tail _ hs ih =>
    cases hs with
    | enqueue ht hq hp' => exact absurd hp hp'
    | post r hr hq hp' hc => exact absurd hp hp'
    | recv => cases hp
    | handle w _ =>
      simp only at hp
      split at hp <;> cases hp
    | crash => cases hp
    | hangup => cases hp
    | shutdown => rfl
    | _ => exact ih hp

/-- After the end every channel that is still open or made later can only be closed. -/
theorem closed_after_end {s s' : State A} (h : Reachable s) (hp : s.phase.ended)
    (hs : Steps s s') {c : Nat} {ch : Chan A} (hc : s'.chans[c]? = some ch)
    (hopen : ∀ ch₀ : Chan A, s.chans[c]? = some ch₀ → ch₀.resolved = []) :
    ch.resolved = [] ∨ ch.resolved = [none] := by
  have hr' : Reachable s' := h.trans hs
  obtain ⟨-, hnil⟩ | ⟨-, y, hy⟩ := (conserved hr').held_or_resolved hc
  · exact .inl hnil
  · cases y with
    | none => exact .inr hy
    | some v =>
      obtain ⟨n, k, rfl, hans⟩ := (explained hr').value c ch v.1 v.2 hc (by simp [hy])
      rw [(hs.ended hp).2] at hans
      obtain ⟨ch₀, h₀, hr₀⟩ := (explained h).handled n k _ _ hans
      rw [hopen ch₀ h₀] at hr₀
      cases hr₀

/-- A resolved channel stays as it is. -/
theorem Step.resolved_stays {s s' : State A} (h : Reachable s) (hs : Step s s') {c : Nat}
    {ch : Chan A} (hc : s.chans[c]? = some ch) (hr : ch.resolved ≠ []) :
    s'.chans[c]? = some ch := by
  have hnot := (Actor.conserved h).not_held hc hr
  obtain ⟨cs, hcs, hch, -⟩ | ⟨r, i, hch, -⟩ | ⟨m, w, hp, hch, -⟩ := hs.chans
  · have hmem : c ∉ cs := fun hm => hnot (hcs c hm).1
    rw [hch, closeAll_other _ _ hmem, hc]
  · obtain ⟨hlt, -⟩ := List.getElem?_eq_some_iff.mp hc
    rw [hch, List.getElem?_append_left hlt, hc]
  · have hmem : c ∉ m.chans := fun hm =>
      hnot (List.mem_append_right _ (List.mem_flatMap.mpr ⟨m, by simp [hp], hm⟩))
    rw [hch, reply_other _ _ _ hmem, hc]

theorem resolved_of_pos {chans : List (Chan A)} {c : Nat} (h : 0 < resolutions chans c) :
    ∃ ch : Chan A, chans[c]? = some ch ∧ ch.resolved ≠ [] := by
  cases hc : chans[c]? with
  | none => simp [resolutions, hc] at h
  | some ch =>
    simp only [resolutions, hc, Option.map_some, Option.getD_some] at h
    exact ⟨ch, rfl, List.length_pos_iff.mp h⟩

theorem closed_resolved {chans : List (Chan A)} {cs : List Nat} {c : Nat} (hlt : c < chans.length)
    (hc : c ∈ cs) : ∃ ch : Chan A, (closeAll chans cs)[c]? = some ch ∧ ch.resolved ≠ [] := by
  have hcount := List.count_pos_iff.mpr hc
  have hclose := resolutions_closeAll chans cs c
  rw [if_pos hlt] at hclose
  apply resolved_of_pos
  omega

theorem replied_resolved {chans : List (Chan A)} {m : Msg A} (x : Option (A.Ans m.request))
    {c : Nat} (hlt : c < chans.length) (hc : c ∈ m.chans) :
    ∃ ch : Chan A, (reply chans m x)[c]? = some ch ∧ ch.resolved ≠ [] := by
  have hcount := List.count_pos_iff.mpr hc
  have hreply := resolutions_reply chans m x c
  rw [if_pos hlt] at hreply
  apply resolved_of_pos
  omega

/-- A request stays in the queue or with the server until its channel is resolved. -/
theorem Step.passes {s s' : State A} (h : Reachable s) (hs : Step s s') {m : Msg A} {k : Ticket A}
    (hm : m ∈ s.queue ++ s.phase.message) (hk : m.ticket = some k) :
    m ∈ s'.queue ++ s'.phase.message ∨
      ∃ ch : Chan A, s'.chans[k.chan]? = some ch ∧ ch.resolved ≠ [] := by
  have hchan : k.chan ∈ m.chans := by simp [Msg.chans, hk]
  have hheld : k.chan ∈ held s := List.mem_append_right _ (List.mem_flatMap.mpr ⟨m, hm, hchan⟩)
  have hlt := (Actor.conserved h).lt hheld
  cases hs with
  | enqueue =>
    rcases List.mem_append.mp hm with hm | hm
    · exact .inl (List.mem_append_left _ (List.mem_append_left _ hm))
    · exact .inl (List.mem_append_right _ hm)
  | post =>
    rcases List.mem_append.mp hm with hm | hm
    · exact .inl (List.mem_append_left _ (List.mem_append_left _ hm))
    · exact .inl (List.mem_append_right _ hm)
  | recv hp hq =>
    simp only [hp, hq, message_idle, List.append_nil, List.mem_cons] at hm
    rcases hm with rfl | hm
    · exact .inl (by simp)
    · exact .inl (by simp [hm])
  | @handle m' w hp =>
    simp only [hp, message_handling, List.mem_append, List.mem_singleton] at hm
    rcases hm with hm | rfl
    · exact .inl (List.mem_append_left _ hm)
    · exact .inr (replied_resolved _ hlt hchan)
  | @crash m' hp =>
    simp only [hp, message_handling, List.mem_append, List.mem_singleton] at hm
    rcases hm with hm | rfl
    · exact .inl (List.mem_append_left _ hm)
    · exact .inr (closed_resolved hlt hchan)
  | hangup hp hq => simp [hp, hq] at hm
  | shutdown hp =>
    simp only [hp, message_stopping, List.append_nil] at hm
    have hmem := List.mem_flatMap.mpr ⟨m, hm, hchan⟩
    exact .inr (closed_resolved hlt hmem)
  | _ => exact .inl hm

theorem Steps.keeps {s s' : State A} (hs : Steps s s') : Keeps s.chans s'.chans := by
  induction hs with
  | refl => exact .refl _
  | tail _ hstep ih =>
    intro c ch h
    obtain ⟨ch₁, h₁, hr₁, ht₁⟩ := ih c ch h
    obtain ⟨ch₂, h₂, hr₂, ht₂⟩ := hstep.keeps c ch₁ h₁
    exact ⟨ch₂, h₂, hr₂.trans hr₁, ht₂.trans ht₁⟩

theorem Steps.origin {s s' : State A} (hs : Steps s s') {i : Nat} {t : Task A}
    (h : s.tasks[i]? = some t) : ∃ t', s'.tasks[i]? = some t' ∧ t'.origin = t.origin := by
  induction hs with
  | refl => exact ⟨t, h, rfl⟩
  | tail _ hstep ih =>
    obtain ⟨t₁, h₁, ho₁⟩ := ih
    obtain ⟨t₂, h₂, ho₂⟩ := hstep.origin h₁
    exact ⟨t₂, h₂, ho₂.trans ho₁⟩

/-- A channel belongs to one request for good. -/
theorem Steps.ticket_eq {s s' : State A} (hs : Steps s s') (h : Reachable s) {m : Msg A}
    {k : Ticket A} (hm : m ∈ s.messages) (hk : m.ticket = some k) {r : A.Req} {k' : Ticket A}
    (hm' : ⟨r, some k'⟩ ∈ s'.messages) (hc : k'.chan = k.chan) : r = m.request ∧ k' = k := by
  obtain ⟨⟨ch, hch, hr, hi⟩, t, ht, ho⟩ := (recorded h).ticket m hm k hk
  obtain ⟨⟨ch', hch', hr', hi'⟩, t', ht', ho'⟩ := (recorded (h.trans hs)).ticket _ hm' k' rfl
  obtain ⟨ch₁, h₁, hr₁, hi₁⟩ := Steps.keeps hs _ ch hch
  obtain ⟨t₁, ht₁, ho₁⟩ := Steps.origin hs ht
  rw [hc, h₁] at hch'
  cases hch'
  have htask : k'.task = k.task := hi'.symm.trans (hi₁.trans hi)
  rw [htask, ht₁] at ht'
  cases ht'
  refine ⟨hr'.symm.trans (hr₁.trans hr), ?_⟩
  cases k
  cases k'
  simp_all

/-- A request that has left the queue and the server had its channel resolved
once: with the answer to it, or by closing. -/
theorem passed_resolved {s s' : State A} (h : Reachable s) (hs : Steps s s') {m : Msg A}
    {k : Ticket A} (hm : m ∈ s.queue ++ s.phase.message) (hk : m.ticket = some k)
    (hgone : m ∉ s'.queue ++ s'.phase.message) :
    ∃ ch : Chan A, s'.chans[k.chan]? = some ch ∧ (ch.resolved = [none] ∨
      ∃ n a, ch.resolved = [some ⟨m.request, a⟩] ∧ Answered s'.log n k m.request (some a)) := by
  have hleft : m ∈ s'.queue ++ s'.phase.message ∨
      ∃ ch : Chan A, s'.chans[k.chan]? = some ch ∧ ch.resolved ≠ [] := by
    clear hgone
    induction hs with
    | refl => exact .inl hm
    | @tail b c hb hstep ih =>
      obtain hq | ⟨ch, hch, hres⟩ := ih
      · exact hstep.passes (h.trans hb) hq hk
      · exact .inr ⟨ch, hstep.resolved_stays (h.trans hb) hch hres, hres⟩
  obtain ⟨ch, hch, hres⟩ := hleft.resolve_left hgone
  have hr' : Reachable s' := h.trans hs
  obtain ⟨-, hopen⟩ | ⟨-, y, hy⟩ := (conserved hr').held_or_resolved hch
  · exact absurd hopen hres
  refine ⟨ch, hch, ?_⟩
  cases y with
  | none => exact .inl hy
  | some v =>
    obtain ⟨r, a⟩ := v
    obtain ⟨n, k', hkk, w, hn, hw⟩ := (explained hr').value _ ch r a hch (by simp [hy])
    obtain ⟨rfl, rfl⟩ := Steps.ticket_eq hs h (List.mem_append_left _ hm) hk (logged_mem hn) hkk
    exact .inr ⟨n, a, hy, w, hn, hw⟩

/-- Once the server has exited, everything that was left in the queue is closed. -/
theorem queue_closed_at_exit {s s' : State A} (h : Reachable s) (hp : s.phase.ended)
    (hs : Steps s s') (he : s'.phase = .exited) {m : Msg A} {k : Ticket A} (hm : m ∈ s.queue)
    (hk : m.ticket = some k) :
    ∃ ch : Chan A, s'.chans[k.chan]? = some ch ∧ ch.resolved = [none] := by
  have hgone : m ∉ s'.queue ++ s'.phase.message := by
    rw [exited_queue (h.trans hs) he, he]
    simp
  have hmem : m ∈ s.queue ++ s.phase.message := List.mem_append_left _ hm
  obtain ⟨ch, hch, hres⟩ := passed_resolved h hs hmem hk hgone
  have hnot : ∀ ch₀ : Chan A, s.chans[k.chan]? = some ch₀ → ch₀.resolved = [] := by
    intro ch₀ h₀
    have hheld : k.chan ∈ held s :=
      List.mem_append_right _ (List.mem_flatMap.mpr ⟨m, hmem, by simp [Msg.chans, hk]⟩)
    exact (conserved h).open_of_held h₀ hheld
  obtain hnil | hnone := closed_after_end h hp hs hch hnot
  · simp [hnil] at hres
  · exact ⟨ch, hch, hnone⟩

/-- After the exit only clients that are about to send hold an open channel. -/
theorem open_after_exit {s : State A} (h : Reachable s) (he : s.phase = .exited) {c : Nat}
    {ch : Chan A} (hc : s.chans[c]? = some ch) (hopen : ch.resolved = []) :
    ∃ (i : Nat) (o : A.Origin) (r : A.Req) (k : Option (A.Ans r) → A.Prog),
      s.tasks[i]? = some ⟨o, .sending r c k⟩ := by
  obtain ⟨hheld, -⟩ | ⟨-, y, hy⟩ := (conserved h).held_or_resolved hc
  swap
  · simp [hopen] at hy
  simp only [held, exited_queue h he, he, message_exited, List.append_nil,
    List.flatMap_nil] at hheld
  obtain ⟨⟨o, st⟩, ht, hpend⟩ := List.mem_flatMap.mp hheld
  obtain ⟨i, hi⟩ := List.mem_iff_getElem?.mp ht
  cases st with
  | sending r c' k =>
    simp only [pending_sending, List.mem_singleton] at hpend
    subst hpend
    exact ⟨i, o, r, k, hi⟩
  | _ => simp [TaskState.pending] at hpend

end Actor

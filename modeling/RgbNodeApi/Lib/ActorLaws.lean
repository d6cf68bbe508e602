import RgbNodeApi.Lib.Actor
import Mathlib.Data.List.Count

/-!
# Laws of clients and server

Reply channels are conserved: each one is held by exactly one party or has been
resolved exactly once. Every client and every message agree with the channel
that was made for the request.
-/
namespace Actor

variable {A : System}

/-! ## Resolving channels -/

def resolutions (chans : List (Chan A)) (c : Nat) : Nat :=
  (chans[c]?.map (·.resolved.length)).getD 0

@[simp] theorem length_resolve (chans : List (Chan A)) (c : Nat) (x : Option (Sigma A.Ans)) :
    (resolve chans c x).length = chans.length := by simp [resolve]

@[simp] theorem length_closeAll (chans : List (Chan A)) (cs : List Nat) :
    (closeAll chans cs).length = chans.length := by
  induction cs generalizing chans with
  | nil => rfl
  | cons c rest ih => exact (ih _).trans (length_resolve chans c none)

theorem resolve_self (chans : List (Chan A)) (c : Nat) (x : Option (Sigma A.Ans)) :
    (resolve chans c x)[c]? =
      chans[c]?.map fun ch => { ch with resolved := ch.resolved ++ [x] } := by
  simp [resolve]

theorem resolve_other (chans : List (Chan A)) {c d : Nat} (x : Option (Sigma A.Ans))
    (h : d ≠ c) : (resolve chans c x)[d]? = chans[d]? := by
  simp [resolve, Ne.symm h]

theorem closeAll_other (chans : List (Chan A)) (cs : List Nat) {d : Nat} (h : d ∉ cs) :
    (closeAll chans cs)[d]? = chans[d]? := by
  induction cs generalizing chans with
  | nil => rfl
  | cons c rest ih =>
    simp only [List.mem_cons, not_or] at h
    exact (ih _ h.2).trans (resolve_other chans none h.1)

theorem resolutions_resolve (chans : List (Chan A)) (c d : Nat) (x : Option (Sigma A.Ans)) :
    resolutions (resolve chans c x) d =
      resolutions chans d + if d < chans.length then [c].count d else 0 := by
  by_cases h : d = c
  · subst h
    rw [resolutions, resolutions, resolve_self]
    by_cases hd : d < chans.length
    · simp [hd]
    · simp [hd]
  · rw [resolutions, resolutions, resolve_other chans x h]
    simp [Ne.symm h]

/-- Closing adds one resolution for each time a channel is listed. -/
theorem resolutions_closeAll (chans : List (Chan A)) (cs : List Nat) (d : Nat) :
    resolutions (closeAll chans cs) d =
      resolutions chans d + if d < chans.length then cs.count d else 0 := by
  induction cs generalizing chans with
  | nil => simp [closeAll]
  | cons c rest ih =>
    change resolutions (closeAll (resolve chans c none) rest) d = _
    have hcons : (c :: rest).count d = [c].count d + rest.count d := by
      rw [← List.count_append, List.singleton_append]
    rw [ih, resolutions_resolve, length_resolve, hcons]
    split <;> omega

theorem resolutions_reply (chans : List (Chan A)) (m : Msg A) (x : Option (A.Ans m.request))
    (d : Nat) :
    resolutions (reply chans m x) d =
      resolutions chans d + if d < chans.length then m.chans.count d else 0 := by
  cases hm : m.ticket with
  | none => simp [reply, hm, Msg.chans]
  | some k =>
    simp only [reply, hm, Msg.chans, Option.map_some, Option.toList_some]
    exact resolutions_resolve _ _ _ _

@[simp] theorem length_reply (chans : List (Chan A)) (m : Msg A) (x : Option (A.Ans m.request)) :
    (reply chans m x).length = chans.length := by
  cases hm : m.ticket <;> simp [reply, hm]

theorem reply_other (chans : List (Chan A)) (m : Msg A) (x : Option (A.Ans m.request)) {d : Nat}
    (h : d ∉ m.chans) : (reply chans m x)[d]? = chans[d]? := by
  cases hm : m.ticket with
  | none => simp [reply, hm]
  | some k =>
    simp only [Msg.chans, hm, Option.map_some, Option.toList_some, List.mem_singleton] at h
    simp only [reply, hm]
    exact resolve_other chans _ h

theorem resolutions_append (chans : List (Chan A)) (ch : Chan A) (d : Nat)
    (h : ch.resolved = []) : resolutions (chans ++ [ch]) d = resolutions chans d := by
  simp only [resolutions]
  rcases Nat.lt_trichotomy d chans.length with hd | rfl | hd
  · rw [List.getElem?_append_left hd]
  · simp [h]
  · rw [List.getElem?_eq_none (by simp; omega), List.getElem?_eq_none (by omega)]

/-! ## Conservation -/

/-- The channels of the requests that some party holds: clients about to send,
the queue, and the server. -/
def held (s : State A) : List Nat :=
  s.tasks.flatMap (·.state.pending) ++ (s.queue ++ s.phase.message).flatMap Msg.chans

theorem count_flatMap_set {α : Type} (f : α → List Nat) (l : List α) (i : Nat) (a b : α)
    (h : l[i]? = some a) (c : Nat) :
    ((l.set i b).flatMap f).count c + (f a).count c =
      (l.flatMap f).count c + (f b).count c := by
  induction l generalizing i with
  | nil => simp at h
  | cons x rest ih =>
    cases i with
    | zero =>
      simp only [List.getElem?_cons_zero, Option.some.injEq] at h
      subst h
      simp only [List.set_cons_zero, List.flatMap_cons, List.count_append]
      omega
    | succ i =>
      have := ih i (by simpa using h)
      simp only [List.set_cons_succ, List.flatMap_cons, List.count_append]
      omega

theorem count_pending_set (s : State A) {i : Nat} {t : Task A} (h : s.tasks[i]? = some t)
    (o : A.Origin) (st : TaskState A) (c : Nat) :
    ((s.tasks.set i ⟨o, st⟩).flatMap (·.state.pending)).count c + t.state.pending.count c =
      (s.tasks.flatMap (·.state.pending)).count c + st.pending.count c :=
  count_flatMap_set (fun t : Task A => t.state.pending) s.tasks i t ⟨o, st⟩ h c

/-- One for every channel that was made. -/
def issued (chans : List (Chan A)) (c : Nat) : Nat := if c < chans.length then 1 else 0

theorem issued_append (chans : List (Chan A)) (ch : Chan A) (c : Nat) :
    issued (chans ++ [ch]) c = issued chans c + [chans.length].count c := by
  simp only [issued, List.length_append, List.length_singleton, List.count_singleton, beq_iff_eq]
  split <;> split <;> split <;> omega

theorem issued_of_length {chans chans' : List (Chan A)} (h : chans.length = chans'.length)
    (c : Nat) : issued chans c = issued chans' c := by rw [issued, issued, h]

def Conserved (s : State A) : Prop :=
  ∀ c, (held s).count c + resolutions s.chans c = issued s.chans c

theorem conserved_init : Conserved A.init := by
  intro c
  simp [held, resolutions, issued, System.init]

theorem Conserved.lt {s : State A} (h : Conserved s) {c : Nat} (hc : c ∈ held s) :
    c < s.chans.length := by
  have hpos := List.count_pos_iff.mpr hc
  have hone := h c
  by_contra hge
  simp only [issued, hge, if_false] at hone
  omega

/-- What is held can be closed. -/
theorem Conserved.close {s : State A} (h : Conserved s) (cs : List Nat) (c : Nat)
    (hcs : cs.count c ≤ (held s).count c) :
    resolutions (closeAll s.chans cs) c = resolutions s.chans c + cs.count c := by
  rw [resolutions_closeAll]
  by_cases hlt : c < s.chans.length
  · rw [if_pos hlt]
  · have hone := h c
    simp only [issued, hlt, if_false] at hone
    rw [if_neg hlt]
    omega

theorem Conserved.reply {s : State A} (h : Conserved s) (m : Msg A) (x : Option (A.Ans m.request))
    (c : Nat) (hm : m.chans.count c ≤ (held s).count c) :
    resolutions (reply s.chans m x) c = resolutions s.chans c + m.chans.count c := by
  rw [resolutions_reply, ← resolutions_closeAll]
  exact h.close m.chans c hm

theorem message_next (b : Bool) :
    (if b then Phase.idle else Phase.stopping : Phase A).message = [] := by
  cases b <;> rfl

/-- The parts of what is held. -/
theorem count_held (s : State A) (c : Nat) :
    (held s).count c = (s.tasks.flatMap (·.state.pending)).count c +
      ((s.queue.flatMap Msg.chans).count c + (s.phase.message.flatMap Msg.chans).count c) := by
  simp only [held, List.flatMap_append, List.count_append]

theorem count_pending_le (s : State A) {i : Nat} {t : Task A} (h : s.tasks[i]? = some t)
    (c : Nat) : t.state.pending.count c ≤ (held s).count c := by
  have hset := count_pending_set s h t.origin .cancelled c
  simp only [pending_cancelled, List.count_nil] at hset
  rw [count_held]
  omega

/-- A step moves channels between the parties, makes one, or resolves some. -/
theorem Step.conserved {s s' : State A} (hs : Step s s') (h : Conserved s) : Conserved s' := by
  intro c
  have hc := h c
  have hparts := count_held s c
  rw [count_held]
  cases hs with
  | begin o ho _ =>
    simp only [List.flatMap_append, List.flatMap_cons, List.flatMap_nil, pending_running,
      List.append_nil]
    omega
  | @clock i o k now ht =>
    have hset := count_pending_set s ht o (.running (k now)) c
    simp only [pending_running, List.count_nil] at hset
    simp only [State.setTask]
    omega
  | @ask i o r k ht =>
    have hset := count_pending_set s ht o (.sending r s.chans.length k) c
    have hnew := resolutions_append s.chans ⟨r, i, []⟩ c rfl
    have hissued := issued_append s.chans ⟨r, i, []⟩ c
    simp only [pending_running, pending_sending, List.count_nil] at hset
    simp only [State.setTask]
    omega
  | @enqueue i o r d k ht hq hp =>
    have hset := count_pending_set s ht o (.waiting r d k) c
    simp only [pending_waiting, pending_sending, List.count_nil] at hset
    simp only [State.setTask, List.flatMap_append, List.count_append, List.flatMap_cons,
      List.flatMap_nil, Msg.chans, Option.map_some, Option.toList_some, List.append_nil] at *
    omega
  | @bounce i o r d k ht hp =>
    have hset := count_pending_set s ht o (.waiting r d k) c
    have hclose := h.close [d] c (count_pending_le s ht c)
    have hissued := issued_of_length (length_closeAll s.chans [d]) c
    simp only [pending_waiting, pending_sending, List.count_nil] at hset
    simp only [State.setTask]
    omega
  | @deliver i o r d k ch x ht hc' hx =>
    have hset := count_pending_set s ht o (.running (k x)) c
    simp only [pending_running, pending_waiting, List.count_nil] at hset
    simp only [State.setTask]
    omega
  | @cancel i t ht =>
    have hset := count_pending_set s ht t.origin .cancelled c
    have hclose := h.close t.state.pending c (count_pending_le s ht c)
    have hissued := issued_of_length (length_closeAll s.chans t.state.pending) c
    simp only [pending_cancelled, List.count_nil] at hset
    simp only [State.setTask]
    omega
  | post r hr hq hp hcl =>
    simp only [List.flatMap_append, List.flatMap_cons, List.flatMap_nil, Msg.chans,
      Option.map_none, Option.toList_none, List.append_nil] at *
    omega
  | close =>
    rw [hparts] at hc
    exact hc
  | @recv m q hp hq =>
    simp only [hp, hq, message_idle, message_handling, List.flatMap_cons, List.flatMap_nil,
      List.count_append, List.count_nil, List.append_nil] at *
    omega
  | @handle m w hp =>
    simp only [hp, message_handling, List.flatMap_cons, List.flatMap_nil, List.append_nil] at hparts
    have hreply := h.reply m (A.handle s.server w m.request).1 c (by omega)
    have hissued := issued_of_length (length_reply s.chans m (A.handle s.server w m.request).1) c
    simp only [message_next, List.flatMap_nil, List.count_nil]
    omega
  | @crash m hp =>
    simp only [hp, message_handling, List.flatMap_cons, List.flatMap_nil, List.append_nil] at hparts
    have hclose := h.close m.chans c (by omega)
    have hissued := issued_of_length (length_closeAll s.chans m.chans) c
    simp only [message_stopping, List.flatMap_nil, List.count_nil]
    omega
  | hangup hp hq hcl ht =>
    simp only [hp, hq, message_idle, message_stopping, List.flatMap_nil, List.count_nil] at *
    omega
  | shutdown hp =>
    simp only [hp, message_stopping, List.flatMap_nil, List.count_nil] at hparts
    have hclose := h.close (s.queue.flatMap Msg.chans) c (by omega)
    have hissued := issued_of_length (length_closeAll s.chans (s.queue.flatMap Msg.chans)) c
    simp only [message_exited, List.flatMap_nil, List.count_nil]
    omega

theorem conserved {s : State A} (h : Reachable s) : Conserved s := by
  induction h with
  | refl => exact conserved_init
  | tail _ hs ih => exact hs.conserved ih

/-! ## Records -/

theorem getElem?_set_cases {α : Type} {l : List α} {i j : Nat} {a b : α}
    (h : (l.set i a)[j]? = some b) : (j = i ∧ b = a) ∨ l[j]? = some b := by
  by_cases hj : i = j
  · subst hj
    rw [List.getElem?_set] at h
    simp only [if_true] at h
    split at h
    · exact .inl ⟨rfl, (Option.some.inj h).symm⟩
    · cases h
  · rw [List.getElem?_set_ne hj] at h
    exact .inr h

theorem getElem?_snoc_cases {α : Type} {l : List α} {j : Nat} {a b : α}
    (h : (l ++ [a])[j]? = some b) : (j = l.length ∧ b = a) ∨ l[j]? = some b := by
  rcases Nat.lt_trichotomy j l.length with hj | rfl | hj
  · rw [List.getElem?_append_left hj] at h
    exact .inr h
  · simp only [List.getElem?_concat_length, Option.some.injEq] at h
    exact .inl ⟨rfl, h.symm⟩
  · rw [List.getElem?_eq_none (by simp; omega)] at h
    cases h

/-- What a channel was made for does not change. -/
def Keeps (chans chans' : List (Chan A)) : Prop :=
  ∀ (c : Nat) (ch : Chan A), chans[c]? = some ch →
    ∃ ch' : Chan A, chans'[c]? = some ch' ∧ ch'.request = ch.request ∧ ch'.task = ch.task

theorem Keeps.refl (chans : List (Chan A)) : Keeps chans chans := fun _ ch h => ⟨ch, h, rfl, rfl⟩

theorem keeps_append (chans : List (Chan A)) (ch : Chan A) : Keeps chans (chans ++ [ch]) := by
  intro c ch' h
  obtain ⟨hlt, -⟩ := List.getElem?_eq_some_iff.mp h
  exact ⟨ch', by rw [List.getElem?_append_left hlt, h], rfl, rfl⟩

theorem keeps_resolve (chans : List (Chan A)) (c : Nat) (x : Option (Sigma A.Ans)) :
    Keeps chans (resolve chans c x) := by
  intro d ch h
  by_cases hd : d = c
  · subst hd
    exact ⟨{ ch with resolved := ch.resolved ++ [x] }, by rw [resolve_self, h]; rfl, rfl, rfl⟩
  · exact ⟨ch, by rw [resolve_other chans x hd, h], rfl, rfl⟩

theorem keeps_closeAll (chans : List (Chan A)) (cs : List Nat) :
    Keeps chans (closeAll chans cs) := by
  induction cs generalizing chans with
  | nil => exact .refl chans
  | cons c rest ih =>
    intro d ch h
    obtain ⟨ch₁, h₁, hr₁, ht₁⟩ := keeps_resolve chans c none d ch h
    obtain ⟨ch₂, h₂, hr₂, ht₂⟩ := ih _ d ch₁ h₁
    exact ⟨ch₂, h₂, hr₂.trans hr₁, ht₂.trans ht₁⟩

theorem keeps_reply (chans : List (Chan A)) (m : Msg A) (x : Option (A.Ans m.request)) :
    Keeps chans (reply chans m x) := by
  cases hm : m.ticket with
  | none => simpa [reply, hm] using Keeps.refl chans
  | some k => simpa [reply, hm] using keeps_resolve chans k.chan _

theorem Step.keeps {s s' : State A} (hs : Step s s') : Keeps s.chans s'.chans := by
  cases hs with
  | ask => exact keeps_append _ _
  | bounce => exact keeps_closeAll _ _
  | cancel => exact keeps_closeAll _ _
  | handle => exact keeps_reply _ _ _
  | crash => exact keeps_closeAll _ _
  | shutdown => exact keeps_closeAll _ _
  | _ => exact .refl _

/-- Clients stay who they are. -/
theorem Step.origin {s s' : State A} (hs : Step s s') {i : Nat} {t : Task A}
    (h : s.tasks[i]? = some t) : ∃ t', s'.tasks[i]? = some t' ∧ t'.origin = t.origin := by
  have hset : ∀ (j : Nat) (t₁ : Task A) (st : TaskState A), s.tasks[j]? = some t₁ →
      ∃ t', (s.tasks.set j ⟨t₁.origin, st⟩)[i]? = some t' ∧ t'.origin = t.origin := by
    intro j t₁ st hj
    by_cases hij : j = i
    · subst hij
      rw [h] at hj
      cases hj
      obtain ⟨hlt, -⟩ := List.getElem?_eq_some_iff.mp h
      exact ⟨_, List.getElem?_set_self hlt, rfl⟩
    · exact ⟨t, by rw [List.getElem?_set_ne hij, h], rfl⟩
  cases hs with
  | begin o ho _ =>
    obtain ⟨hlt, -⟩ := List.getElem?_eq_some_iff.mp h
    exact ⟨t, by rw [List.getElem?_append_left hlt, h], rfl⟩
  | clock now ht => exact hset _ _ _ ht
  | ask ht => exact hset _ _ _ ht
  | enqueue ht => exact hset _ _ _ ht
  | bounce ht => exact hset _ _ _ ht
  | deliver x ht => exact hset _ _ _ ht
  | cancel ht => exact hset _ _ _ ht
  | _ => exact ⟨t, h, rfl⟩

def TaskState.asking : TaskState A → Option (A.Req × Nat)
  | .sending r c _ | .waiting r c _ => some (r, c)
  | _ => none

/-- All messages that were put in the queue and not closed since. -/
def State.messages (s : State A) : List (Msg A) := s.queue ++ s.phase.message ++ s.log.map Prod.snd

/-- Clients and messages agree with the record of their channel. -/
structure Recorded (s : State A) : Prop where
  asked : ∀ (i : Nat) (t : Task A) (r : A.Req) (c : Nat), s.tasks[i]? = some t →
    t.state.asking = some (r, c) →
    ∃ ch : Chan A, s.chans[c]? = some ch ∧ ch.request = r ∧ ch.task = i
  ticket : ∀ m ∈ s.messages, ∀ k, m.ticket = some k →
    (∃ ch : Chan A, s.chans[k.chan]? = some ch ∧ ch.request = m.request ∧ ch.task = k.task) ∧
    ∃ t : Task A, s.tasks[k.task]? = some t ∧ t.origin = k.origin

theorem recorded_init : Recorded (A.init) where
  asked i t r c h := by simp [System.init] at h
  ticket m h := by simp [State.messages, System.init] at h

/-- A client that asks after a step asked before it, or its channel is new. -/
theorem Step.asked {s s' : State A} (hs : Step s s') {j : Nat} {t : Task A} {r : A.Req} {c : Nat}
    (h : s'.tasks[j]? = some t) (ha : t.state.asking = some (r, c)) :
    (∃ t₀ : Task A, s.tasks[j]? = some t₀ ∧ t₀.state.asking = some (r, c)) ∨
      s'.chans[c]? = some ⟨r, j, []⟩ := by
  cases hs with
  | begin o ho _ =>
    obtain ⟨rfl, rfl⟩ | h := getElem?_snoc_cases h
    · cases ha
    · exact .inl ⟨t, h, ha⟩
  | clock now ht =>
    obtain ⟨rfl, rfl⟩ | h := getElem?_set_cases h
    · cases ha
    · exact .inl ⟨t, h, ha⟩
  | ask ht =>
    obtain ⟨rfl, rfl⟩ | h := getElem?_set_cases h
    · cases ha
      exact .inr (by simp)
    · exact .inl ⟨t, h, ha⟩
  | enqueue ht =>
    obtain ⟨rfl, rfl⟩ | h := getElem?_set_cases h
    · cases ha
      exact .inl ⟨_, ht, rfl⟩
    · exact .inl ⟨t, h, ha⟩
  | bounce ht =>
    obtain ⟨rfl, rfl⟩ | h := getElem?_set_cases h
    · cases ha
      exact .inl ⟨_, ht, rfl⟩
    · exact .inl ⟨t, h, ha⟩
  | deliver x ht =>
    obtain ⟨rfl, rfl⟩ | h := getElem?_set_cases h
    · cases ha
    · exact .inl ⟨t, h, ha⟩
  | cancel ht =>
    obtain ⟨rfl, rfl⟩ | h := getElem?_set_cases h
    · cases ha
    · exact .inl ⟨t, h, ha⟩
  | _ => exact .inl ⟨t, h, ha⟩

/-- Requests in the queue or with the server, after a step. -/
theorem Step.pendingMessage {s s' : State A} (hs : Step s s') {m : Msg A}
    (hm : m ∈ s'.queue ++ s'.phase.message) :
    m ∈ s.queue ++ s.phase.message ∨ (m.ticket = none ∧ A.posted m.request) ∨
      ∃ i o c k, s.tasks[i]? = some ⟨o, .sending m.request c k⟩ ∧ m.ticket = some ⟨i, o, c⟩ := by
  cases hs with
  | @enqueue i o r c k ht hq hp =>
    simp only [State.setTask, List.mem_append, List.mem_singleton] at hm
    rcases hm with (hm | rfl) | hm
    · exact .inl (by simp [hm])
    · exact .inr (.inr ⟨i, o, c, k, ht, rfl⟩)
    · exact .inl (by simp [hm])
  | post r hr hq hp hc =>
    simp only [List.mem_append, List.mem_singleton] at hm
    rcases hm with (hm | rfl) | hm
    · exact .inl (by simp [hm])
    · exact .inr (.inl ⟨rfl, hr⟩)
    · exact .inl (by simp [hm])
  | @recv m' q hp hq =>
    simp only [message_handling, List.mem_append, List.mem_singleton] at hm
    rcases hm with hm | rfl <;> simp_all
  | @handle m' w hp =>
    simp only [message_next, List.append_nil] at hm
    exact .inl (by simp [hm])
  | @crash m' hp =>
    simp only [message_stopping, List.append_nil] at hm
    exact .inl (by simp [hm])
  | hangup hp hq hc ht =>
    simp [hq] at hm
  | shutdown hp => simp at hm
  | _ => exact .inl hm

/-- The log grows by the request that was being handled. -/
theorem Step.log {s s' : State A} (hs : Step s s') :
    s'.log = s.log ∨ ∃ w m, s.phase = .handling m ∧ s'.log = s.log ++ [(w, m)] := by
  cases hs with
  | @handle m w hp => exact .inr ⟨w, m, hp, rfl⟩
  | _ => exact .inl rfl

/-- A message that is there after a step was there before it, or has just been
put there. -/
theorem Step.message {s s' : State A} (hs : Step s s') {m : Msg A} (hm : m ∈ s'.messages) :
    m ∈ s.messages ∨ (m.ticket = none ∧ A.posted m.request) ∨
      ∃ i o c k, s.tasks[i]? = some ⟨o, .sending m.request c k⟩ ∧ m.ticket = some ⟨i, o, c⟩ := by
  rcases List.mem_append.mp hm with hm | hm
  · obtain hm | hnew := hs.pendingMessage hm
    · exact .inl (List.mem_append_left _ hm)
    · exact .inr hnew
  · left
    obtain hl | ⟨w, m', hp, hl⟩ := hs.log
    · rw [hl] at hm
      exact List.mem_append_right _ hm
    · rw [hl, List.map_append, List.mem_append] at hm
      rcases hm with hm | hm
      · exact List.mem_append_right _ hm
      · simp only [List.map_cons, List.map_nil, List.mem_singleton] at hm
        subst hm
        exact List.mem_append_left _ (by simp [hp])

theorem Step.recorded {s s' : State A} (hs : Step s s') (h : Recorded s) : Recorded s' := by
  constructor
  · intro i t r c ht ha
    obtain ⟨t₀, ht₀, ha₀⟩ | hnew := hs.asked ht ha
    · obtain ⟨ch, hch, hr, hi⟩ := h.asked i t₀ r c ht₀ ha₀
      obtain ⟨ch', hch', hr', hi'⟩ := hs.keeps c ch hch
      exact ⟨ch', hch', hr'.trans hr, hi'.trans hi⟩
    · exact ⟨_, hnew, rfl, rfl⟩
  · intro m hm k hk
    have hold : (∃ ch : Chan A, s.chans[k.chan]? = some ch ∧ ch.request = m.request ∧
          ch.task = k.task) ∧ ∃ t : Task A, s.tasks[k.task]? = some t ∧ t.origin = k.origin := by
      obtain hm | hn | ⟨i, o, c, f, ht, hk'⟩ := hs.message hm
      · exact h.ticket m hm k hk
      · simp [hn.1] at hk
      · rw [hk'] at hk
        cases hk
        exact ⟨h.asked i _ m.request c ht rfl, ⟨_, ht, rfl⟩⟩
    obtain ⟨⟨ch, hch, hr, hi⟩, t, ht, ho⟩ := hold
    obtain ⟨ch', hch', hr', hi'⟩ := hs.keeps _ ch hch
    obtain ⟨t', ht', ho'⟩ := hs.origin ht
    exact ⟨⟨ch', hch', hr'.trans hr, hi'.trans hi⟩, t', ht', ho'.trans ho⟩

theorem recorded {s : State A} (h : Reachable s) : Recorded s := by
  induction h with
  | refl => exact recorded_init
  | tail _ hs ih => exact hs.recorded ih

end Actor

import RgbNodeApi.Lib.ActorSessions
import Mathlib.Data.List.ReduceOption

/-!
# One sequential history

The log is a sequential history of the system: what each client has done so far
is its program run against the answers the log gives to it, in the order of the
log, and that order respects real time.
-/
namespace Actor

variable {A : System}

/-! ## Runs of one program -/

section

variable {ρ : Type} {α : ρ → Type} {κ β γ : Type}

/-- After these turns, requests with the server's answers to them, `p` has still to
do the other program. A request that was lost is one that the client found closed
without its being handled. -/
inductive Ran (p : Program ρ α κ β) : List (Σ r, Option (α r)) → Program ρ α κ β → Prop
  | nil : Ran p [] p
  | clock {ts k} (now : κ) (h : Ran p ts (.clock k)) : Ran p ts (k now)
  | got {ts r k} (x : Option (α r)) (h : Ran p ts (.ask r k)) : Ran p (ts ++ [⟨r, x⟩]) (k x)
  | lost {ts r k} (h : Ran p ts (.ask r k)) : Ran p ts (k none)

theorem Ran.of_ret {b : β} {ts : List (Σ r, Option (α r))} {q : Program ρ α κ β}
    (h : Ran (.ret b) ts q) : ts = [] ∧ q = .ret b := by
  induction h with
  | nil => exact ⟨rfl, rfl⟩
  | clock now _ ih => cases ih.2
  | got x _ ih => cases ih.2
  | lost _ ih => cases ih.2

/-- Until `p` has returned, `p.bind f` does what `p` does. -/
theorem Ran.bind_ret {p : Program ρ α κ β} {g : β → γ} {ts : List (Σ r, Option (α r))}
    {q : Program ρ α κ γ} (h : Ran (p.bind fun b => .ret (g b)) ts q) :
    ∃ q', Ran p ts q' ∧ q = q'.bind fun b => .ret (g b) := by
  induction h with
  | nil => exact ⟨p, .nil, rfl⟩
  | clock now _ ih =>
    obtain ⟨q', hq, he⟩ := ih
    cases q' with
    | ret b => cases he
    | clock k =>
      cases he
      exact ⟨k now, .clock now hq, rfl⟩
    | ask r k => cases he
  | got x _ ih =>
    obtain ⟨q', hq, he⟩ := ih
    cases q' with
    | ret b => cases he
    | clock k => cases he
    | ask r k =>
      cases he
      exact ⟨k x, .got x hq, rfl⟩
  | lost _ ih =>
    obtain ⟨q', hq, he⟩ := ih
    cases q' with
    | ret b => cases he
    | clock k => cases he
    | ask r k =>
      cases he
      exact ⟨k none, .lost hq, rfl⟩

/-- Whatever it is answered, what the program returns satisfies `G`, given its turns. -/
def Yields : Program ρ α κ β → (List (Σ r, Option (α r)) → β → Prop) → Prop
  | .ret b, G => G [] b
  | .clock k, G => ∀ now, Yields (k now) G
  | .ask r k, G => Yields (k none) G ∧ ∀ x, Yields (k x) fun ts => G (⟨r, x⟩ :: ts)

theorem Yields.mono {p : Program ρ α κ β} {G G' : List (Σ r, Option (α r)) → β → Prop}
    (hp : Yields p G) (h : ∀ ts b, G ts b → G' ts b) : Yields p G' := by
  induction p generalizing G G' with
  | ret b => exact h [] b hp
  | clock k ih => exact fun now => ih now (hp now) h
  | ask r k ih => exact ⟨ih none hp.1 h, fun x => ih x (hp.2 x) fun ts b => h (⟨r, x⟩ :: ts) b⟩

theorem Yields.bind {p : Program ρ α κ β} {f : β → Program ρ α κ γ}
    {G : List (Σ r, Option (α r)) → γ → Prop}
    (hp : Yields p fun ts b => Yields (f b) fun us => G (ts ++ us)) : Yields (p.bind f) G := by
  induction p generalizing G with
  | ret b => exact hp
  | clock k ih => exact fun now => ih now (hp now)
  | ask r k ih => exact ⟨ih none hp.1, fun x => ih x (hp.2 x)⟩

/-- The promise is kept in some run. -/
theorem Yields.exists [Nonempty κ] {p : Program ρ α κ β} {G : List (Σ r, Option (α r)) → β → Prop}
    (hp : Yields p G) : ∃ ts b, G ts b := by
  induction p generalizing G with
  | ret b => exact ⟨[], b, hp⟩
  | clock k ih =>
    obtain ⟨now⟩ := ‹Nonempty κ›
    exact ih now (hp now)
  | ask r k ih => exact ih none hp.1

/-- What is left to do after some turns keeps the promise about all of them. -/
theorem Ran.yields {p q : Program ρ α κ β} {G : List (Σ r, Option (α r)) → β → Prop}
    {ts : List (Σ r, Option (α r))} (h : Ran p ts q) (hp : Yields p G) :
    Yields q fun us => G (ts ++ us) := by
  induction h with
  | nil => exact hp
  | clock now _ ih => exact ih now
  | @got ts r k x _ ih =>
    refine (ih.2 x).mono fun us b hG => ?_
    rw [List.append_assoc]
    exact hG
  | lost _ ih => exact ih.1

theorem Ran.result {p : Program ρ α κ β} {G : List (Σ r, Option (α r)) → β → Prop}
    {ts : List (Σ r, Option (α r))} {b : β} (h : Ran p ts (.ret b)) (hp : Yields p G) :
    G ts b := by
  have hret : G (ts ++ []) b := h.yields hp
  rwa [List.append_nil] at hret

end

abbrev Turn (A : System) := Σ r : A.Req, Option (A.Ans r)

def Turn.value (u : Turn A) : Option (Sigma A.Ans) := u.2.map (Sigma.mk u.1)

theorem turn_value_inj {r : A.Req} {x x' : Option (A.Ans r)}
    (h : [x.map (Sigma.mk r)].reduceOption = [(⟨r, x'⟩ : Turn A)].filterMap Turn.value) :
    x' = x := by
  cases x with
  | none =>
    cases x' with
    | none => rfl
    | some a' => cases h
  | some a =>
    cases x' with
    | none => cases h
    | some a' =>
      cases h
      rfl

/-! ## What the log gives to a client -/

def Msg.isOf (i : Nat) (m : Msg A) : Bool := m.ticket.any (·.task == i)

/-- The turn of client `i` when `m` is handled. -/
def Msg.turn (i : Nat) (m : Msg A) (x : Option (A.Ans m.request)) : List (Turn A) :=
  if m.isOf i then [⟨m.request, x⟩] else []

/-- The requests of client `i` with the answers to them, computed by handling the
messages of the log in their order. -/
def turns (i : Nat) : A.Server → List (A.World × Msg A) → List (Turn A)
  | _, [] => []
  | st, (w, m) :: rest =>
    m.turn i (A.handle st w m.request).1 ++ turns i (A.handle st w m.request).2 rest

theorem turns_append (i : Nat) (st : A.Server) (log rest : List (A.World × Msg A)) :
    turns i st (log ++ rest) = turns i st log ++
      turns i (log.foldl (fun st e => (A.handle st e.1 e.2.request).2) st) rest := by
  induction log generalizing st with
  | nil => rfl
  | cons e log ih => simp [turns, ih]

theorem turns_snoc (i : Nat) (log : List (A.World × Msg A)) (w : A.World) (m : Msg A) :
    turns i A.start (log ++ [(w, m)]) =
      turns i A.start log ++ m.turn i (A.handle (A.after log) w m.request).1 := by
  simp [turns_append, turns, System.after]

theorem turns_of_none {i : Nat} {log : List (A.World × Msg A)} (st : A.Server)
    (h : ∀ e ∈ log, e.2.isOf i = false) : turns i st log = [] := by
  induction log generalizing st with
  | nil => rfl
  | cons e log ih =>
    have hhead := h e List.mem_cons_self
    have htail := ih (A.handle st e.1 e.2.request).2 fun e' he => h e' (List.mem_cons_of_mem _ he)
    simp [turns, Msg.turn, hhead, htail]

/-! ## Messages in flight -/

/-- How many messages of client `i` are in the queue or with the server. -/
def inFlight (s : State A) (i : Nat) : Nat := (s.queue ++ s.phase.message).countP (Msg.isOf i)

/-- A message of a client that still is there is the one it waits for. -/
def Attached (s : State A) : Prop :=
  ∀ m ∈ s.queue ++ s.phase.message, ∀ k, m.ticket = some k → ∃ t : Task A,
    s.tasks[k.task]? = some t ∧
      (t.state = .cancelled ∨ ∃ f, t.state = .waiting m.request k.chan f)

theorem attached_init : Attached (A.init) := by
  intro m hm
  simp [System.init] at hm

theorem getElem?_set_ne_of {α : Type} {l : List α} {i j : Nat} {a b : α} (h : l[j]? = some b)
    (hij : j ≠ i) : (l.set i a)[j]? = some b := by
  rw [List.getElem?_set_ne (Ne.symm hij), h]

/-- A task is replaced that no message waits for. -/
theorem Attached.setTask {s : State A} (h : Attached s) {i : Nat} {o : A.Origin}
    {st : TaskState A}
    (hst : st = .cancelled ∨ ∀ m ∈ s.queue ++ s.phase.message, ∀ k, m.ticket = some k →
      k.task ≠ i) : Attached (s.setTask i o st) := by
  intro m hm k hk
  obtain ⟨t, ht, hcase⟩ := h m hm k hk
  by_cases hi : k.task = i
  · obtain rfl | hnone := hst
    · obtain ⟨hlt, -⟩ := List.getElem?_eq_some_iff.mp ht
      refine ⟨⟨o, .cancelled⟩, ?_, .inl rfl⟩
      subst hi
      exact List.getElem?_set_self hlt
    · exact absurd hi (hnone m hm k hk)
  · exact ⟨t, getElem?_set_ne_of ht hi, hcase⟩

/-- No message belongs to a client that is not waiting. -/
theorem Attached.not_of {s : State A} (h : Attached s) {i : Nat} {t : Task A}
    (ht : s.tasks[i]? = some t) (hc : t.state ≠ .cancelled)
    (hw : ∀ r c f, t.state ≠ .waiting r c f) :
    ∀ m ∈ s.queue ++ s.phase.message, ∀ k, m.ticket = some k → k.task ≠ i := by
  rintro m hm k hk rfl
  obtain ⟨t', ht', hcase⟩ := h m hm k hk
  rw [ht] at ht'
  cases ht'
  obtain hcan | ⟨f, hf⟩ := hcase
  · exact hc hcan
  · exact hw _ _ _ hf

theorem chan_held {s : State A} {m : Msg A} (hm : m ∈ s.queue ++ s.phase.message) {k : Ticket A}
    (hk : m.ticket = some k) : k.chan ∈ held s :=
  List.mem_append_right _ (List.mem_flatMap.mpr ⟨m, hm, by simp [Msg.chans, hk]⟩)

/-- No message belongs to a client whose channel was resolved. -/
theorem Attached.not_of_resolved {s : State A} (h : Attached s) (hcons : Conserved s) {i : Nat}
    {o : A.Origin} {r : A.Req} {c : Nat} {f : Option (A.Ans r) → A.Prog}
    (ht : s.tasks[i]? = some ⟨o, .waiting r c f⟩) {ch : Chan A} (hch : s.chans[c]? = some ch)
    (hr : ch.resolved ≠ []) :
    ∀ m ∈ s.queue ++ s.phase.message, ∀ k, m.ticket = some k → k.task ≠ i := by
  rintro m hm k hk rfl
  obtain ⟨t', ht', hcase⟩ := h m hm k hk
  rw [ht] at ht'
  cases ht'
  obtain hcan | ⟨g, hg⟩ := hcase
  · cases hcan
  · cases hg
    exact hcons.not_held hch hr (chan_held hm hk)

theorem Attached.of_messages {s s' : State A} (h : Attached s) (ht : s'.tasks = s.tasks)
    (hm : ∀ m ∈ s'.queue ++ s'.phase.message, m.ticket = none ∨ m ∈ s.queue ++ s.phase.message) :
    Attached s' := by
  intro m hmem k hk
  rw [ht]
  obtain hnone | hold := hm m hmem
  · rw [hk] at hnone
    cases hnone
  · exact h m hold k hk

theorem Step.attached {s s' : State A} (hs : Step s s') (hcons : Conserved s) (h : Attached s) :
    Attached s' := by
  cases hs with
  | begin o ho _ =>
    intro m hm k hk
    obtain ⟨t, ht, hcase⟩ := h m hm k hk
    obtain ⟨hlt, -⟩ := List.getElem?_eq_some_iff.mp ht
    exact ⟨t, by rw [List.getElem?_append_left hlt, ht], hcase⟩
  | clock now ht =>
    exact h.setTask (.inr (h.not_of ht nofun nofun))
  | ask ht =>
    exact h.setTask (.inr (h.not_of ht nofun nofun))
  | @enqueue i o r c k ht hq hp =>
    have hnot := h.not_of ht nofun nofun
    obtain ⟨hlt, -⟩ := List.getElem?_eq_some_iff.mp ht
    intro m hm k' hk
    simp only [State.setTask, List.mem_append, List.mem_singleton] at hm
    have hcase : m ∈ s.queue ++ s.phase.message ∨ m = ⟨r, some ⟨i, o, c⟩⟩ := by
      rw [List.mem_append]
      tauto
    obtain hold | rfl := hcase
    · obtain ⟨t, ht', hcase⟩ := h m hold k' hk
      exact ⟨t, getElem?_set_ne_of ht' (hnot m hold k' hk), hcase⟩
    · cases hk
      exact ⟨_, List.getElem?_set_self hlt, .inr ⟨k, rfl⟩⟩
  | bounce ht hp => exact h.setTask (.inr (h.not_of ht nofun nofun))
  | @deliver i o r c k ch x ht hc hx =>
    apply h.setTask (.inr (h.not_of_resolved hcons ht hc ?_))
    rintro hnil
    simp [hnil] at hx
  | cancel ht => exact h.setTask (.inl rfl)
  | post r hr hq hp hc =>
    refine h.of_messages rfl ?_
    intro m hm
    simp only [List.mem_append, List.mem_singleton] at hm ⊢
    rcases hm with (hm | rfl) | hm
    · exact .inr (.inl hm)
    · exact .inl rfl
    · exact .inr (.inr hm)
  | close => exact h
  | @recv m₀ q hp hq =>
    refine h.of_messages rfl ?_
    intro m hm
    simp only [message_handling, List.mem_append, List.mem_singleton] at hm
    simp only [hq, List.mem_append, List.mem_cons]
    tauto
  | handle w hp =>
    refine h.of_messages rfl ?_
    intro m hm
    rw [message_next, List.append_nil] at hm
    exact .inr (List.mem_append_left _ hm)
  | crash hp =>
    refine h.of_messages rfl ?_
    intro m hm
    rw [message_stopping, List.append_nil] at hm
    exact .inr (List.mem_append_left _ hm)
  | hangup hp hq =>
    refine h.of_messages rfl ?_
    intro m hm
    simp [hq] at hm
  | shutdown hp =>
    refine h.of_messages rfl ?_
    intro m hm
    simp at hm

theorem attached {s : State A} (h : Reachable s) : Attached s := by
  induction h with
  | refl => exact attached_init
  | tail hr hs ih => exact hs.attached (conserved hr) ih

theorem inFlight_eq_zero {s : State A} {i : Nat}
    (h : ∀ m ∈ s.queue ++ s.phase.message, ∀ k, m.ticket = some k → k.task ≠ i) :
    inFlight s i = 0 := by
  rw [inFlight, List.countP_eq_zero]
  intro m hm
  cases hk : m.ticket with
  | none => simp [Msg.isOf, hk]
  | some k => simpa [Msg.isOf, hk] using h m hm k hk

/-! ## Views -/

/-- How many answers a client may still have to read. -/
def TaskState.unread : TaskState A → Nat
  | .running _ | .sending _ _ _ => 0
  | .waiting _ _ _ | .cancelled => 1

/-- Client `i` had the turns `ts` and has still to do `p`; `rest` is its turn that
it has not read yet. -/
structure Seen (s : State A) (i : Nat) (t : Task A) (ts : List (Turn A)) (p : A.Prog)
    (rest : List (Turn A)) : Prop where
  ran : Ran (A.launch t.origin) ts p
  program : ∀ q, t.state.program = some q → q = p
  turns : turns i A.start s.log = ts ++ rest
  unread : rest.length + inFlight s i ≤ t.state.unread
  channel : ∀ r c k ch, t.state = .waiting r c k → s.chans[c]? = some ch →
    (∀ u ∈ rest, u.1 = r) ∧ ch.resolved.reduceOption = rest.filterMap Turn.value

def Views (s : State A) : Prop :=
  ∀ (i : Nat) (t : Task A), s.tasks[i]? = some t → ∃ ts p rest, Seen s i t ts p rest

/-- The channels that were there have the values they had. -/
def SameValues (chans chans' : List (Chan A)) : Prop :=
  ∀ (c : Nat) (ch ch' : Chan A), chans[c]? = some ch → chans'[c]? = some ch' →
    ch'.resolved.reduceOption = ch.resolved.reduceOption

theorem SameValues.refl (chans : List (Chan A)) : SameValues chans chans := by
  intro c ch ch' h h'
  rw [h] at h'
  cases h'
  rfl

theorem sameValues_append (chans : List (Chan A)) (new : Chan A) :
    SameValues chans (chans ++ [new]) := by
  intro c ch ch' h h'
  obtain ⟨hlt, -⟩ := List.getElem?_eq_some_iff.mp h
  rw [List.getElem?_append_left hlt, h] at h'
  cases h'
  rfl

theorem sameValues_close (chans : List (Chan A)) (d : Nat) :
    SameValues chans (resolve chans d none) := by
  intro c ch ch' h h'
  by_cases hc : c = d
  · subst hc
    rw [resolve_self, h] at h'
    cases h'
    simp [List.reduceOption]
  · rw [resolve_other chans none hc, h] at h'
    cases h'
    rfl

theorem sameValues_closeAll (chans : List (Chan A)) (cs : List Nat) :
    SameValues chans (closeAll chans cs) := by
  induction cs generalizing chans with
  | nil => exact .refl chans
  | cons d rest ih =>
    intro c ch ch' h h'
    obtain ⟨ch₁, h₁, -⟩ := keeps_resolve chans d none c ch h
    exact (ih _ c ch₁ ch' h₁ h').trans (sameValues_close chans d c ch ch₁ h h₁)

/-- What a client has seen stays while its answers, messages and channels do. -/
theorem Seen.frame {s s' : State A} {i : Nat} {t : Task A} {ts : List (Turn A)} {p : A.Prog}
    {rest : List (Turn A)} (h : Seen s i t ts p rest) (hrec : Recorded s)
    (ht : s.tasks[i]? = some t) (hl : s'.log = s.log) (hf : inFlight s' i ≤ inFlight s i)
    (hv : SameValues s.chans s'.chans) : Seen s' i t ts p rest where
  ran := h.ran
  program := h.program
  turns := by rw [hl, h.turns]
  unread := Nat.le_trans (Nat.add_le_add_left hf _) h.unread
  channel := by
    intro r c k ch' hw hch'
    obtain ⟨ch, hch, -⟩ := hrec.asked i t r c ht (by rw [hw]; rfl)
    rw [hv c ch ch' hch hch']
    exact h.channel r c k ch hw hch

/-- A client that is not waiting has read everything. -/
theorem Seen.read {s : State A} {i : Nat} {t : Task A} {ts : List (Turn A)} {p : A.Prog}
    {rest : List (Turn A)} (h : Seen s i t ts p rest) (ht : t.state.unread = 0) :
    rest = [] ∧ inFlight s i = 0 := by
  have hle := h.unread
  rw [ht] at hle
  exact ⟨List.length_eq_zero_iff.mp (by omega), by omega⟩

/-- The other clients see nothing of a step that handles nothing. -/
theorem Views.others {s s' : State A} (h : Views s) (hrec : Recorded s) {i j : Nat} {o : A.Origin}
    {st : TaskState A} (hs : s'.tasks = s.tasks.set i ⟨o, st⟩) (hl : s'.log = s.log)
    (hf : ∀ j, j ≠ i → inFlight s' j ≤ inFlight s j) (hv : SameValues s.chans s'.chans)
    {t : Task A} (ht : s'.tasks[j]? = some t) (hj : j ≠ i) :
    ∃ ts p rest, Seen s' j t ts p rest := by
  rw [hs, List.getElem?_set_ne (Ne.symm hj)] at ht
  obtain ⟨ts, p, rest, hseen⟩ := h j t ht
  exact ⟨ts, p, rest, hseen.frame hrec ht hl (hf j hj) hv⟩

/-- A step of client `i`: the others see nothing of it. -/
theorem Views.setTask {s s' : State A} (h : Views s) (hrec : Recorded s) {i : Nat} {o : A.Origin}
    {st : TaskState A} (hs : s'.tasks = s.tasks.set i ⟨o, st⟩) (hl : s'.log = s.log)
    (hf : ∀ j, j ≠ i → inFlight s' j ≤ inFlight s j) (hv : SameValues s.chans s'.chans)
    (hi : ∃ ts p rest, Seen s' i ⟨o, st⟩ ts p rest) : Views s' := by
  intro j t ht
  by_cases hj : j = i
  · subst hj
    obtain ⟨-, rfl⟩ | hold := getElem?_set_cases (hs ▸ ht)
    · exact hi
    · rw [hs, List.getElem?_set] at ht
      obtain ⟨hlt, -⟩ := List.getElem?_eq_some_iff.mp hold
      simp only [if_true, hlt, Option.some.injEq] at ht
      subst ht
      exact hi
  · exact h.others hrec hs hl hf hv ht hj

/-- Without a change of the tasks. -/
theorem Views.frame {s s' : State A} (h : Views s) (hrec : Recorded s) (hs : s'.tasks = s.tasks)
    (hl : s'.log = s.log) (hf : ∀ j, inFlight s' j ≤ inFlight s j)
    (hv : SameValues s.chans s'.chans) : Views s' := by
  intro j t ht
  rw [hs] at ht
  obtain ⟨ts, p, rest, hseen⟩ := h j t ht
  exact ⟨ts, p, rest, hseen.frame hrec ht hl (hf j) hv⟩

theorem inFlight_le {s s' : State A} (ms : List (Msg A)) {j : Nat}
    (h : (s'.queue ++ s'.phase.message).Perm (s.queue ++ s.phase.message ++ ms))
    (hms : ∀ m ∈ ms, m.isOf j = false) : inFlight s' j ≤ inFlight s j := by
  have hzero : ms.countP (Msg.isOf j) = 0 := by
    rw [List.countP_eq_zero]
    intro m hm
    simp [hms m hm]
  rw [inFlight, inFlight, h.countP_eq, List.countP_append, hzero]
  exact Nat.le_refl _

theorem logged_task {s : State A} (hrec : Recorded s) {e : A.World × Msg A} (he : e ∈ s.log)
    {k : Ticket A} (hk : e.2.ticket = some k) : k.task < s.tasks.length := by
  have hm : e.2 ∈ s.messages := List.mem_append_right _ (List.mem_map.mpr ⟨e, he, rfl⟩)
  obtain ⟨-, t, ht, -⟩ := hrec.ticket e.2 hm k hk
  exact (List.getElem?_eq_some_iff.mp ht).1

theorem isOf_eq_false {m : Msg A} {i : Nat} (h : ∀ k, m.ticket = some k → k.task ≠ i) :
    m.isOf i = false := by
  cases hk : m.ticket with
  | none => simp [Msg.isOf, hk]
  | some k => simpa [Msg.isOf, hk] using h k hk

/-- A client that has just arrived has seen nothing. -/
theorem seen_begin {s s' : State A} (hrec : Recorded s) {o : A.Origin} (hl : s'.log = s.log)
    (hm : s'.queue ++ s'.phase.message = s.queue ++ s.phase.message) :
    Seen s' s.tasks.length ⟨o, .running (A.launch o)⟩ [] (A.launch o) [] where
  ran := .nil
  program := by
    intro q hq
    cases hq
    rfl
  turns := by
    rw [hl]
    refine turns_of_none _ fun e he => isOf_eq_false fun k hk => ?_
    exact Nat.ne_of_lt (logged_task hrec he hk)
  unread := by
    have hzero : inFlight s' s.tasks.length = 0 := by
      apply inFlight_eq_zero
      intro m hmem k hk
      rw [hm] at hmem
      obtain ⟨-, t, ht, -⟩ := hrec.ticket m (List.mem_append_left _ hmem) k hk
      exact Nat.ne_of_lt (List.getElem?_eq_some_iff.mp ht).1
    simp [hzero, TaskState.unread]
  channel := nofun

/-- A client that was not waiting goes on without waiting. -/
theorem Seen.move {s s' : State A} {i : Nat} {o : A.Origin} {st st' : TaskState A}
    {ts : List (Turn A)} {p p' : A.Prog} {rest : List (Turn A)}
    (h : Seen s i ⟨o, st⟩ ts p rest) (hread : st.unread = 0) (hl : s'.log = s.log)
    (hf : inFlight s' i ≤ inFlight s i) (hran : Ran (A.launch o) ts p')
    (hprog : st'.program = some p') (hst : st'.unread = 0) :
    Seen s' i ⟨o, st'⟩ ts p' [] where
  ran := hran
  program := by
    intro q hq
    rw [hprog] at hq
    exact (Option.some.inj hq).symm
  turns := by rw [hl, h.turns, (h.read hread).1]
  unread := by
    rw [(h.read hread).2] at hf
    rw [Nat.le_zero.mp hf]
    exact Nat.zero_le _
  channel := by
    intro r c k ch hw
    change st' = _ at hw
    rw [hw] at hst
    cases hst

/-- A client that has sent, or found the queue closed, waits. -/
theorem Seen.wait {s s' : State A} {i : Nat} {o : A.Origin} {r : A.Req} {c : Nat}
    {k : Option (A.Ans r) → A.Prog} {ts : List (Turn A)} {p : A.Prog}
    {rest : List (Turn A)} (h : Seen s i ⟨o, .sending r c k⟩ ts p rest)
    (hl : s'.log = s.log) (hf : inFlight s' i ≤ inFlight s i + 1)
    (hch : ∀ ch, s'.chans[c]? = some ch → ch.resolved.reduceOption = []) :
    Seen s' i ⟨o, .waiting r c k⟩ ts p [] where
  ran := h.ran
  program q hq := h.program q hq
  turns := by rw [hl, h.turns, (h.read rfl).1]
  unread := by
    rw [(h.read rfl).2] at hf
    simpa [TaskState.unread] using hf
  channel := by
    intro r' c' k' ch hw hc
    cases hw
    exact ⟨by simp, hch ch hc⟩

/-- A client reads its answer. -/
theorem Seen.deliver {s s' : State A} (hcons : Conserved s) {i : Nat} {o : A.Origin} {r : A.Req}
    {c : Nat} {k : Option (A.Ans r) → A.Prog} {ts : List (Turn A)} {p : A.Prog}
    {rest : List (Turn A)} (h : Seen s i ⟨o, .waiting r c k⟩ ts p rest) {ch : Chan A}
    (hc : s.chans[c]? = some ch) {x : Option (A.Ans r)}
    (hx : ch.resolved.head? = some (x.map (Sigma.mk r))) (hl : s'.log = s.log)
    (hf : inFlight s' i = 0) :
    Seen s' i ⟨o, .running (k x)⟩ (ts ++ rest) (k x) [] where
  ran := by
    obtain rfl : Program.ask r k = p := h.program _ rfl
    obtain ⟨hreq, hval⟩ := h.channel r c k ch rfl hc
    obtain ⟨-, hopen⟩ | ⟨-, y, hy⟩ := hcons.held_or_resolved hc
    · simp [hopen] at hx
    · rw [hy] at hx hval
      cases hx
      have hlen := Nat.le_trans (Nat.le_add_right _ _) h.unread
      match rest, hreq, hval, hlen with
      | [], _, hval, _ =>
        rw [List.append_nil]
        cases x with
        | none => exact .lost h.ran
        | some a => cases hval
      | [⟨r', x'⟩], hreq, hval, _ =>
        have hr : r' = r := hreq ⟨r', x'⟩ (by simp)
        subst hr
        obtain rfl := turn_value_inj hval
        exact .got x' h.ran
  program := by
    intro q hq
    cases hq
    rfl
  turns := by rw [hl, h.turns, List.append_nil]
  unread := by simp [hf, TaskState.unread]
  channel := nofun

/-- The channel that a client waits on is not another client's. -/
theorem other_chan {s : State A} (hrec : Recorded s) {i : Nat} {t : Task A} {r : A.Req} {c : Nat}
    (ht : s.tasks[i]? = some t) (ha : t.state.asking = some (r, c)) {m : Msg A}
    (hm : m ∈ s.messages) (hi : m.isOf i = false) : c ∉ m.chans := by
  obtain ⟨r', ticket⟩ := m
  cases ticket with
  | none => simp [Msg.chans]
  | some k =>
    intro hc
    simp only [Msg.chans, Option.map_some, Option.toList_some, List.mem_singleton] at hc
    obtain ⟨-, rfl⟩ := hrec.ticket_eq ht ha hm hc.symm
    simp [Msg.isOf] at hi

/-- The server has handled `m`, and its answer is on the channel. -/
theorem Seen.handle {s s' : State A} (hcons : Conserved s) (hrec : Recorded s) (hatt : Attached s)
    (hsv : s.server = A.after s.log) {i : Nat} {t : Task A} (ht : s.tasks[i]? = some t)
    {ts : List (Turn A)} {p : A.Prog} {rest : List (Turn A)} (h : Seen s i t ts p rest)
    {m : Msg A} {w : A.World} (hp : s.phase = .handling m)
    (hch : s'.chans = reply s.chans m (A.handle s.server w m.request).1)
    (hl : s'.log = s.log ++ [(w, m)]) (hq : s'.queue = s.queue) (hp' : s'.phase.message = []) :
    Seen s' i t ts p (rest ++ m.turn i (A.handle s.server w m.request).1) := by
  have hmem : m ∈ s.queue ++ s.phase.message := by simp [hp]
  have hfly : inFlight s i = inFlight s' i + if m.isOf i then 1 else 0 := by
    simp [inFlight, hq, hp', hp, List.countP_append, List.countP_singleton]
  have hturns : Actor.turns i A.start s'.log =
      ts ++ (rest ++ m.turn i (A.handle s.server w m.request).1) := by
    rw [hl, turns_snoc, h.turns, ← hsv, List.append_assoc]
  have hunread := h.unread
  cases hof : m.isOf i with
  | false =>
    rw [hof] at hfly
    refine ⟨h.ran, h.program, hturns, ?_, ?_⟩
    · simp only [Msg.turn, hof, Bool.false_eq_true, if_false, List.append_nil] at hfly ⊢
      omega
    · intro r c k ch hw hc
      have hnot := other_chan hrec ht (by rw [hw]; rfl) (List.mem_append_left _ hmem) hof
      rw [hch, reply_other _ _ _ hnot] at hc
      simpa [Msg.turn, hof] using h.channel r c k ch hw hc
  | true =>
    rw [hof, if_pos rfl] at hfly
    obtain ⟨req, ticket⟩ := m
    cases ticket with
    | none => simp [Msg.isOf] at hof
    | some k =>
      have hki : k.task = i := by simpa [Msg.isOf] using hof
      subst hki
      obtain ⟨t', ht', hcase⟩ := hatt _ hmem k rfl
      rw [ht] at ht'
      cases ht'
      have hone : t.state.unread = 1 := by
        obtain hcan | ⟨f, hf⟩ := hcase
        · rw [hcan]
          rfl
        · rw [hf]
          rfl
      have hnil : rest = [] := List.length_eq_zero_iff.mp (by omega)
      subst hnil
      refine ⟨h.ran, h.program, hturns, ?_, ?_⟩
      · simp only [Msg.turn, hof, if_true, List.nil_append, List.length_singleton]
        omega
      · intro r c g ch hw hc
        obtain hcan | ⟨f, hf⟩ := hcase
        · rw [hcan] at hw
          cases hw
        · rw [hf] at hw
          cases hw
          have hheld := chan_held hmem (k := k) rfl
          have hlt := hcons.lt hheld
          have hopen := hcons.open_of_held (List.getElem?_eq_getElem hlt) hheld
          simp only [hch, reply, resolve_self, List.getElem?_eq_getElem hlt, Option.map_some,
            Option.some.injEq] at hc
          subst hc
          rw [hopen]
          simp only [Msg.turn, hof, if_true, List.nil_append]
          refine ⟨fun u hu => by rw [List.mem_singleton.mp hu], ?_⟩
          cases (A.handle s.server w req).1 <;> rfl

theorem inFlight_sub {s s' : State A}
    (h : (s'.queue ++ s'.phase.message).Sublist (s.queue ++ s.phase.message)) (j : Nat) :
    inFlight s' j ≤ inFlight s j := h.countP_le

theorem Step.views {s s' : State A} (hr : Reachable s) (hs : Step s s') (h : Views s) :
    Views s' := by
  have hcons := Actor.conserved hr
  have hrec := Actor.recorded hr
  have hatt := Actor.attached hr
  cases hs with
  | begin o ho _ =>
    intro j t ht
    obtain ⟨rfl, rfl⟩ | hold := getElem?_snoc_cases ht
    · exact ⟨_, _, _, seen_begin hrec rfl rfl⟩
    · obtain ⟨ts, p, rest, hseen⟩ := h j t hold
      exact ⟨ts, p, rest, hseen.frame hrec hold rfl (Nat.le_refl _) (.refl _)⟩
  | @clock i o k now ht =>
    refine h.setTask hrec rfl rfl (fun j _ => Nat.le_refl _) (.refl _) ?_
    obtain ⟨ts, p, rest, hseen⟩ := h i _ ht
    have hp := hseen.program _ rfl
    subst hp
    refine ⟨ts, k now, [], ?_⟩
    exact hseen.move rfl rfl (Nat.le_refl _) (.clock now hseen.ran) rfl rfl
  | @ask i o r k ht =>
    refine h.setTask hrec rfl rfl (fun j _ => Nat.le_refl _) (sameValues_append _ _) ?_
    obtain ⟨ts, p, rest, hseen⟩ := h i _ ht
    have hp := hseen.program _ rfl
    subst hp
    exact ⟨ts, .ask r k, [], hseen.move rfl rfl (Nat.le_refl _) hseen.ran rfl rfl⟩
  | @enqueue i o r c k ht hq hp =>
    have hfly : ∀ j, inFlight { s.setTask i o (.waiting r c k) with
        queue := s.queue ++ [⟨r, some ⟨i, o, c⟩⟩] } j = inFlight s j + if j = i then 1 else 0 := by
      intro j
      simp only [inFlight, State.setTask, List.countP_append, List.countP_singleton, Msg.isOf,
        Option.any_some, beq_iff_eq, eq_comm (a := i)]
      omega
    refine h.setTask hrec rfl rfl (fun j hj => ?_) (.refl _) ?_
    · rw [hfly j, if_neg hj]
      exact Nat.le_refl _
    · obtain ⟨ts, p, rest, hseen⟩ := h i _ ht
      refine ⟨ts, p, [], hseen.wait rfl ?_ ?_⟩
      · exact Nat.le_of_eq (by rw [hfly i, if_pos rfl])
      · intro ch hch
        have hheld : c ∈ held s := List.mem_append_left _
          (List.mem_flatMap.mpr ⟨_, List.mem_of_getElem? ht, by simp⟩)
        rw [hcons.open_of_held hch hheld]
        rfl
  | @bounce i o r c k ht hp =>
    refine h.setTask hrec rfl rfl (fun j _ => Nat.le_refl _) (sameValues_closeAll _ _) ?_
    obtain ⟨ts, p, rest, hseen⟩ := h i _ ht
    refine ⟨ts, p, [], hseen.wait rfl (Nat.le_succ _) ?_⟩
    intro ch hch
    have hheld : c ∈ held s := List.mem_append_left _
      (List.mem_flatMap.mpr ⟨_, List.mem_of_getElem? ht, by simp⟩)
    have hlt := hcons.lt hheld
    have hget := List.getElem?_eq_getElem hlt
    rw [sameValues_closeAll s.chans [c] c _ ch hget hch, hcons.open_of_held hget hheld]
    rfl
  | @deliver i o r c k ch x ht hc hx =>
    refine h.setTask hrec rfl rfl (fun j _ => Nat.le_refl _) (.refl _) ?_
    obtain ⟨ts, p, rest, hseen⟩ := h i _ ht
    have hres : ch.resolved ≠ [] := by
      rintro hnil
      simp [hnil] at hx
    have hzero := inFlight_eq_zero (hatt.not_of_resolved hcons ht hc hres)
    exact ⟨_, _, _, hseen.deliver hcons hc hx rfl hzero⟩
  | @cancel i t ht =>
    refine h.setTask hrec rfl rfl (fun j _ => Nat.le_refl _) (sameValues_closeAll _ _) ?_
    obtain ⟨ts, p, rest, hseen⟩ := h i t ht
    have hle : t.state.unread ≤ 1 := by cases t.state <;> simp [TaskState.unread]
    refine ⟨ts, p, rest, hseen.ran, ?_, hseen.turns, Nat.le_trans hseen.unread hle, ?_⟩
    · intro _ hrun
      cases hrun
    · intro _ _ _ _ hwait
      cases hwait
  | post r hr' hq hp hc =>
    refine h.frame hrec rfl rfl (fun j => ?_) (.refl _)
    apply inFlight_le [⟨r, none⟩]
    · simp only [List.append_assoc]
      exact List.Perm.append_left _ List.perm_append_comm
    · simp [Msg.isOf]
  | close => exact h.frame hrec rfl rfl (fun j => Nat.le_refl _) (.refl _)
  | @recv m q hp hq =>
    refine h.frame hrec rfl rfl (fun j => ?_) (.refl _)
    apply inFlight_le []
    · simp only [hp, hq, message_idle, message_handling, List.append_nil]
      exact List.perm_append_comm
    · simp
  | @handle m w hp =>
    intro j t ht
    obtain ⟨ts, p, rest, hseen⟩ := h j t ht
    have hlive : ¬ s.phase.ended := by simp [hp, Phase.ended]
    exact ⟨ts, p, _, hseen.handle hcons hrec hatt (server_eq_after hr hlive) ht hp rfl rfl rfl
      (message_next _)⟩
  | @crash m hp =>
    refine h.frame hrec rfl rfl (fun j => ?_) (sameValues_closeAll _ _)
    apply inFlight_sub
    rw [hp, message_stopping, List.append_nil]
    exact List.sublist_append_left _ _
  | hangup hp hq hc ht =>
    refine h.frame hrec rfl rfl (fun j => ?_) (.refl _)
    apply inFlight_sub
    simp [hp]
  | shutdown hp =>
    refine h.frame hrec rfl rfl (fun j => ?_) (sameValues_closeAll _ _)
    apply inFlight_sub
    simp

/-- Every client has seen its program run against the answers the log gives it. -/
theorem views {s : State A} (h : Reachable s) : Views s := by
  induction h with
  | refl =>
    intro i t ht
    simp [System.init] at ht
  | tail hr hs ih => exact hs.views hr ih

/-- A client that is not waiting has had all its turns. -/
theorem ran_turns {s : State A} (h : Reachable s) {i : Nat} {o : A.Origin} {p : A.Prog}
    (ht : s.tasks[i]? = some ⟨o, .running p⟩) :
    Ran (A.launch o) (turns i A.start s.log) p := by
  obtain ⟨ts, q, rest, hseen⟩ := views h i _ ht
  obtain rfl : p = q := hseen.program p rfl
  rw [hseen.turns, (hseen.read rfl).1, List.append_nil]
  exact hseen.ran

/-! ## Real time -/

/-- The log only grows. -/
theorem Steps.log_prefix {s s' : State A} (hs : Steps s s') : s.log <+: s'.log := by
  induction hs with
  | refl => exact List.prefix_refl _
  | tail _ hstep ih =>
    obtain hl | ⟨w, m, -, hl⟩ := hstep.log
    · rw [hl]
      exact ih
    · rw [hl]
      exact ih.trans (List.prefix_append _ _)

theorem Steps.log_cases {s s' : State A} (hs : Steps s s') {n : Nat} {e : A.World × Msg A}
    (hn : s'.log[n]? = some e) : s.log[n]? = some e ∨ s.log.length ≤ n := by
  rcases Nat.lt_or_ge n s.log.length with hlt | hge
  · obtain ⟨rest, hrest⟩ := hs.log_prefix
    rw [← hrest, List.getElem?_append_left hlt] at hn
    exact .inl hn
  · exact .inr hge

/-- A request made after a state is handled after everything handled by then. -/
theorem logged_after {s s' : State A} (h : Reachable s) (hs : Steps s s') {n : Nat} {w : A.World}
    {r : A.Req} {k : Ticket A} (hn : s'.log[n]? = some (w, ⟨r, some k⟩))
    (hk : s.chans.length ≤ k.chan) : s.log.length ≤ n := by
  obtain hold | hge := Steps.log_cases hs hn
  · obtain ⟨⟨ch, hch, -⟩, -⟩ := (recorded h).ticket _ (logged_mem hold) k rfl
    obtain ⟨hlt, -⟩ := List.getElem?_eq_some_iff.mp hch
    omega
  · exact hge

theorem Steps.resolved_stays {s s' : State A} (h : Reachable s) (hs : Steps s s') {c : Nat}
    {ch : Chan A} (hc : s.chans[c]? = some ch) (hr : ch.resolved ≠ []) :
    s'.chans[c]? = some ch := by
  induction hs with
  | refl => exact hc
  | tail hb hstep ih => exact hstep.resolved_stays (h.trans hb) ih hr

/-- A request whose channel is resolved is handled no more. -/
theorem logged_before {s s' : State A} (h : Reachable s) (hs : Steps s s') {n : Nat} {w : A.World}
    {r : A.Req} {k : Ticket A} (hn : s'.log[n]? = some (w, ⟨r, some k⟩)) {ch : Chan A}
    (hk : s.chans[k.chan]? = some ch) (hres : ch.resolved ≠ []) : n < s.log.length := by
  induction hs with
  | refl => exact (List.getElem?_eq_some_iff.mp hn).1
  | @tail b c hb hstep ih =>
    obtain hl | ⟨w₀, m, hp, hl⟩ := hstep.log
    · exact ih (hl ▸ hn)
    · rw [hl] at hn
      obtain ⟨rfl, he⟩ | hn := getElem?_snoc_cases hn
      · cases he
        have hheld := chan_held (s := b) (m := ⟨r, some k⟩) (by simp [hp]) rfl
        have hstay := Steps.resolved_stays h hb hk hres
        exact absurd hheld ((conserved (h.trans hb)).not_held hstay hres)
      · exact ih hn

end Actor

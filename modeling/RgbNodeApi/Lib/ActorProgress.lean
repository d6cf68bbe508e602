import RgbNodeApi.Lib.ActorOrder
import Mathlib.Logic.Hydra

/-!
# Left alone, the system settles

The steps that need nothing from outside: no client arrives or is cancelled,
nothing is posted, nothing crashes. They cannot go on forever, and where none of
them is possible all clients have finished and the server waits for the next
request or has exited.
-/
namespace Actor

variable {A : System}

/-- A step of the clients that are there, and of the server. -/
inductive Forward : State A → State A → Prop
  | clock {s i o k} (now : A.Time) (h : s.tasks[i]? = some ⟨o, .running (.clock k)⟩) :
      Forward s (s.setTask i o (.running (k now)))
  | ask {s i o r k} (h : s.tasks[i]? = some ⟨o, .running (.ask r k)⟩) :
      Forward s { s.setTask i o (.sending r s.chans.length k) with
        chans := s.chans ++ [⟨r, i, []⟩] }
  | enqueue {s i o r c k} (h : s.tasks[i]? = some ⟨o, .sending r c k⟩)
      (hq : s.queue.length < A.capacity) (hp : s.phase ≠ .exited) :
      Forward s { s.setTask i o (.waiting r c k) with queue := s.queue ++ [⟨r, some ⟨i, o, c⟩⟩] }
  | bounce {s i o r c k} (h : s.tasks[i]? = some ⟨o, .sending r c k⟩) (hp : s.phase = .exited) :
      Forward s { s.setTask i o (.waiting r c k) with chans := closeAll s.chans [c] }
  | deliver {s i o r c k ch} (x : Option (A.Ans r)) (h : s.tasks[i]? = some ⟨o, .waiting r c k⟩)
      (hc : s.chans[c]? = some ch) (hx : ch.resolved.head? = some (x.map (Sigma.mk r))) :
      Forward s (s.setTask i o (.running (k x)))
  | recv {s m q} (hp : s.phase = .idle) (hq : s.queue = m :: q) :
      Forward s { s with phase := .handling m, queue := q }
  | handle {s m} (w : A.World) (hp : s.phase = .handling m) :
      Forward s { s with
        server := (A.handle s.server w m.request).2
        chans := reply s.chans m (A.handle s.server w m.request).1
        log := s.log ++ [(w, m)]
        phase := if A.running (A.handle s.server w m.request).2 then .idle else .stopping }
  | hangup {s} (hp : s.phase = .idle) (hq : s.queue = []) (hc : s.closed = true)
      (ht : ∀ t ∈ s.tasks, t.finished) :
      Forward s { s with server := A.leftover s.server, phase := .stopping }
  | shutdown {s} (hp : s.phase = .stopping) :
      Forward s { s with
        chans := closeAll s.chans (s.queue.flatMap Msg.chans), queue := [], phase := .exited }

theorem Forward.step {s s' : State A} (h : Forward s s') : Step s s' := by
  cases h with
  | clock now ht => exact .clock now ht
  | ask ht => exact .ask ht
  | enqueue ht hq hp => exact .enqueue ht hq hp
  | bounce ht hp => exact .bounce ht hp
  | deliver x ht hc hx => exact .deliver x ht hc hx
  | recv hp hq => exact .recv hp hq
  | handle w hp => exact .handle w hp
  | hangup hp hq hc ht => exact .hangup hp hq hc ht
  | shutdown hp => exact .shutdown hp

abbrev ForwardRun (s s' : State A) : Prop := Relation.ReflTransGen Forward s s'

theorem ForwardRun.steps {s s' : State A} (h : ForwardRun s s') : Steps s s' :=
  Relation.ReflTransGen.mono (fun _ _ (hf : Forward _ _) => hf.step) _ _ h

/-- Nobody is cancelled meanwhile. -/
theorem Forward.cancelled {s s' : State A} (h : Forward s s') {i : Nat} {t' : Task A}
    (ht' : s'.tasks[i]? = some t') (hc : t'.state = .cancelled) : s.tasks[i]? = some t' := by
  have hset : ∀ {j : Nat} {o : A.Origin} {st : TaskState A}, st ≠ .cancelled →
      (s.tasks.set j ⟨o, st⟩)[i]? = some t' → s.tasks[i]? = some t' := by
    intro j o st hst hset
    obtain ⟨-, rfl⟩ | hold := getElem?_set_cases hset
    · exact absurd hc hst
    · exact hold
  cases h with
  | clock now _ => exact hset (by simp) ht'
  | ask _ => exact hset (by simp) ht'
  | enqueue _ _ _ => exact hset (by simp) ht'
  | bounce _ _ => exact hset (by simp) ht'
  | deliver x _ _ _ => exact hset (by simp) ht'
  | _ => exact ht'

theorem ForwardRun.cancelled {s s' : State A} (h : ForwardRun s s') {i : Nat} {t' : Task A}
    (ht' : s'.tasks[i]? = some t') (hc : t'.state = .cancelled) : s.tasks[i]? = some t' := by
  induction h with
  | refl => exact ht'
  | tail _ hf ih => exact ih (hf.cancelled ht' hc)

theorem Forward.closed {s s' : State A} (h : Forward s s') : s'.closed = s.closed := by
  cases h <;> rfl

theorem finished_cases {s : State A} (hfin : ∀ t ∈ s.tasks, t.finished) {i : Nat} {o : A.Origin}
    {st : TaskState A} (ht : s.tasks[i]? = some ⟨o, st⟩) :
    (∃ b, st = .running (.ret b)) ∨ st = .cancelled :=
  hfin _ (List.mem_of_getElem? ht)

/-- Once all clients have finished only the server moves. -/
theorem Forward.of_finished {s s' : State A} (h : Forward s s')
    (hfin : ∀ t ∈ s.tasks, t.finished) : s'.tasks = s.tasks := by
  cases h with
  | clock now ht => obtain ⟨b, hb⟩ | hc := finished_cases hfin ht <;> simp_all
  | ask ht => obtain ⟨b, hb⟩ | hc := finished_cases hfin ht <;> simp_all
  | enqueue ht _ _ => obtain ⟨b, hb⟩ | hc := finished_cases hfin ht <;> simp_all
  | bounce ht _ => obtain ⟨b, hb⟩ | hc := finished_cases hfin ht <;> simp_all
  | deliver x ht _ _ => obtain ⟨b, hb⟩ | hc := finished_cases hfin ht <;> simp_all
  | _ => rfl

theorem Forward.queue_of_finished {s s' : State A} (h : Forward s s')
    (hfin : ∀ t ∈ s.tasks, t.finished) (hq : s.queue = []) : s'.queue = [] := by
  cases h with
  | enqueue ht _ _ => obtain ⟨b, hb⟩ | hc := finished_cases hfin ht <;> simp_all
  | recv _ hq' => simp [hq] at hq'
  | shutdown _ => rfl
  | _ => exact hq

/-- The server ends when a request stops it, or with an empty queue after the
last client. -/
theorem Forward.ends {s s' : State A} (h : Forward s s') (hp : s'.phase.ended) :
    s.phase.ended ∨ (∃ w m, s.phase = .handling m ∧ s'.log = s.log ++ [(w, m)] ∧
        A.running (A.handle s.server w m.request).2 = false) ∨
      (s.closed = true ∧ s'.queue = []) := by
  cases h with
  | recv => cases hp
  | @handle m w hm =>
    refine .inr (.inl ⟨w, m, hm, rfl, ?_⟩)
    simp only at hp
    split at hp
    · cases hp
    · rename_i hstop
      exact Bool.eq_false_iff.mpr hstop
  | hangup _ hq hc _ => exact .inr (.inr ⟨hc, hq⟩)
  | shutdown hm =>
    rw [hm]
    exact .inl trivial
  | _ => exact .inl hp

/-- Only what is left in the queue at the end is lost. -/
theorem Forward.arrivals {s s' : State A} (h : Forward s s')
    (hq : s.phase = .stopping → s.queue = []) : s.arrivals <+: s'.arrivals := by
  cases h with
  | enqueue =>
    simp only [State.arrivals, State.setTask, ← List.append_assoc]
    exact List.prefix_append _ _
  | recv hp hq => simp [State.arrivals, hp, hq]
  | handle w hp => simp [State.arrivals, hp, message_next]
  | hangup hp => simp [State.arrivals, hp]
  | shutdown hp => simp [State.arrivals, hp, hq hp]
  | _ => exact List.prefix_refl _

/-- Clients send with tickets. -/
theorem Forward.posted {s s' : State A} (h : Forward s s') :
    s'.arrivals.countP (fun m => m.ticket.isNone) ≤
      s.arrivals.countP fun m => m.ticket.isNone := by
  cases h with
  | enqueue => simp [State.arrivals, State.setTask]
  | recv hp hq => simp [State.arrivals, hp, hq]
  | handle w hp => simp [State.arrivals, hp, message_next]
  | hangup hp => simp [State.arrivals, hp]
  | shutdown hp => simp [State.arrivals, hp]
  | _ => exact Nat.le_refl _

/-- Clients stay who they are, and none arrives. -/
theorem Forward.origins {s s' : State A} (h : Forward s s') :
    s'.tasks.map (·.origin) = s.tasks.map (·.origin) := by
  have hset : ∀ {i : Nat} {o : A.Origin} {st st' : TaskState A}, s.tasks[i]? = some ⟨o, st⟩ →
      (s.tasks.set i ⟨o, st'⟩).map (·.origin) = s.tasks.map (·.origin) := by
    intro i o st st' ht
    obtain ⟨hlt, he⟩ := List.getElem?_eq_some_iff.mp ht
    have hlt' : i < (s.tasks.map (·.origin)).length := by simpa using hlt
    have hsame : (s.tasks.map (·.origin))[i] = o := by rw [List.getElem_map, he]
    rw [List.map_set, ← hsame, List.set_getElem_self]
  cases h with
  | clock now ht => exact hset ht
  | ask ht => exact hset ht
  | enqueue ht _ _ => exact hset ht
  | bounce ht _ => exact hset ht
  | deliver x ht _ _ => exact hset ht
  | _ => rfl

/-! ## No run without end -/

/-- A client gets on with its program. -/
inductive Advance : TaskState A → TaskState A → Prop
  | clock (k : A.Time → A.Prog) (now : A.Time) :
      Advance (.running (k now)) (.running (.clock k))
  | ask (r : A.Req) (c : Nat) (k : Option (A.Ans r) → A.Prog) :
      Advance (.sending r c k) (.running (.ask r k))
  | send (r : A.Req) (c : Nat) (k : Option (A.Ans r) → A.Prog) :
      Advance (.waiting r c k) (.sending r c k)
  | deliver (r : A.Req) (c : Nat) (k : Option (A.Ans r) → A.Prog) (x : Option (A.Ans r)) :
      Advance (.running (k x)) (.waiting r c k)

theorem acc_waiting {r : A.Req} {k : Option (A.Ans r) → A.Prog}
    (h : ∀ x, Acc Advance (TaskState.running (k x))) (c : Nat) :
    Acc Advance (TaskState.waiting r c k) := by
  constructor
  rintro _ ⟨⟩
  exact h _

theorem acc_sending {r : A.Req} {k : Option (A.Ans r) → A.Prog}
    (h : ∀ x, Acc Advance (TaskState.running (k x))) (c : Nat) :
    Acc Advance (TaskState.sending r c k) := by
  constructor
  rintro _ ⟨⟩
  exact acc_waiting h c

theorem acc_running (p : A.Prog) : Acc Advance (TaskState.running p) := by
  induction p with
  | ret b =>
    constructor
    rintro _ ⟨⟩
  | clock k ih =>
    constructor
    rintro _ ⟨⟩
    exact ih _
  | ask r k ih =>
    constructor
    rintro _ ⟨⟩
    exact acc_sending ih _

theorem advance_wf : WellFounded (Advance : TaskState A → TaskState A → Prop) := by
  constructor
  intro st
  cases st with
  | running p => exact acc_running p
  | sending r c k => exact acc_sending (fun x => acc_running (k x)) c
  | waiting r c k => exact acc_waiting (fun x => acc_running (k x)) c
  | cancelled =>
    constructor
    rintro _ ⟨⟩

/-- What the clients have still to do, regardless of who is who. -/
def State.work (s : State A) : Multiset (TaskState A) := ↑(s.tasks.map (·.state))

theorem cutExpand_set {α : Type} {r : α → α → Prop} {l : List α} {i : Nat} {a b : α}
    (h : l[i]? = some a) (hr : r b a) :
    Relation.CutExpand r (↑(l.set i b) : Multiset α) ↑l := by
  refine ⟨{b}, a, fun x hx => (Multiset.mem_singleton.mp hx) ▸ hr, ?_⟩
  induction l generalizing i with
  | nil => simp at h
  | cons x l ih =>
    cases i with
    | zero =>
      simp only [List.getElem?_cons_zero, Option.some.injEq] at h
      subst h
      rw [List.set_cons_zero, ← Multiset.cons_coe, ← Multiset.cons_coe, Multiset.add_comm,
        Multiset.singleton_add, Multiset.add_comm, Multiset.singleton_add, Multiset.cons_swap]
    | succ i =>
      have hrest := ih (i := i) (by simpa using h)
      rw [List.set_cons_succ, ← Multiset.cons_coe, ← Multiset.cons_coe, Multiset.cons_add, hrest,
        Multiset.cons_add]

/-- What the server has still to do. -/
def Phase.rank : Phase A → Nat
  | .handling _ => 3
  | .idle => 2
  | .stopping => 1
  | .exited => 0

def State.backlog (s : State A) : Nat := 2 * s.queue.length + s.phase.rank

theorem work_setTask {s : State A} {i : Nat} {o : A.Origin} {st st' : TaskState A}
    (h : s.tasks[i]? = some ⟨o, st⟩) (hadv : Advance st' st) :
    Relation.CutExpand Advance (s.setTask i o st').work s.work := by
  have hst : (s.tasks.map (·.state))[i]? = some st := by
    rw [List.getElem?_map, h]
    rfl
  have hmap : (s.tasks.set i ⟨o, st'⟩).map (·.state) = (s.tasks.map (·.state)).set i st' :=
    List.map_set
  rw [State.work, State.work, State.setTask, hmap]
  exact cutExpand_set hst hadv

/-- A step is progress of a client, or else of the server. -/
theorem Forward.decreases {s s' : State A} (h : Forward s s') :
    Prod.Lex (Relation.CutExpand Advance) (· < ·) (s'.work, s'.backlog) (s.work, s.backlog) := by
  cases h with
  | clock now ht => exact .left _ _ (work_setTask ht (.clock _ now))
  | ask ht => exact .left _ _ (work_setTask ht (.ask _ _ _))
  | enqueue ht hq hp => exact .left _ _ (work_setTask ht (.send _ _ _))
  | bounce ht hp => exact .left _ _ (work_setTask ht (.send _ _ _))
  | deliver x ht hc hx => exact .left _ _ (work_setTask ht (.deliver _ _ _ x))
  | recv hp hq =>
    apply Prod.Lex.right
    simp only [State.backlog, hp, hq, Phase.rank, List.length_cons]
    omega
  | handle w hp =>
    apply Prod.Lex.right
    simp only [State.backlog, hp]
    cases A.running (A.handle s.server w _).2 <;> simp [Phase.rank]
  | hangup hp hq hc ht =>
    apply Prod.Lex.right
    simp [State.backlog, hp, Phase.rank]
  | shutdown hp =>
    apply Prod.Lex.right
    simp only [State.backlog, hp, Phase.rank, List.length_nil]
    omega

theorem forward_wf : WellFounded fun s' s : State A => Forward s s' := by
  have hirr : Std.Irrefl (Advance : TaskState A → TaskState A → Prop) := advance_wf.irrefl
  have hlex := WellFounded.prod_lex (WellFounded.cutExpand (advance_wf (A := A))) Nat.lt_wfRel.wf
  exact Subrelation.wf (fun h => Forward.decreases h)
    (InvImage.wf (fun s : State A => (s.work, s.backlog)) hlex)

/-- No run of such steps is infinite. -/
theorem no_endless_run (f : Nat → State A) : ¬ ∀ n, Forward (f n) (f (n + 1)) := by
  intro h
  obtain ⟨_, ⟨n, rfl⟩, hmin⟩ := forward_wf.has_min (Set.range f) ⟨f 0, 0, rfl⟩
  exact hmin (f (n + 1)) ⟨n + 1, rfl⟩ (h n)

/-! ## No deadlock -/

/-- All clients have finished, and the server waits for the next request or has
exited. -/
structure Quiescent (s : State A) : Prop where
  finished : ∀ t ∈ s.tasks, t.finished
  queue : s.queue = []
  server : (s.phase = .idle ∧ s.closed = false) ∨ s.phase = .exited

/-- Nothing moves in a quiescent state. -/
theorem Quiescent.stuck {s : State A} (h : Quiescent s) (s' : State A) : ¬ Forward s s' := by
  intro hf
  have hphase : s.phase.message = [] ∧ s.phase ≠ .stopping := by
    obtain ⟨hp, -⟩ | hp := h.server <;> rw [hp] <;> exact ⟨rfl, by simp⟩
  cases hf with
  | clock now ht => obtain ⟨b, hb⟩ | hc := finished_cases h.finished ht <;> simp_all
  | ask ht => obtain ⟨b, hb⟩ | hc := finished_cases h.finished ht <;> simp_all
  | enqueue ht _ _ => obtain ⟨b, hb⟩ | hc := finished_cases h.finished ht <;> simp_all
  | bounce ht _ => obtain ⟨b, hb⟩ | hc := finished_cases h.finished ht <;> simp_all
  | deliver x ht _ _ => obtain ⟨b, hb⟩ | hc := finished_cases h.finished ht <;> simp_all
  | recv _ hq => simp [h.queue] at hq
  | handle w hp => simp [hp] at hphase
  | hangup hp _ hc _ =>
    obtain ⟨-, hopen⟩ | hexit := h.server
    · simp [hc] at hopen
    · simp [hp] at hexit
  | shutdown hp => exact hphase.2 hp

theorem Forward.of_waiting {s : State A} (h : Reachable s) {i : Nat} {o : A.Origin} {r : A.Req}
    {c : Nat} {k : Option (A.Ans r) → A.Prog} (ht : s.tasks[i]? = some ⟨o, .waiting r c k⟩)
    (hq : s.queue = []) (hp : s.phase.message = []) : ∃ s', Forward s s' := by
  obtain (hmem | hphase) | ⟨ch, x, hch, hres⟩ := waiting_cases h ht
  · simp [hq] at hmem
  · simp [hphase] at hp
  · exact ⟨_, .deliver x ht hch (by rw [hres]; rfl)⟩

section

variable [Nonempty A.World] [Nonempty A.Time]

/-- Where no such step is possible the system is quiescent. -/
theorem forward_or_quiescent {s : State A} (h : Reachable s) (hcap : 0 < A.capacity) :
    (∃ s', Forward s s') ∨ Quiescent s := by
  by_cases hstep : ∃ s', Forward s s'
  · exact .inl hstep
  right
  have hno : ∀ s', ¬ Forward s s' := fun s' hf => hstep ⟨s', hf⟩
  obtain ⟨w⟩ := ‹Nonempty A.World›
  obtain ⟨now⟩ := ‹Nonempty A.Time›
  have hphase : s.phase = .idle ∨ s.phase = .exited := by
    cases hp : s.phase with
    | idle => exact .inl rfl
    | exited => exact .inr rfl
    | handling m => exact absurd (.handle w hp) (hno _)
    | stopping => exact absurd (.shutdown hp) (hno _)
  have hqueue : s.queue = [] := by
    obtain hp | hp := hphase
    · cases hq : s.queue with
      | nil => rfl
      | cons m q => exact absurd (.recv hp hq) (hno _)
    · exact exited_queue h hp
  have hmessage : s.phase.message = [] := by
    obtain hp | hp := hphase <;> rw [hp] <;> rfl
  have hfinished : ∀ t ∈ s.tasks, t.finished := by
    intro t ht
    obtain ⟨i, hi⟩ := List.mem_iff_getElem?.mp ht
    obtain ⟨o, st⟩ := t
    cases st with
    | cancelled => exact .inr rfl
    | running p =>
      cases p with
      | ret b => exact .inl ⟨b, rfl⟩
      | clock k => exact absurd (.clock now hi) (hno _)
      | ask r k => exact absurd (.ask hi) (hno _)
    | sending r c k =>
      by_cases hp : s.phase = .exited
      · exact absurd (.bounce hi hp) (hno _)
      · exact absurd (.enqueue hi (by rw [hqueue]; exact hcap) hp) (hno _)
    | waiting r c k => exact absurd (Forward.of_waiting h hi hqueue hmessage) hstep
  refine ⟨hfinished, hqueue, ?_⟩
  obtain hp | hp := hphase
  · cases hc : s.closed with
    | false => exact .inl ⟨hp, rfl⟩
    | true => exact absurd (.hangup hp hqueue hc hfinished) (hno _)
  · exact .inr hp

theorem quiescent_iff_stuck {s : State A} (h : Reachable s) (hcap : 0 < A.capacity) :
    Quiescent s ↔ ∀ s', ¬ Forward s s' := by
  constructor
  · exact fun hq => hq.stuck
  · intro hno
    obtain ⟨s', hf⟩ | hq := forward_or_quiescent h hcap
    · exact absurd hf (hno s')
    · exact hq

/-- From every reachable state the clients and the server come to rest by themselves. -/
theorem settles {s : State A} (h : Reachable s) (hcap : 0 < A.capacity) :
    ∃ s', ForwardRun s s' ∧ Quiescent s' := by
  induction s using forward_wf.induction with
  | _ s ih =>
    obtain ⟨s₁, hs₁⟩ | hq := forward_or_quiescent h hcap
    · obtain ⟨s', hs', hq⟩ := ih s₁ hs₁ (h.tail hs₁.step)
      exact ⟨s', .head hs₁ hs', hq⟩
    · exact ⟨s, .refl, hq⟩

end

end Actor

import Mathlib.Logic.Relation
import Mathlib.Data.List.Basic

/-!
# Clients of one server

A server handles requests from a bounded queue one at a time; any number of
clients put requests there and wait for the answer on a reply channel made for
the request. A channel is a list of its resolutions, so that nothing but a proof
rules out a second one. Clients may be cancelled at any point, the server may
crash inside a request, and when it ends it loses what it held and closes what is
left in the queue.
-/
namespace Actor

/-- What a client does. The answer to a request is `none` when its reply channel
was closed. -/
inductive Program (ρ : Type) (α : ρ → Type) (κ β : Type) where
  | ret (b : β)
  | clock (k : κ → Program ρ α κ β)
  | ask (r : ρ) (k : Option (α r) → Program ρ α κ β)

namespace Program

variable {ρ : Type} {α : ρ → Type} {κ β γ : Type}

def bind : Program ρ α κ β → (β → Program ρ α κ γ) → Program ρ α κ γ
  | ret b, f => f b
  | clock k, f => clock fun t => (k t).bind f
  | ask r k, f => ask r fun x => (k x).bind f

instance : Monad (Program ρ α κ) where
  pure := ret
  bind := bind

end Program

/-- A server and the clients that may arrive. -/
structure System where
  Req : Type
  Ans : Req → Type
  Server : Type
  /-- What the handling of a request may depend on besides the server's state. -/
  World : Type
  Time : Type
  Origin : Type
  Result : Type
  start : Server
  handle : Server → World → (r : Req) → Option (Ans r) × Server
  running : Server → Bool
  /-- What is left when the loop is over and its variables are gone. -/
  leftover : Server → Server
  /-- What a request that crashes may have changed by then. -/
  broken : Server → Server → Prop
  launch : Origin → Program Req Ans Time Result
  arrives : Origin → Prop
  /-- Requests that come from the service itself, without a reply channel. -/
  posted : Req → Prop
  capacity : Nat

variable (A : System)

abbrev System.Prog : Type := Program A.Req A.Ans A.Time A.Result

/-- Whose request it is, and where the answer goes. -/
structure Ticket where
  task : Nat
  origin : A.Origin
  chan : Nat

structure Msg where
  request : A.Req
  ticket : Option (Ticket A)

inductive TaskState where
  | running (p : A.Prog)
  | sending (r : A.Req) (c : Nat) (k : Option (A.Ans r) → A.Prog)
  | waiting (r : A.Req) (c : Nat) (k : Option (A.Ans r) → A.Prog)
  | cancelled

structure Task where
  origin : A.Origin
  state : TaskState A

inductive Phase where
  | idle
  | handling (m : Msg A)
  | stopping
  | exited

/-- A reply channel: the request and the client it was made for, and what it was
resolved with, `none` being a close. -/
structure Chan where
  request : A.Req
  task : Nat
  resolved : List (Option (Sigma A.Ans))

/-- `log` lists the requests handled so far, each with the world it met. -/
structure State where
  server : A.Server
  phase : Phase A
  queue : List (Msg A)
  tasks : List (Task A)
  chans : List (Chan A)
  log : List (A.World × Msg A)
  closed : Bool

variable {A}

def System.init (A : System) : State A := ⟨A.start, .idle, [], [], [], [], false⟩

def resolve (chans : List (Chan A)) (c : Nat) (x : Option (Sigma A.Ans)) : List (Chan A) :=
  chans.modify c fun ch => { ch with resolved := ch.resolved ++ [x] }

/-- Dropping requests closes their channels. -/
def closeAll (chans : List (Chan A)) (cs : List Nat) : List (Chan A) :=
  cs.foldl (fun chans c => resolve chans c none) chans

def Msg.chans (m : Msg A) : List Nat := (m.ticket.map (·.chan)).toList

/-- The channel of a request that was made but not sent. -/
def TaskState.pending : TaskState A → List Nat
  | .sending _ c _ => [c]
  | _ => []

@[simp] theorem pending_running (p : A.Prog) : (TaskState.running p).pending = [] := rfl
@[simp] theorem pending_sending (r : A.Req) (c : Nat) (k : Option (A.Ans r) → A.Prog) :
    (TaskState.sending r c k).pending = [c] := rfl
@[simp] theorem pending_waiting (r : A.Req) (c : Nat) (k : Option (A.Ans r) → A.Prog) :
    (TaskState.waiting r c k).pending = [] := rfl
@[simp] theorem pending_cancelled : (TaskState.cancelled : TaskState A).pending = [] := rfl

def Phase.message : Phase A → List (Msg A)
  | .handling m => [m]
  | _ => []

@[simp] theorem message_idle : (Phase.idle : Phase A).message = [] := rfl
@[simp] theorem message_handling (m : Msg A) : (Phase.handling m).message = [m] := rfl
@[simp] theorem message_stopping : (Phase.stopping : Phase A).message = [] := rfl
@[simp] theorem message_exited : (Phase.exited : Phase A).message = [] := rfl

/-- The answer goes over the message's channel; without one it goes nowhere. -/
def reply (chans : List (Chan A)) (m : Msg A) (x : Option (A.Ans m.request)) : List (Chan A) :=
  match m.ticket with
  | some k => resolve chans k.chan (x.map (Sigma.mk m.request))
  | none => chans

def Task.finished (t : Task A) : Prop := (∃ b, t.state = .running (.ret b)) ∨ t.state = .cancelled

def State.setTask (s : State A) (i : Nat) (o : A.Origin) (st : TaskState A) : State A :=
  { s with tasks := s.tasks.set i ⟨o, st⟩ }

inductive Step : State A → State A → Prop
  | begin {s} (o : A.Origin) (ho : A.arrives o) (hc : s.closed = false) :
      Step s { s with tasks := s.tasks ++ [⟨o, .running (A.launch o)⟩] }
  | clock {s i o k} (now : A.Time) (h : s.tasks[i]? = some ⟨o, .running (.clock k)⟩) :
      Step s (s.setTask i o (.running (k now)))
  | ask {s i o r k} (h : s.tasks[i]? = some ⟨o, .running (.ask r k)⟩) :
      Step s { s.setTask i o (.sending r s.chans.length k) with
        chans := s.chans ++ [⟨r, i, []⟩] }
  | enqueue {s i o r c k} (h : s.tasks[i]? = some ⟨o, .sending r c k⟩)
      (hq : s.queue.length < A.capacity) (hp : s.phase ≠ .exited) :
      Step s { s.setTask i o (.waiting r c k) with queue := s.queue ++ [⟨r, some ⟨i, o, c⟩⟩] }
  | bounce {s i o r c k} (h : s.tasks[i]? = some ⟨o, .sending r c k⟩) (hp : s.phase = .exited) :
      Step s { s.setTask i o (.waiting r c k) with chans := closeAll s.chans [c] }
  | deliver {s i o r c k ch} (x : Option (A.Ans r)) (h : s.tasks[i]? = some ⟨o, .waiting r c k⟩)
      (hc : s.chans[c]? = some ch) (hx : ch.resolved.head? = some (x.map (Sigma.mk r))) :
      Step s (s.setTask i o (.running (k x)))
  | cancel {s i t} (h : s.tasks[i]? = some t) :
      Step s { s.setTask i t.origin .cancelled with chans := closeAll s.chans t.state.pending }
  | post {s} (r : A.Req) (hr : A.posted r) (hq : s.queue.length < A.capacity)
      (hp : s.phase ≠ .exited) (hc : s.closed = false) :
      Step s { s with queue := s.queue ++ [⟨r, none⟩] }
  | close {s} : Step s { s with closed := true }
  | recv {s m q} (hp : s.phase = .idle) (hq : s.queue = m :: q) :
      Step s { s with phase := .handling m, queue := q }
  | handle {s m} (w : A.World) (hp : s.phase = .handling m) :
      Step s { s with
        server := (A.handle s.server w m.request).2
        chans := reply s.chans m (A.handle s.server w m.request).1
        log := s.log ++ [(w, m)]
        phase := if A.running (A.handle s.server w m.request).2 then .idle else .stopping }
  | crash {s m} (hp : s.phase = .handling m) (st : A.Server) (hst : A.broken s.server st) :
      Step s { s with
        server := A.leftover st
        chans := closeAll s.chans m.chans
        phase := .stopping }
  | hangup {s} (hp : s.phase = .idle) (hq : s.queue = []) (hc : s.closed = true)
      (ht : ∀ t ∈ s.tasks, t.finished) :
      Step s { s with server := A.leftover s.server, phase := .stopping }
  | shutdown {s} (hp : s.phase = .stopping) :
      Step s { s with
        chans := closeAll s.chans (s.queue.flatMap Msg.chans), queue := [], phase := .exited }

abbrev Steps (s s' : State A) : Prop := Relation.ReflTransGen Step s s'

abbrev Reachable (s : State A) : Prop := Steps A.init s

/-- The server after a sequence of requests. -/
def System.after (A : System) (log : List (A.World × Msg A)) : A.Server :=
  log.foldl (fun st e => (A.handle st e.1 e.2.request).2) A.start

theorem after_snoc (log : List (A.World × Msg A)) (e : A.World × Msg A) :
    A.after (log ++ [e]) = (A.handle (A.after log) e.1 e.2.request).2 := by
  simp [System.after, List.foldl_append]

end Actor

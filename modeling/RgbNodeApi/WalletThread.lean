import RgbNodeApi.WalletCmd
import Std.Data.TreeMap

/-!
# The wallet thread

One iteration of the loop of `WalletThread::spawn`, and the loop over a sequence
of commands. The registry maps fingerprints to shared handles; a handle is the
number of the successful `new_ro_wallet` call that made the wallet, so handles
are never reused.
-/
namespace RgbNodeApi

open Files

abbrev Arc := Nat
abbrev Registry := Std.TreeMap String Arc

/-- A wallet and the keys that `new_ro_wallet` was called with; no code reads
the latter. -/
structure Instance (D : Deps) where
  builtFrom : XWalletKey
  state : RgbWalletState D

structure WalletThread where
  cfg : Config
  tempDir : Path

structure ThreadState (D : Deps) where
  running : Bool
  multiWstate : Registry
  arcs : List (Instance D)
  fs : Fs

/-- A point inside the handling of one command: the registry, the handles and
wallets held by local variables, and the key `new_ro_wallet` is called for. -/
structure Moment where
  registered : Registry
  referenced : List (String × Arc)
  building : Option String

/-- What handling one command does. `reply` is what goes over the reply channel,
`none` when it is dropped; `served` lists the wallets an operation ran on. -/
structure Outcome (D : Deps) (T : Option Payload) where
  reply : Option (Answer D T)
  state : ThreadState D
  moments : List Moment
  built : Option Arc := none
  served : List Arc := []

variable {D : Deps}

namespace ThreadState

def start (fs : Fs) : ThreadState D := ⟨true, ∅, [], fs⟩

/-- The loop is over, and the registry goes with its local variables. `arcs` keeps
the wallets as they were last seen. -/
def leftover (st : ThreadState D) : ThreadState D := { st with multiWstate := ∅, running := false }

/-- What is left of a command that panicked: the files it has changed by then. What
it did to a wallet goes with the wallet. -/
def Broken (st st' : ThreadState D) : Prop := ∃ fs, st' = { st with fs := fs }

/-- Lock one wallet and run a computation on it. -/
def onArc {α : Type} (st : ThreadState D) (arc : Arc) (m : WalletM D α) :
    Option α × ThreadState D :=
  match st.arcs[arc]? with
  | none => (none, st)
  | some inst =>
    let r := m.run (inst.state, st.fs)
    (some r.1, { st with arcs := st.arcs.set arc ⟨inst.builtFrom, r.2.1⟩, fs := r.2.2 })

/-- The wallet registered for a fingerprint. -/
def entry (st : ThreadState D) (id : String) : Option (Instance D) :=
  st.multiWstate[id]?.bind fun arc => st.arcs[arc]?

end ThreadState

/-- The loop of the `Refresh` arm: failures are only logged. -/
def refreshAll (env : Env D) (st : ThreadState D) : List (String × Arc) → ThreadState D
  | [] => st
  | (_, arc) :: wallets => refreshAll env (st.onArc arc (RgbWalletState.refresh env)).2 wallets

/-- The catch-all arm: a command without an id or for an unknown wallet is
discarded together with its reply channel. -/
def routeCmd {T : Option Payload} (wt : WalletThread) (env : Env D) (ido : Option String)
    (st : ThreadState D) (cmd : WalletCmd D T) : Outcome D T :=
  match ido with
  | none => { reply := none, state := st, moments := [⟨st.multiWstate, [], none⟩] }
  | some id =>
    match st.multiWstate[id]? with
    | none => { reply := none, state := st, moments := [⟨st.multiWstate, [], none⟩] }
    | some arc =>
      let r := st.onArc arc (handleWalletCmd wt.tempDir env id cmd)
      { reply := r.1.join
        state := r.2
        moments := [⟨st.multiWstate, [(id, arc)], none⟩]
        served := [arc] }

/-- The body of the loop of `WalletThread::spawn`. -/
def process (wt : WalletThread) (env : Env D) (ido : Option String) (st : ThreadState D) :
    {T : Option Payload} → WalletCmd D T → Outcome D T
  | _, .addReadOnlyWallet xpubColored xpubVanilla masterFingerprint =>
    if st.multiWstate.contains masterFingerprint then
      { reply := some (.ok true), state := st, moments := [⟨st.multiWstate, [], none⟩] }
    else
      let w := (RgbWalletState.newRoWallet wt.cfg env xpubColored xpubVanilla
        masterFingerprint none).run ((), st.fs)
      let st := { st with fs := w.2.2 }
      match w.1 with
      | .ok wallet =>
        let arc := st.arcs.length
        let registry := st.multiWstate.insert masterFingerprint arc
        { reply := some (.ok true)
          state :=
            { st with
              multiWstate := registry
              arcs := st.arcs ++ [⟨⟨xpubColored, xpubVanilla, masterFingerprint⟩, wallet⟩] }
          moments :=
            [⟨st.multiWstate, [], some masterFingerprint⟩,
              ⟨st.multiWstate, [(masterFingerprint, arc)], none⟩, ⟨registry, [], none⟩]
          built := some arc }
      | .error err =>
        { reply := some (.error err)
          state := st
          moments :=
            [⟨st.multiWstate, [], some masterFingerprint⟩, ⟨st.multiWstate, [], none⟩] }
  | _, .walletInfo =>
    let wallets := st.multiWstate.toList
    let infos := wallets.filterMap fun (id, arc) => st.arcs[arc]?.map fun wallet =>
      { walletId := id
        masterXpub := wallet.state.masterXpub
        fingerprint := wallet.state.id
        readOnly := true : WalletInfo }
    { reply := some (.ok ⟨true, infos⟩)
      state := st
      moments := [⟨st.multiWstate, wallets, none⟩] }
  | _, .dropWallet =>
    let registry := match ido with
      | some id => st.multiWstate.erase id
      | none => st.multiWstate
    { reply := some (.ok ())
      state := { st with multiWstate := registry }
      moments := [⟨registry, [], none⟩] }
  | _, .stop =>
    { reply := some (.ok ())
      state := { st with multiWstate := ∅, running := false }
      moments := [⟨∅, [], none⟩] }
  | _, .refresh =>
    let wallets := st.multiWstate.toList
    { reply := none
      state := refreshAll env st wallets
      moments := [⟨st.multiWstate, wallets, none⟩]
      served := wallets.map Prod.snd }
  | _, cmd => routeCmd wt env ido st cmd

/-- A command as it leaves the channel, with the world it is handled in. -/
structure Input (D : Deps) where
  env : Env D
  ido : Option String
  T : Option Payload
  cmd : WalletCmd D T

/-- Nothing is handled after `Stop`. -/
def step (wt : WalletThread) (st : ThreadState D) (i : Input D) : ThreadState D :=
  if st.running then (process wt i.env i.ido st i.cmd).state else st

/-- What a command is answered in a given state; `none` is a closed channel. -/
def answer (wt : WalletThread) (st : ThreadState D) (i : Input D) : Option (Answer D i.T) :=
  if st.running then (process wt i.env i.ido st i.cmd).reply else none

/-- The loop over a sequence of commands. -/
def runLoop (wt : WalletThread) (st : ThreadState D) : List (Input D) → ThreadState D
  | [] => st
  | i :: rest => runLoop wt (step wt st i) rest

@[simp] theorem runLoop_nil (wt : WalletThread) (st : ThreadState D) : runLoop wt st [] = st := rfl
@[simp] theorem runLoop_cons (wt : WalletThread) (st : ThreadState D) (i : Input D)
    (rest : List (Input D)) : runLoop wt st (i :: rest) = runLoop wt (step wt st i) rest := rfl

theorem runLoop_append (wt : WalletThread) (st : ThreadState D) (is js : List (Input D)) :
    runLoop wt st (is ++ js) = runLoop wt (runLoop wt st is) js := by
  induction is generalizing st with
  | nil => rfl
  | cons i rest ih => exact ih (step wt st i)

theorem runLoop_snoc (wt : WalletThread) (st : ThreadState D) (is : List (Input D)) (i : Input D) :
    runLoop wt st (is ++ [i]) = step wt (runLoop wt st is) i := by
  simp [runLoop_append]

theorem step_stopped (wt : WalletThread) (st : ThreadState D) (i : Input D)
    (h : st.running = false) : step wt st i = st := by simp [step, h]

theorem runLoop_stopped (wt : WalletThread) (st : ThreadState D) (is : List (Input D))
    (h : st.running = false) : runLoop wt st is = st := by
  induction is with
  | nil => rfl
  | cons i rest ih => rw [runLoop_cons, step_stopped wt st i h, ih]

/-- Commands come in six kinds. -/
theorem WalletCmd.kinds {motive : (T : Option Payload) → WalletCmd D T → Prop}
    (add : ∀ xpubColored xpubVanilla masterFingerprint,
      motive _ (.addReadOnlyWallet xpubColored xpubVanilla masterFingerprint))
    (walletInfo : motive _ .walletInfo) (dropWallet : motive _ .dropWallet)
    (stop : motive _ .stop) (refresh : motive _ .refresh)
    (routed : ∀ T (cmd : WalletCmd D T), cmd.isRouted = true → motive T cmd)
    (T : Option Payload) (cmd : WalletCmd D T) : motive T cmd := by
  cases cmd with
  | addReadOnlyWallet col van fp => exact add col van fp
  | walletInfo => exact walletInfo
  | dropWallet => exact dropWallet
  | stop => exact stop
  | refresh => exact refresh
  | _ => exact routed _ _ rfl

theorem process_routed {T : Option Payload} (wt : WalletThread) (env : Env D)
    (ido : Option String) (st : ThreadState D) (cmd : WalletCmd D T) (h : cmd.isRouted = true) :
    process wt env ido st cmd = routeCmd wt env ido st cmd := by
  cases cmd <;> first | rfl | cases h

/-! ## What the two long arms can do -/

theorem contains_of_registered {R : Registry} {f : String} {arc : Arc} (h : R[f]? = some arc) :
    R.contains f = true := by
  rw [Std.TreeMap.contains_eq_isSome_getElem?, h]
  rfl

theorem contains_of_absent {R : Registry} {f : String} (h : R[f]? = none) :
    R.contains f = false := by
  rw [Std.TreeMap.contains_eq_isSome_getElem?, h]
  rfl

/-- The catch-all arm discards a command or runs it on the wallet of its id. -/
inductive Routing (wt : WalletThread) (env : Env D) (ido : Option String) (st : ThreadState D)
    {T : Option Payload} (cmd : WalletCmd D T) (out : Outcome D T) : Prop where
  | discarded (hi : ∀ id, ido = some id → st.multiWstate[id]? = none)
      (h : out = { reply := none, state := st, moments := [⟨st.multiWstate, [], none⟩] })
  | served (id : String) (arc : Arc) (hi : ido = some id) (ha : st.multiWstate[id]? = some arc)
      (h : out =
        { reply := (st.onArc arc (handleWalletCmd wt.tempDir env id cmd)).1.join
          state := (st.onArc arc (handleWalletCmd wt.tempDir env id cmd)).2
          moments := [⟨st.multiWstate, [(id, arc)], none⟩]
          served := [arc] })

theorem process_routing {T : Option Payload} (wt : WalletThread) (env : Env D)
    (ido : Option String) (st : ThreadState D) (cmd : WalletCmd D T) (h : cmd.isRouted = true) :
    Routing wt env ido st cmd (process wt env ido st cmd) := by
  rw [process_routed wt env ido st cmd h]
  cases ido with
  | none => exact .discarded (by simp) rfl
  | some id =>
    cases ha : st.multiWstate[id]? with
    | none => exact .discarded (by simpa using ha) (by simp [routeCmd, ha])
    | some arc => exact .served id arc rfl ha (by simp [routeCmd, ha])

/-- The outcome of `AddReadOnlyWallet`, from the result of `new_ro_wallet`. -/
inductive Adding (wt : WalletThread) (env : Env D) (st : ThreadState D) (key : XWalletKey)
    (out : Outcome D (some .bool)) : Prop where
  | present (arc : Arc) (ha : st.multiWstate[key.masterFingerprint]? = some arc)
      (h : out =
        { reply := some (.ok true), state := st, moments := [⟨st.multiWstate, [], none⟩] })
  | failed (err : Error) (fs : Fs)
      (ha : st.multiWstate[key.masterFingerprint]? = none)
      (hw : (RgbWalletState.newRoWallet wt.cfg env key.xpubCol key.xpubVan key.masterFingerprint
        none).run ((), st.fs) = (.error err, (), fs))
      (h : out =
        { reply := some (.error err)
          state := { st with fs := fs }
          moments := [⟨st.multiWstate, [], some key.masterFingerprint⟩,
            ⟨st.multiWstate, [], none⟩] })
  | built (wallet : RgbWalletState D) (fs : Fs)
      (ha : st.multiWstate[key.masterFingerprint]? = none)
      (hw : (RgbWalletState.newRoWallet wt.cfg env key.xpubCol key.xpubVan key.masterFingerprint
        none).run ((), st.fs) = (.ok wallet, (), fs))
      (h : out =
        { reply := some (.ok true)
          state :=
            { st with
              multiWstate := st.multiWstate.insert key.masterFingerprint st.arcs.length
              arcs := st.arcs ++ [⟨key, wallet⟩]
              fs := fs }
          moments := [⟨st.multiWstate, [], some key.masterFingerprint⟩,
            ⟨st.multiWstate, [(key.masterFingerprint, st.arcs.length)], none⟩,
            ⟨st.multiWstate.insert key.masterFingerprint st.arcs.length, [], none⟩]
          built := some st.arcs.length })

theorem process_adding (wt : WalletThread) (env : Env D) (ido : Option String)
    (st : ThreadState D) (key : XWalletKey) :
    Adding wt env st key (process wt env ido st
      (.addReadOnlyWallet key.xpubCol key.xpubVan key.masterFingerprint)) := by
  cases ha : st.multiWstate[key.masterFingerprint]? with
  | some arc => exact .present arc ha (by simp [process, contains_of_registered ha])
  | none =>
    have hc := contains_of_absent ha
    cases hw : (RgbWalletState.newRoWallet (D := D) wt.cfg env key.xpubCol key.xpubVan
        key.masterFingerprint none).run ((), st.fs) with
    | mk res s =>
      obtain ⟨_, fs⟩ := s
      cases res with
      | error err => exact .failed err fs ha hw (by simp [process, hc, hw])
      | ok wallet => exact .built wallet fs ha hw (by simp [process, hc, hw])

end RgbNodeApi

import RgbNodeApi.WalletThread

/-!
# What one step of the loop can do

No operation changes the id of a wallet or the keys it was built from, so a
command changes the registry in one of three ways or not at all: `Stop`, a drop
with an id, and a successful registration.
-/
namespace RgbNodeApi

open Files Footprint

variable {D : Deps}

/-- The keys an `AddReadOnlyWallet` carries. -/
def WalletCmd.adds : {T : Option Payload} → WalletCmd D T → Option XWalletKey
  | _, .addReadOnlyWallet xpubColored xpubVanilla masterFingerprint =>
    some ⟨xpubColored, xpubVanilla, masterFingerprint⟩
  | _, _ => none

def WalletCmd.isDrop : {T : Option Payload} → WalletCmd D T → Bool
  | _, .dropWallet => true
  | _, _ => false

def WalletCmd.isStop : {T : Option Payload} → WalletCmd D T → Bool
  | _, .stop => true
  | _, _ => false

theorem WalletCmd.routed_adds {T : Option Payload} (cmd : WalletCmd D T)
    (h : cmd.isRouted = true) : cmd.adds = none := by
  cases cmd <;> first | rfl | cases h

theorem WalletCmd.routed_isDrop {T : Option Payload} (cmd : WalletCmd D T)
    (h : cmd.isRouted = true) : cmd.isDrop = false := by
  cases cmd <;> first | rfl | cases h

theorem WalletCmd.routed_isStop {T : Option Payload} (cmd : WalletCmd D T)
    (h : cmd.isRouted = true) : cmd.isStop = false := by
  cases cmd <;> first | rfl | cases h

theorem WalletCmd.stop_adds {T : Option Payload} (cmd : WalletCmd D T)
    (h : cmd.isStop = true) : cmd.adds = none := by
  cases cmd <;> first | rfl | cases h

/-- The fingerprint that a `DropWallet` is addressed to. -/
def Input.dropped (i : Input D) : Option String := if i.cmd.isDrop then i.ido else none

/-- The wallet that a command builds in a given state. -/
def builtBy (wt : WalletThread) (st : ThreadState D) (i : Input D) : Option Arc :=
  if st.running then (process wt i.env i.ido st i.cmd).built else none

/-! ## What holds of every command -/

/-- The file that a call is told to write. -/
def Call.target {T : RgbTypes} : {α : Type} → Call T α → Set Path
  | _, .backup path _ => {path}
  | _, _ => ∅

/-- The password of a `Backup`. -/
def WalletCmd.backupPassword : {T : Option Payload} → WalletCmd D T → Option String
  | _, .backup password => some password
  | _, _ => none

/-- What holds of calls that write no file, and is kept by sending their results,
holds of every command but `Backup`. -/
theorem handleWalletCmd_rule {P : {α : Type} → WalletM D α → Prop} {tempDir : Path} {env : Env D}
    {id : String} (pure : ∀ {α : Type} (a : α), P (Pure.pure a))
    (respond : ∀ {α : Type} {p : Payload} (m : WalletM D (RResult α)) (f : α → p.T D),
      P m → P (respond m f))
    (call : ∀ {α : Type} (c : RgbWalletState D → Call D.toRgbTypes α), (∀ s, (c s).target = ∅) →
      P (RgbWalletState.call env c))
    (metadata : ∀ assetId, P fun s => (D.getAssetMetadata s.1.wallet assetId, s))
    (lookup : ∀ req, P (α := Option (Answer D (some .getConsignmentRes)))
      fun s => (some (lookupConsignment req s.1.wallet s.2).res, s))
    {T : Option Payload} (cmd : WalletCmd D T)
    (backup : ∀ password, cmd.backupPassword = some password →
      P (handleWalletCmd tempDir env id (.backup password))) :
    P (handleWalletCmd tempDir env id cmd) := by
  cases cmd with
  | backup password => exact backup password rfl
  | assetInfo assetId => exact respond _ _ (metadata assetId)
  | getConsignment req => exact lookup req
  | receive kind req =>
    apply respond
    unfold RgbWalletState.receiveToken
    cases kind with
    | blind => exact call _ fun _ => rfl
    | witness => exact call _ fun _ => rfl
  | sendBegin req =>
    change P (handleSendBegin env req)
    unfold handleSendBegin
    cases req.expiration env.now with
    | error err => exact pure _
    | ok e => exact respond _ _ (call _ fun _ => rfl)
  | refresh => exact pure none
  | dropWallet => exact pure none
  | stop => exact pure none
  | walletInfo => exact pure none
  | addReadOnlyWallet => exact pure none
  | _ => exact respond _ _ (call _ fun _ => rfl)

theorem Preserves.respond {I : RgbWalletState D × Fs → Prop} {α : Type} {p : Payload}
    {m : WalletM D (RResult α)} (hm : Preserves I m) (f : α → p.T D) :
    Preserves I (respond m f) :=
  hm.bind fun _ => .pure _ _

/-! ## Operations keep the identity of a wallet -/

theorem newRoWallet_id (cfg : Config) (env : Env D) (xpubColored xpubVanilla fp : String)
    (n : Option Nat) :
    Returns (fun r => ∀ w, r = Except.ok w → w.id = fp)
      (RgbWalletState.newRoWallet cfg env xpubColored xpubVanilla fp n) := by
  unfold RgbWalletState.newRoWallet
  cases env.createDirAll cfg.datadir with
  | error e => exact .pure (by simp)
  | ok _ =>
  cases cfg.supportedSchemas with
  | error err => exact .pure (by simp)
  | ok schemas =>
  apply Returns.bind
  intro r
  cases r with
  | error err => exact .pure (by simp)
  | ok wallet =>
  simp only
  cases indexerConfig cfg env with
  | error err => exact .pure (by simp)
  | ok ic =>
  apply Returns.bind
  intro r
  cases r with
  | error err => exact .pure (by simp)
  | ok online => exact .pure (by rintro w ⟨⟩; rfl)

theorem call_id {α : Type} (env : Env D) (c : RgbWalletState D → Call D.toRgbTypes α)
    (x : String) : Preserves (fun s => s.1.id = x) (RgbWalletState.call env c) :=
  fun _ h => h

/-- No command changes the id of the wallet it runs on. -/
theorem handleWalletCmd_id (tempDir : Path) (env : Env D) (id x : String)
    {T : Option Payload} (cmd : WalletCmd D T) :
    Preserves (fun s => s.1.id = x) (handleWalletCmd tempDir env id cmd) := by
  apply handleWalletCmd_rule (P := Preserves fun s => s.1.id = x)
  case pure => exact fun a => .pure _ a
  case respond => exact fun m f hm => Preserves.respond hm f
  case call => exact fun c _ => call_id env c x
  case metadata => exact fun _ _ hs => hs
  case lookup => exact fun _ _ hs => hs
  case backup =>
    intro password _
    exact Preserves.bind (fun s hs => hs) fun _ => Preserves.respond (call_id env _ x) _

/-- Everything about the registered wallets except their contents. -/
structure SameRegistry (st st' : ThreadState D) : Prop where
  running : st'.running = st.running
  multiWstate : st'.multiWstate = st.multiWstate
  labels : st'.arcs.map (fun inst => (inst.builtFrom, inst.state.id)) =
    st.arcs.map (fun inst => (inst.builtFrom, inst.state.id))

theorem SameRegistry.refl (st : ThreadState D) : SameRegistry st st := ⟨rfl, rfl, rfl⟩

theorem SameRegistry.trans {a b c : ThreadState D} (h : SameRegistry a b)
    (h' : SameRegistry b c) : SameRegistry a c :=
  ⟨h'.running.trans h.running, h'.multiWstate.trans h.multiWstate, h'.labels.trans h.labels⟩

theorem onArc_same {α : Type} (st : ThreadState D) (arc : Arc) (m : WalletM D α)
    (hm : ∀ x, Preserves (fun s => s.1.id = x) m) : SameRegistry st (st.onArc arc m).2 := by
  unfold ThreadState.onArc
  cases hi : st.arcs[arc]? with
  | none => exact .refl st
  | some inst =>
    refine ⟨rfl, rfl, ?_⟩
    have hid : (m.run (inst.state, st.fs)).2.1.id = inst.state.id := hm _ (inst.state, st.fs) rfl
    apply List.ext_getElem?
    intro a
    by_cases ha : arc = a
    · subst ha
      obtain ⟨hlt, rfl⟩ := List.getElem?_eq_some_iff.mp hi
      simp [hlt, hid]
    · simp [ha]

theorem refreshAll_same (env : Env D) (st : ThreadState D) (wallets : List (String × Arc)) :
    SameRegistry st (refreshAll env st wallets) := by
  induction wallets generalizing st with
  | nil => exact .refl st
  | cons w rest ih =>
    have hone := onArc_same st w.2 (RgbWalletState.refresh env) (call_id env _)
    exact hone.trans (ih _)

theorem Routing.same {T : Option Payload} {wt : WalletThread} {env : Env D}
    {ido : Option String} {st : ThreadState D} {cmd : WalletCmd D T} {out : Outcome D T}
    (h : Routing wt env ido st cmd out) : SameRegistry st out.state ∧ out.built = none := by
  cases h with
  | discarded _ h => rw [h]; exact ⟨.refl st, rfl⟩
  | served id arc _ _ h =>
    rw [h]
    exact ⟨onArc_same st arc _ fun x => handleWalletCmd_id wt.tempDir env id x cmd, rfl⟩

/-! ## What a step can do -/

/-- The change a step makes to the registry. -/
inductive Change (st : ThreadState D) (i : Input D) (built : Option Arc) (st' : ThreadState D) :
    Prop where
  | stop (hi : i.cmd.isStop = true) (hb : built = none)
      (h : st' = { st with multiWstate := ∅, running := false })
  | drop (id : String) (hi : i.dropped = some id) (hs : i.cmd.isStop = false) (hb : built = none)
      (h : st' = { st with multiWstate := st.multiWstate.erase id })
  | build (key : XWalletKey) (w : RgbWalletState D) (fs : Fs) (hi : i.cmd.adds = some key)
      (hd : i.dropped = none) (hs : i.cmd.isStop = false)
      (habsent : st.multiWstate[key.masterFingerprint]? = none)
      (hid : w.id = key.masterFingerprint) (hb : built = some st.arcs.length)
      (h : st' = { st with
        multiWstate := st.multiWstate.insert key.masterFingerprint st.arcs.length
        arcs := st.arcs ++ [⟨key, w⟩]
        fs := fs })
  | keep (hd : i.dropped = none) (hs : i.cmd.isStop = false) (hb : built = none)
      (h : SameRegistry st st')

theorem process_change (wt : WalletThread) (st : ThreadState D) (i : Input D) :
    Change st i (process wt i.env i.ido st i.cmd).built
      (process wt i.env i.ido st i.cmd).state := by
  obtain ⟨env, ido, T, cmd⟩ := i
  induction T, cmd using WalletCmd.kinds with
  | stop => exact .stop rfl rfl rfl
  | walletInfo => exact .keep rfl rfl rfl (.refl st)
  | refresh => exact .keep rfl rfl rfl (refreshAll_same env st _)
  | dropWallet =>
    cases ido with
    | none => exact .keep rfl rfl rfl (.refl st)
    | some id => exact .drop id rfl rfl rfl rfl
  | routed T cmd h =>
    obtain ⟨hsame, hb⟩ := (process_routing wt env ido st cmd h).same
    exact .keep (by simp [Input.dropped, WalletCmd.routed_isDrop cmd h])
      (WalletCmd.routed_isStop cmd h) hb hsame
  | add col van fp =>
    cases process_adding wt env ido st ⟨col, van, fp⟩ with
    | present _ _ h => simp only [h]; exact .keep rfl rfl rfl (.refl st)
    | failed err fs _ _ h => simp only [h]; exact .keep rfl rfl rfl ⟨rfl, rfl, rfl⟩
    | built w fs ha hw h =>
      have hid := newRoWallet_id (D := D) wt.cfg env col van fp none ((), st.fs)
      rw [hw] at hid
      simp only [h]
      exact .build ⟨col, van, fp⟩ w fs rfl rfl rfl ha (hid w rfl) rfl rfl

end RgbNodeApi

import RgbNodeApi.KeyBinding
import RgbNodeApi.Lib.ActorViews

/-!
# Who removes a wallet

A drop is addressed to a fingerprint alone and skips the registration, so the
xpubs of its headers are never looked at. And the registry is a local variable of
the thread. A wallet stays until a drop with its own three header values, or
`Stop`, exactly when no drop with its fingerprint and other xpubs comes first and
the loop does not break off.
-/
namespace RgbNodeApi

open Files Actor

variable {D : Deps} {wt : WalletThread} {fs : Fs} {K : HttpRequest D → Prop}

/-- The holder of the keys drops the wallet, or the thread is stopped. -/
def Releases (key : XWalletKey) (m : Msg (service wt fs (Serves K))) : Prop :=
  m.request.cmd.isStop = true ∨
    ∃ (i c : Nat) (req : HttpRequest D), m.ticket = some ⟨i, .http req, c⟩ ∧
      req.endpoint.isDrop = true ∧ req.key = some key

/-- A drop with the fingerprint of the keys and other xpubs. -/
def ForeignDrop (key : XWalletKey) (m : Msg (service wt fs (Serves K))) : Prop :=
  ∃ (i c : Nat) (req : HttpRequest D) (key' : XWalletKey), m.ticket = some ⟨i, .http req, c⟩ ∧
    req.endpoint.isDrop = true ∧ req.key = some key' ∧
    key'.masterFingerprint = key.masterFingerprint ∧ key' ≠ key

/-- Only the key holder removes a wallet: in every run from every reachable state, a
registered wallet stays as the same instance until it is released. -/
def OnlyHolderRemoves (wt : WalletThread) (fs : Fs) (K : HttpRequest D → Prop) : Prop :=
  ∀ (s s' : State (service wt fs (Serves K))) (rest : List (Env D × Msg (service wt fs (Serves K))))
    (f : String) (a : Arc) (inst : Instance D), Reachable s → Steps s s' →
    s'.log = s.log ++ rest → s.server.multiWstate[f]? = some a → s.server.arcs[a]? = some inst →
    (∀ e ∈ rest, ¬ Releases inst.builtFrom e.2) → s'.server.multiWstate[f]? = some a

theorem not_foreign_of_not_drop {key : XWalletKey} {r : Request D} {i c : Nat} {req : HttpRequest D}
    (hd : req.endpoint.isDrop = false) :
    ¬ ForeignDrop key (⟨r, some ⟨i, .http req, c⟩⟩ : Msg (service wt fs (Serves K))) := by
  rintro ⟨i', c', req', key', hk, hd', -⟩
  cases hk
  rw [hd] at hd'
  cases hd'

/-- A handled command spares a wallet that it does not release, unless it is a
foreign drop. -/
theorem spares_iff_not_foreign {s : State (service wt fs (Serves K))} (h : Reachable s) {n : Nat}
    {env : Env D} {m : Msg (service wt fs (Serves K))} (hn : s.log[n]? = some (env, m))
    {key : XWalletKey} (hrel : ¬ Releases key m) :
    Spares key.masterFingerprint (m.request.input env) ↔ ¬ ForeignDrop key m := by
  obtain ⟨r, ticket⟩ := m
  obtain ⟨hk, hr⟩ | ⟨⟨i, o, c⟩, hk, hsent⟩ := logged_sent h hn
  · cases hk
    cases hr
    have hnot : ¬ ForeignDrop key (⟨.refresh, none⟩ : Msg (service wt fs (Serves K))) := by
      rintro ⟨i, c, req, key', hk, -⟩
      cases hk
    exact iff_of_true ⟨nofun, rfl⟩ hnot
  · cases hk
    cases hsent with
    | stop _ hs => exact absurd (.inl hs) hrel
    | register _ _ hd =>
      exact iff_of_true (spares_of_not_drop rfl rfl _) (not_foreign_of_not_drop hd)
    | work _ _ _ hd _ _ _ hr =>
      exact iff_of_true
        (spares_of_not_drop (WalletCmd.routed_isDrop _ hr) (WalletCmd.routed_isStop _ hr) _)
        (not_foreign_of_not_drop hd)
    | @drop req key₀ _ hkey hd =>
      have hne : key₀ ≠ key := by
        rintro rfl
        exact hrel (.inr ⟨i, c, req, rfl, hd, hkey⟩)
      constructor
      · rintro ⟨hspare, -⟩ ⟨i', c', req', key', hk, -, hkey', hmf, -⟩
        cases hk
        rw [hkey] at hkey'
        cases hkey'
        exact hspare (congrArg some hmf)
      · intro hforeign
        refine ⟨fun hdrop => hforeign ⟨i, c, req, key₀, rfl, hd, hkey, ?_, hne⟩, rfl⟩
        exact Option.some.inj hdrop

/-- A run in which a drop with the same fingerprint and other xpubs removes a wallet. -/
theorem removed_by_other {req req' : HttpRequest D} {key key' : XWalletKey} (hK : K req)
    (hK' : K req') (hd : req.endpoint.isDrop = false) (hd' : req'.endpoint.isDrop = true)
    (hkey : req.key = some key) (hkey' : req'.key = some key')
    (hmf : key'.masterFingerprint = key.masterFingerprint) (hne : key' ≠ key)
    (hacc : Buildable (D := D) wt key fs) :
    ∃ (s s' : State (service wt fs (Serves K)))
      (rest : List (Env D × Msg (service wt fs (Serves K)))) (a : Arc) (inst : Instance D),
      Reachable s ∧ Steps s s' ∧ s'.log = s.log ++ rest ∧
      s.server.multiWstate[key.masterFingerprint]? = some a ∧ s.server.arcs[a]? = some inst ∧
      (∀ e ∈ rest, ¬ Releases inst.builtFrom e.2) ∧ ¬ s'.phase.ended ∧
      s'.server.multiWstate[key.masterFingerprint]? = none := by
  obtain ⟨s₁, p₁, w, hs₁, hcalm₁, -, -, hrun₁, hreg₁, harcs₁⟩ :=
    first_registered wt fs hK hkey hd hacc
  obtain ⟨env, -⟩ := hacc
  obtain ⟨s₂, c₂, hs₂, hcalm₂, -, hserver₂, hlog₂⟩ := calm_remove hcalm₁ hK' hkey' hd' hrun₁ env
  refine ⟨s₁, s₂, _, 0, ⟨key, w⟩, hs₁, hs₂, hlog₂, ?_, ?_, ?_, hcalm₂.live, ?_⟩
  · rw [hreg₁, getElem?_insert_self]
  · rw [harcs₁]
    rfl
  · intro e he
    cases List.mem_singleton.mp he
    rintro (hs | ⟨i, c, req₀, hk, -, hkey₀⟩)
    · cases hs
    · cases hk
      rw [hkey'] at hkey₀
      exact hne (Option.some.inj hkey₀)
  · rw [hserver₂, ← hmf, getElem?_erase_self]

/-- Of the entries handled until a later state, those handled in between. -/
theorem handled_between {s b s' : State (service wt fs (Serves K))} (hb : Steps s b)
    {rest : List (Env D × Msg (service wt fs (Serves K)))} (hrest : s'.log = s.log ++ rest)
    {e : Env D × Msg (service wt fs (Serves K))} (he : b.log ++ [e] = s'.log) : e ∈ rest := by
  obtain ⟨mid, hmid⟩ := Steps.log_prefix hb
  rw [← hmid, hrest, List.append_assoc] at he
  rw [← List.append_cancel_left he]
  simp

/-- A loop that has handled no `Stop` has ended only by breaking off. -/
theorem live_of_not_released {s s' : State (service wt fs (Serves K))} (h : Reachable s)
    (hs : Steps s s') (hlive : ¬ s.phase.ended)
    {rest : List (Env D × Msg (service wt fs (Serves K)))} (hrest : s'.log = s.log ++ rest)
    {key : XWalletKey} (hrel : ∀ e ∈ rest, ¬ Releases key e.2)
    (hbreak : ∀ b c, Steps s b → Step b c → Steps c s' → ¬ Breaks b c) : ¬ s'.phase.ended := by
  intro hended
  obtain ⟨b, c, hb, hbc, hc, hbroke⟩ | ⟨b, env, m, hb, hm, hlog, hstop⟩ :=
    ended_cases hs hlive hended
  · exact hbreak b c hb hbc hc hbroke
  · have hserving : b.phase.serving = true := by rw [hm]; rfl
    have hrun : b.server.running = true := running_of_serving (h.trans hb) rfl hserving
    cases hcmd : m.request.cmd.isStop with
    | true => exact hrel _ (handled_between hb hrest hlog) (.inl hcmd)
    | false =>
      have hgoes := step_stays_running wt hrun (m.request.input env) hcmd
      rw [show (step wt b.server (m.request.input env)).running = false from hstop] at hgoes
      cases hgoes

/-- Until it is released, a wallet stays exactly while no drop with its fingerprint
and other xpubs is handled and the loop does not break off. -/
theorem stays_iff_no_foreign_drop (wt : WalletThread) (fs : Fs) (K : HttpRequest D → Prop)
    (s s' : State (service wt fs (Serves K))) (rest : List (Env D × Msg (service wt fs (Serves K))))
    (f : String) (a : Arc) (inst : Instance D) (h : Reachable s) (hs : Steps s s')
    (hrest : s'.log = s.log ++ rest) (ha : s.server.multiWstate[f]? = some a)
    (hinst : s.server.arcs[a]? = some inst) (hrel : ∀ e ∈ rest, ¬ Releases inst.builtFrom e.2) :
    s'.server.multiWstate[f]? = some a ↔
      (∀ e ∈ rest, ¬ ForeignDrop inst.builtFrom e.2) ∧
        ∀ b c, Steps s b → Step b c → Steps c s' → ¬ Breaks b c := by
  have hw := wellFormed_server h
  obtain ⟨inst', hinst', -, hmf⟩ := hw.owner f a ha
  rw [hinst] at hinst'
  cases hinst'
  have hone : ∀ e ∈ rest, Spares f (e.2.request.input e.1) ↔ ¬ ForeignDrop inst.builtFrom e.2 := by
    intro e he
    obtain ⟨n, hn⟩ := List.mem_iff_getElem?.mp (hrest ▸ List.mem_append_right s.log he)
    rw [← hmf]
    exact spares_iff_not_foreign (h.trans hs) hn (hrel e he)
  constructor
  · intro ha'
    have hlive := live_of_registered (h.trans hs) ha'
    rw [server_eq_runLoop h hs hlive hrest, stays_iff wt hw ha] at ha'
    refine ⟨fun e he => (hone e he).mp (ha' _ (List.mem_map.mpr ⟨e, he, rfl⟩)), ?_⟩
    rintro b c - - hc ⟨-, hended, -⟩
    exact hlive (Steps.ended hc hended).1
  · rintro ⟨hall, hbreak⟩
    have hlive :=
      live_of_not_released h hs (live_of_registered h ha) hrest hrel hbreak
    rw [server_eq_runLoop h hs hlive hrest, stays_iff wt hw ha]
    intro i hi
    obtain ⟨e, he, rfl⟩ := List.mem_map.mp hi
    exact (hone e he).mpr (hall e he)

/-- A drop with other xpubs removes the wallet that was registered. -/
theorem Reference.removed :
    ∃ (s s' : State (Reference.system [Reference.request Reference.key .address,
        Reference.request Reference.otherXpubs .drop]))
      (rest : List _) (f : String) (a : Arc) (inst : Instance Reference.deps),
      Reachable s ∧ Steps s s' ∧
      s'.log = s.log ++ rest ∧ s.server.multiWstate[f]? = some a ∧
      s.server.arcs[a]? = some inst ∧ (∀ e ∈ rest, ¬ Releases inst.builtFrom e.2) ∧
      ¬ s'.phase.ended ∧ s'.server.multiWstate[f]? = none := by
  have hkey := Reference.request_key Reference.key rfl rfl rfl .address
  have hkey' := Reference.request_key Reference.otherXpubs rfl rfl rfl .drop
  have hacc := Reference.buildable Reference.key (by decide)
  obtain ⟨s, s', rest, a, inst, hrun⟩ :=
    removed_by_other (K := fun req => req ∈ [Reference.request Reference.key .address,
      Reference.request Reference.otherXpubs .drop]) (by simp) (by simp) rfl rfl hkey hkey' rfl
      (by decide) (hacc _)
  exact ⟨s, s', rest, _, a, inst, hrun⟩

theorem onlyHolderRemoves_fails :
    ¬ OnlyHolderRemoves (D := Reference.deps) ⟨Reference.config, Reference.tempDir⟩
      (fun _ => absent) (fun req => req ∈ [Reference.request Reference.key .address,
        Reference.request Reference.otherXpubs .drop]) := by
  intro hall
  obtain ⟨s, s', rest, f, a, inst, h, hs, hrest, ha, hinst, hrel, -, hgone⟩ := Reference.removed
  have hstays := hall s s' rest f a inst h hs hrest ha hinst hrel
  rw [hgone] at hstays
  cases hstays

/-- In that run a foreign drop was handled, and the thread goes on. -/
theorem stays_iff_no_foreign_drop_removed :
    ∃ (s s' : State (Reference.system [Reference.request Reference.key .address,
        Reference.request Reference.otherXpubs .drop]))
      (rest : List _) (f : String) (a : Arc) (inst : Instance Reference.deps),
      Reachable s ∧ Steps s s' ∧ s'.log = s.log ++ rest ∧ ¬ s'.phase.ended ∧
      s.server.multiWstate[f]? = some a ∧ s'.server.multiWstate[f]? = none ∧
      ∃ e ∈ rest, ForeignDrop inst.builtFrom e.2 := by
  obtain ⟨s, s', rest, f, a, inst, h, hs, hrest, ha, hinst, hrel, hlive, hgone⟩ :=
    Reference.removed
  have hiff := stays_iff_no_foreign_drop _ _ _ s s' rest f a inst h hs hrest ha hinst hrel
  refine ⟨s, s', rest, f, a, inst, h, hs, hrest, hlive, ha, hgone, ?_⟩
  by_contra hnone
  push Not at hnone
  have hstays := hiff.mpr ⟨hnone, fun b c _ _ hc hbreak => hlive (Steps.ended hc hbreak.2.1).1⟩
  rw [hgone] at hstays
  cases hstays

end RgbNodeApi

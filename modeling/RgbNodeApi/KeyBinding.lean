import RgbNodeApi.Rounds

/-!
# Key binding

Whose wallet a request's operations run on. The registry is keyed by the
fingerprint alone, and a registration is answered `Ok` when the fingerprint is
taken, so a request gets the wallet of other xpubs exactly where the workload
has two requests with one fingerprint and different xpubs.
-/
namespace RgbNodeApi

open Files Actor

variable {D : Deps} {wt : WalletThread} {fs : Fs} {K : HttpRequest D → Prop}

/-- Every wallet command of a request so far ran on a wallet that `new_ro_wallet`
built from exactly the values of the request's headers. -/
def KeyBound (s : State (service wt fs (Serves K))) : Prop :=
  ∀ (n : Nat) (env : Env D) (r : Request D) (i c : Nat) (req : HttpRequest D) (key : XWalletKey),
    s.log[n]? = some (env, ⟨r, some ⟨i, .http req, c⟩⟩) → req.key = some key →
    r.cmd.isRouted = true →
    ∀ a ∈ servedBy wt (runLoop wt (.start fs) (history (s.log.take n))) (r.input env),
      ∃ inst : Instance D,
        (runLoop wt (.start fs) (history (s.log.take n))).arcs[a]? = some inst ∧
        inst.builtFrom = key

/-- One fingerprint, one pair of xpubs: what a request registers agrees with the
headers of every request that works on the same fingerprint. -/
def OneKey (K : HttpRequest D → Prop) : Prop :=
  ∀ (req req' : HttpRequest D) (key key' : XWalletKey), K req → K req' →
    req.endpoint.isDrop = false → req'.endpoint.Works → req.key = some key →
    req'.key = some key' → key.masterFingerprint = key'.masterFingerprint → key = key'

/-- What a wallet command was sent for. -/
theorem routed_sent {s : State (service wt fs (Serves K))} (h : Reachable s) {n : Nat}
    {env : Env D} {r : Request D} {i c : Nat} {req : HttpRequest D} {key : XWalletKey}
    (hn : s.log[n]? = some (env, ⟨r, some ⟨i, .http req, c⟩⟩)) (hkey : req.key = some key)
    (hr : r.cmd.isRouted = true) :
    K req ∧ req.endpoint.Works ∧ r.ido = some key.masterFingerprint ∧
      Added (s.log.take n) i req key := by
  obtain ⟨hk, -⟩ | ⟨k, hk, hsent⟩ := logged_sent h hn
  · cases hk
  · cases hk
    cases hsent with
    | register _ _ _ => cases hr
    | drop _ _ _ => cases hr
    | work r hK hkey' hd hw hadd hido _ =>
      rw [hkey] at hkey'
      cases hkey'
      exact ⟨hK, hw, hido, hadd⟩

theorem keyBound_of_oneKey (hone : OneKey K) {s : State (service wt fs (Serves K))}
    (h : Reachable s) : KeyBound s := by
  intro n env r i c req key hn hkey hr a ha
  obtain ⟨hK, hw, hido, -⟩ := routed_sent h hn hkey hr
  obtain ⟨-, f, hf, hreg⟩ := mem_servedBy_routed (i := r.input env) hr ha
  have hmf : key.masterFingerprint = f := Option.some.inj (hido.symm.trans hf)
  obtain ⟨inst, req₀, hinst, hK₀, hd₀, hkey₀, hmf₀⟩ := built_for_request h hreg
  have heq := hone req₀ req _ key hK₀ hK hd₀ hw hkey₀ hkey (hmf₀.trans hmf.symm)
  exact ⟨inst, hinst, heq⟩

/-- Two requests with one fingerprint: the second one's operation runs on the wallet
that was built for the first. -/
theorem served_by_first {req req' : HttpRequest D} {key key' : XWalletKey} (hK : K req)
    (hK' : K req') (hd : req.endpoint.isDrop = false) (hw : req'.endpoint.Works)
    (hkey : req.key = some key) (hkey' : req'.key = some key')
    (hmf : key.masterFingerprint = key'.masterFingerprint)
    (hacc : Buildable (D := D) wt key fs) :
    ∃ (s : State (service wt fs (Serves K))) (n : Nat) (env : Env D) (r : Request D) (i c : Nat)
      (a : Arc) (inst : Instance D), Reachable s ∧
      s.log[n]? = some (env, ⟨r, some ⟨i, .http req', c⟩⟩) ∧ r.cmd.isRouted = true ∧
      a ∈ servedBy wt (runLoop wt (.start fs) (history (s.log.take n))) (r.input env) ∧
      (runLoop wt (.start fs) (history (s.log.take n))).arcs[a]? = some inst ∧
      inst.builtFrom = key := by
  obtain ⟨s₁, p₁, w, hs₁, hcalm₁, -, -, hrun₁, hreg₁, harcs₁⟩ :=
    first_registered wt fs hK hkey hd hacc
  obtain ⟨env, -⟩ := hacc
  have hpresent : s₁.server.multiWstate[key'.masterFingerprint]? = some 0 := by
    rw [hreg₁, ← hmf, getElem?_insert_self]
  obtain ⟨hans₂, hstep₂⟩ := register_present wt hrun₁ env hpresent
  obtain ⟨s₂, p₂, c₂, hs₂, hcalm₂, ht₂, hops, hserver₂, hlog₂⟩ :=
    calm_register hcalm₁ hK' hkey' hw.not_drop hrun₁ hans₂
  rw [hstep₂] at hserver₂
  have ht : s₂.tasks[s₁.tasks.length]? = some ⟨.http req', .running p₂⟩ := by
    rw [ht₂, List.getElem?_concat_length]
  have hrun₂ : s₂.server.running = true := by rw [hserver₂, hrun₁]
  obtain ⟨s₃, r, c, hs₃, -, hido, hr, -, hlog₃⟩ := calm_operate hcalm₂ ht (hops.asks hw) hrun₂ env
  have hreach₂ : Reachable s₂ := hs₁.trans hs₂
  have hst : runLoop wt (.start fs) (history s₂.log) = s₁.server := by
    rw [← server_eq_history hreach₂ hcalm₂.live, hserver₂]
  have htake : s₃.log.take s₂.log.length = s₂.log := by rw [hlog₃, List.take_left]
  refine ⟨s₃, s₂.log.length, env, r, s₁.tasks.length, c, 0, ⟨key, w⟩, hreach₂.trans hs₃, ?_, hr,
    ?_, ?_, rfl⟩
  · rw [hlog₃, List.getElem?_concat_length]
  · rw [htake, hst, servedBy_routed hr hrun₁ hido hpresent]
    exact List.mem_singleton.mpr rfl
  · rw [htake, hst, harcs₁]
    rfl

/-- What a wallet is recorded as built from are the values that an earlier command
called `new_ro_wallet` with. -/
theorem constructed_before {s : State (service wt fs (Serves K))} {n : Nat} {a : Arc}
    {inst : Instance D}
    (h : (runLoop wt (.start fs) (history (s.log.take n))).arcs[a]? = some inst) :
    ∃ (m : Nat) (env : Env D) (msg : Msg (service wt fs (Serves K))), m < n ∧
      s.log[m]? = some (env, msg) ∧
      Constructs wt (runLoop wt (.start fs) (history (s.log.take m))) (msg.request.input env)
        inst.builtFrom a := by
  obtain ⟨pre, i, post, hpre, hmade⟩ := runLoop_constructs wt fs _ h
  have hget : (history (s.log.take n))[pre.length]? = some i := by
    rw [hpre, List.getElem?_append_right (Nat.le_refl _), Nat.sub_self]
    rfl
  have htake : (history (s.log.take n)).take pre.length = pre := by rw [hpre, List.take_left]
  rw [history, List.getElem?_map] at hget
  obtain ⟨⟨env, msg⟩, hmsg, rfl⟩ := Option.map_eq_some_iff.mp hget
  rw [List.getElem?_take] at hmsg
  split at hmsg
  · rename_i hlt
    rw [← history_take, List.take_take, Nat.min_eq_left (Nat.le_of_lt hlt)] at htake
    refine ⟨pre.length, env, msg, hlt, hmsg, ?_⟩
    rw [htake]
    exact hmade
  · cases hmsg

/-- Requests always get the wallet of their own headers when no two requests have
one fingerprint and different xpubs, and only then if the wallets can be built on the
files that are there at the start. What a wallet was built from is what
`new_ro_wallet` was called with for it. -/
theorem key_binding (wt : WalletThread) (fs : Fs) (K : HttpRequest D → Prop) :
    (OneKey K → ∀ s : State (service wt fs (Serves K)), Reachable s → KeyBound s) ∧
    ((∀ req key, K req → req.endpoint.isDrop = false → req.key = some key →
      Buildable (D := D) wt key fs) →
      (∀ s : State (service wt fs (Serves K)), Reachable s → KeyBound s) → OneKey K) ∧
    ∀ (s : State (service wt fs (Serves K))) (n : Nat) (a : Arc) (inst : Instance D),
      (runLoop wt (.start fs) (history (s.log.take n))).arcs[a]? = some inst →
      ∃ (m : Nat) (env : Env D) (msg : Msg (service wt fs (Serves K))), m < n ∧
        s.log[m]? = some (env, msg) ∧
        Constructs wt (runLoop wt (.start fs) (history (s.log.take m))) (msg.request.input env)
          inst.builtFrom a := by
  refine ⟨?_, ?_, fun s n a inst h => constructed_before h⟩
  · intro hone s h
    exact keyBound_of_oneKey hone h
  · intro hacc hall req req' key key' hK hK' hd hw hkey hkey' hmf
    obtain ⟨s, n, env, r, i, c, a, inst, h, hn, hr, ha, hinst, hbuilt⟩ :=
      served_by_first hK hK' hd hw hkey hkey' hmf (hacc req key hK hd hkey)
    obtain ⟨inst', hinst', hbuilt'⟩ := hall s h n env r i c req' key' hn hkey' hr a ha
    rw [hinst] at hinst'
    cases hinst'
    exact hbuilt.symm.trans hbuilt'

/-- A request with another wallet's fingerprint and xpubs of its own gets that wallet. -/
theorem key_binding_fails :
    ¬ ∀ s : State (Reference.system [Reference.request Reference.key .address,
        Reference.request Reference.otherXpubs .address]), Reachable s → KeyBound s := by
  intro hall
  have hkey := Reference.request_key Reference.key rfl rfl rfl .address
  have hkey' := Reference.request_key Reference.otherXpubs rfl rfl rfl .address
  have hacc := Reference.buildable Reference.key (by decide)
  obtain ⟨s, n, env, r, i, c, a, inst, h, hn, hr, ha, hinst, hbuilt⟩ :=
    served_by_first (K := fun req => req ∈ [Reference.request Reference.key .address,
      Reference.request Reference.otherXpubs .address]) (by simp) (by simp) rfl
      (show Endpoint.Works .address from trivial) hkey hkey' rfl (hacc _)
  obtain ⟨inst', hinst', hbuilt'⟩ := hall s h n env r i c _ _ hn hkey' hr a ha
  rw [hinst] at hinst'
  cases hinst'
  rw [hbuilt] at hbuilt'
  exact absurd hbuilt' (by decide)

end RgbNodeApi

import RgbNodeApi.KeyBinding

/-!
# The dead-thread answer

A registration and the operation it is for are two messages. An operation is
discarded, and its client told that the thread is dead, exactly when the
fingerprint was dropped between the two and not registered anew.
-/
namespace RgbNodeApi

open Files Actor History

variable {D : Deps} {wt : WalletThread} {fs : Fs} {K : HttpRequest D → Prop}

/-- A fingerprint outlasts some commands when none of them drops it, or when it is
built again after the last one that does. -/
def Outlasts (wt : WalletThread) (st : ThreadState D) (f : String) (is : List (Input D)) : Prop :=
  (∀ i ∈ is, Spares f i) ∨ ∃ a, Since (Builds wt st f a) (Spares f) is

theorem outlasts_iff {st : ThreadState D} (hw : WellFormed st) {f : String} {a : Arc}
    (ha : st.multiWstate[f]? = some a) (is : List (Input D)) :
    (∃ b, (runLoop wt st is).multiWstate[f]? = some b) ↔ Outlasts wt st f is := by
  constructor
  · rintro ⟨b, hb⟩
    obtain hs | ⟨-, hall⟩ := (runLoop_entry_iff wt st is hw f b).mp hb
    · exact .inr ⟨b, hs⟩
    · exact .inl hall
  · rintro (hall | ⟨b, hs⟩)
    · exact ⟨a, (runLoop_entry_iff wt st is hw f a).mpr (.inr ⟨ha, hall⟩)⟩
    · exact ⟨b, (runLoop_entry_iff wt st is hw f b).mpr (.inl hs)⟩

/-- Every wallet command of a request was answered with its own value, and while the
thread runs no request waits for one on a closed channel. -/
structure NoDeadAnswer (s : State (service wt fs (Serves K))) : Prop where
  answered : ∀ (n : Nat) (env : Env D) (r : Request D) (i c : Nat) (req : HttpRequest D)
    (key : XWalletKey), s.log[n]? = some (env, ⟨r, some ⟨i, .http req, c⟩⟩) →
    req.key = some key → r.cmd.isRouted = true →
    (answer wt (runLoop wt (.start fs) (history (s.log.take n))) (r.input env)).isSome = true
  waiting : ¬ s.phase.ended → ∀ (i : Nat) (req : HttpRequest D) (key : XWalletKey)
    (r : Request D) (c : Nat), req.key = some key → r.cmd.isRouted = true →
    ¬ ClosedOn s i (.http req) r c

/-- Between the `Ok` of a request's registration and each of its wallet commands the
fingerprint was not dropped, or it was built anew since. -/
def Undisturbed (s : State (service wt fs (Serves K))) : Prop :=
  ∀ (m n : Nat) (env : Env D) (r : Request D) (i c c' : Nat) (req : HttpRequest D)
    (key : XWalletKey) (b : Bool),
    Answered s.log m ⟨i, .http req, c⟩ (registration key) (some (.ok b)) → m < n →
    s.log[n]? = some (env, ⟨r, some ⟨i, .http req, c'⟩⟩) → req.key = some key →
    r.cmd.isRouted = true →
    Outlasts wt (runLoop wt (.start fs) (history (s.log.take (m + 1)))) key.masterFingerprint
      (between s.log m n)

/-- A wallet command that comes after its registration is answered exactly when the
fingerprint outlasts what is in between. -/
theorem answered_iff_outlasts {s : State (service wt fs (Serves K))} (h : Reachable s) {m n : Nat}
    {env : Env D} {r : Request D} {i c c' : Nat} {req : HttpRequest D} {key : XWalletKey}
    {b : Bool} (hm : Answered s.log m ⟨i, .http req, c⟩ (registration key) (some (.ok b)))
    (hlt : m < n) (hn : s.log[n]? = some (env, ⟨r, some ⟨i, .http req, c'⟩⟩))
    (hkey : req.key = some key) (hr : r.cmd.isRouted = true) :
    (answer wt (runLoop wt (.start fs) (history (s.log.take n))) (r.input env)).isSome = true ↔
      Outlasts wt (runLoop wt (.start fs) (history (s.log.take (m + 1)))) key.masterFingerprint
        (between s.log m n) := by
  obtain ⟨-, -, hido, -⟩ := routed_sent h hn hkey hr
  obtain ⟨a, ha⟩ := registered_after_ok hm
  have hw := wellFormed_history (s.log.take (m + 1))
  rw [answer_routed (wellFormed_history _) (i := r.input env) hr hido, runLoop_between s.log hlt]
  exact outlasts_iff hw ha _

/-- A drop that is handled between a request's registration and its wallet command. -/
theorem discarded_after_drop {req req' : HttpRequest D} {key key' : XWalletKey} (hK : K req)
    (hK' : K req') (hw : req.endpoint.Works) (hd' : req'.endpoint.isDrop = true)
    (hkey : req.key = some key) (hkey' : req'.key = some key')
    (hmf : key'.masterFingerprint = key.masterFingerprint) (hacc : Buildable (D := D) wt key fs) :
    ∃ s : State (service wt fs (Serves K)), Reachable s ∧ ¬ s.phase.ended ∧ ¬ NoDeadAnswer s := by
  obtain ⟨s₁, p₁, w, hs₁, hcalm₁, ht₁, hops, hrun₁, -, -⟩ :=
    first_registered wt fs hK hkey hw.not_drop hacc
  obtain ⟨env, -⟩ := hacc
  obtain ⟨s₂, c₂, hs₂, hcalm₂, ht₂, hserver₂, -⟩ := calm_remove hcalm₁ hK' hkey' hd' hrun₁ env
  have hrun₂ : s₂.server.running = true := by
    rw [hserver₂]
    exact hrun₁
  have ht : s₂.tasks[0]? = some ⟨.http req, .running p₁⟩ := by
    obtain ⟨t, ht₂⟩ := ht₂
    rw [ht₂, ht₁]
    rfl
  obtain ⟨s₃, r, c, hs₃, hcalm₃, hido, hr, -, hlog₃⟩ :=
    calm_operate hcalm₂ ht (hops.asks hw) hrun₂ env
  have hreach₂ : Reachable s₂ := hs₁.trans hs₂
  refine ⟨s₃, hreach₂.trans hs₃, by simp [hcalm₃.phase, Phase.ended], fun hd => ?_⟩
  have hn : s₃.log[s₂.log.length]? = some (env, ⟨r, some ⟨0, .http req, c⟩⟩) := by
    rw [hlog₃, List.getElem?_concat_length]
  have hsome := hd.answered _ _ _ _ _ _ _ hn hkey hr
  rw [answer_routed (wellFormed_history _) (i := r.input env) hr hido, hlog₃, List.take_left,
    ← server_eq_history hreach₂ hcalm₂.live, hserver₂, ← hmf] at hsome
  obtain ⟨a, ha⟩ := hsome
  rw [getElem?_erase_self] at ha
  cases ha

/-- A request is told that the thread is dead, while it runs, exactly when its wallet
was dropped between its registration and its wallet command. -/
theorem noDeadAnswer_iff (wt : WalletThread) (fs : Fs) (K : HttpRequest D → Prop)
    (s : State (service wt fs (Serves K))) (h : Reachable s) : NoDeadAnswer s ↔ Undisturbed s := by
  constructor
  · intro hd m n env r i c c' req key b hm hlt hn hkey hr
    rw [← answered_iff_outlasts h hm hlt hn hkey hr]
    exact hd.answered n env r i c' req key hn hkey hr
  · intro hu
    have hans : ∀ (n : Nat) (env : Env D) (r : Request D) (i c : Nat) (req : HttpRequest D)
        (key : XWalletKey), s.log[n]? = some (env, ⟨r, some ⟨i, .http req, c⟩⟩) →
        req.key = some key → r.cmd.isRouted = true →
        (answer wt (runLoop wt (.start fs) (history (s.log.take n))) (r.input env)).isSome =
          true := by
      intro n env r i c req key hn hkey hr
      obtain ⟨-, -, -, m, c', b, hadd⟩ := routed_sent h hn hkey hr
      obtain ⟨hlt, hm⟩ := hadd.of_take
      rw [answered_iff_outlasts h hm hlt hn hkey hr]
      exact hu m n env r i c' c req key b hm hlt hn hkey hr
    refine ⟨hans, ?_⟩
    intro hrun i req key r c hkey hr hclosed
    obtain hended | ⟨n, env, hn, hnone⟩ := closed_cases h hclosed
    · exact hrun hended
    · have hsome := hans n env r i c req key hn hkey hr
      rw [after_eq_runLoop] at hnone
      rw [show answer wt _ (r.input env) = none from hnone] at hsome
      cases hsome

/-- A request for an address whose wallet is dropped by another request. -/
theorem Reference.discarded :
    ∃ s : State (Reference.system [Reference.request Reference.key .address,
        Reference.request Reference.otherXpubs .drop]),
      Reachable s ∧ ¬ s.phase.ended ∧ ¬ NoDeadAnswer s := by
  have hkey := Reference.request_key Reference.key rfl rfl rfl .address
  have hkey' := Reference.request_key Reference.otherXpubs rfl rfl rfl .drop
  have hacc := Reference.buildable Reference.key (by decide)
  exact discarded_after_drop (K := fun req => req ∈ [Reference.request Reference.key .address,
    Reference.request Reference.otherXpubs .drop]) (by simp) (by simp)
    (show Endpoint.Works .address from trivial) rfl hkey hkey' rfl (hacc _)

theorem dead_answer_while_running :
    ¬ ∀ s : State (Reference.system [Reference.request Reference.key .address,
        Reference.request Reference.otherXpubs .drop]),
      Reachable s → ¬ s.phase.ended → NoDeadAnswer s := by
  intro hall
  obtain ⟨s, h, hrun, hdead⟩ := Reference.discarded
  exact hdead (hall s h hrun)

/-- In that run the drop came in between. -/
theorem noDeadAnswer_iff_dropped :
    ∃ s : State (Reference.system [Reference.request Reference.key .address,
      Reference.request Reference.otherXpubs .drop]), Reachable s ∧ ¬ Undisturbed s := by
  obtain ⟨s, h, -, hdead⟩ := Reference.discarded
  exact ⟨s, h, fun hu => hdead ((noDeadAnswer_iff _ _ _ s h).mpr hu)⟩

end RgbNodeApi

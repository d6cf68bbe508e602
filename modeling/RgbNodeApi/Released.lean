import RgbNodeApi.Custody

/-!
# Unregistered wallets

A handle that is no longer registered stays so, and no command works on its wallet:
a wallet that is registered again under the same fingerprint is another one.
-/
namespace RgbNodeApi

open Files Actor

variable {D : Deps} {wt : WalletThread}

/-- A wallet that was made and is not registered. -/
structure Released (st : ThreadState D) (a : Arc) : Prop where
  made : a < st.arcs.length
  unregistered : ∀ f : String, st.multiWstate[f]? ≠ some a

theorem onArc_other {α : Type} (st : ThreadState D) {a b : Arc} (hab : b ≠ a) (m : WalletM D α) :
    (st.onArc b m).2.arcs[a]? = st.arcs[a]? := by
  unfold ThreadState.onArc
  cases st.arcs[b]? with
  | none => rfl
  | some inst => exact List.getElem?_set_ne hab

theorem refreshAll_other (env : Env D) (st : ThreadState D) {a : Arc} {l : List (String × Arc)}
    (hl : ∀ e ∈ l, e.2 ≠ a) : (refreshAll env st l).arcs[a]? = st.arcs[a]? := by
  induction l generalizing st with
  | nil => rfl
  | cons e rest ih =>
    rw [refreshAll, ih _ fun e' he' => hl e' (List.mem_cons_of_mem _ he'),
      onArc_other st (hl e List.mem_cons_self)]

/-- Commands run on registered wallets. -/
theorem mem_servedBy {st : ThreadState D} {i : Input D} {a : Arc} (ha : a ∈ servedBy wt st i) :
    ∃ f : String, st.multiWstate[f]? = some a := by
  obtain ⟨env, ido, T, cmd⟩ := i
  simp only [servedBy] at ha
  split at ha
  · induction T, cmd using WalletCmd.kinds with
    | stop => cases ha
    | walletInfo => cases ha
    | dropWallet => cases ha
    | refresh =>
      obtain ⟨⟨f, b⟩, hmem, rfl⟩ := List.mem_map.mp ha
      exact ⟨f, Std.TreeMap.mem_toList_iff_getElem?_eq_some.mp hmem⟩
    | routed T cmd hrouted =>
      cases process_routing wt env ido st cmd hrouted with
      | discarded _ hout => simp [hout] at ha
      | served f b _ hb hout =>
        rw [hout] at ha
        exact ⟨f, (List.mem_singleton.mp ha) ▸ hb⟩
    | add col van fp =>
      cases process_adding wt env ido st ⟨col, van, fp⟩ with
      | present _ _ hout => simp [hout] at ha
      | failed _ _ _ _ hout => simp [hout] at ha
      | built _ _ _ _ hout => simp [hout] at ha
  · cases ha

/-- A command works on no other wallets than those it is said to. -/
theorem step_arcs {st : ThreadState D} {i : Input D} {a : Arc} (hlt : a < st.arcs.length)
    (ha : a ∉ servedBy wt st i) : (step wt st i).arcs[a]? = st.arcs[a]? := by
  cases hr : st.running with
  | false => rw [step_stopped wt st i hr]
  | true =>
    obtain ⟨env, ido, T, cmd⟩ := i
    simp only [servedBy, step, hr, if_true] at ha ⊢
    induction T, cmd using WalletCmd.kinds with
    | stop => rfl
    | walletInfo => rfl
    | dropWallet => rfl
    | refresh =>
      refine refreshAll_other env st fun e he hea => ha ?_
      exact List.mem_map.mpr ⟨e, he, hea⟩
    | routed T cmd hrouted =>
      cases process_routing wt env ido st cmd hrouted with
      | discarded _ hout => rw [hout]
      | served f b _ _ hout =>
        rw [hout] at ha ⊢
        exact onArc_other st (fun hba => ha (List.mem_singleton.mpr hba.symm)) _
    | add col van fp =>
      cases process_adding wt env ido st ⟨col, van, fp⟩ with
      | present _ _ hout => rw [hout]
      | failed _ _ _ _ hout => rw [hout]
      | built _ _ _ _ hout =>
        rw [hout]
        exact List.getElem?_append_left hlt

theorem Released.not_served {st : ThreadState D} {a : Arc} (h : Released st a) (i : Input D) :
    a ∉ servedBy wt st i := by
  intro ha
  obtain ⟨f, hf⟩ := mem_servedBy ha
  exact h.unregistered f hf

/-- An unregistered wallet stays unregistered: handles are never reused. -/
theorem Released.step {st : ThreadState D} {a : Arc} (h : Released st a) (i : Input D) :
    Released (step wt st i) a := by
  cases hr : st.running with
  | false => rwa [step_stopped wt st i hr]
  | true =>
    cases step_running wt st i hr with
    | stop _ _ hst =>
      rw [hst]
      exact ⟨h.made, fun f hf => by simp at hf⟩
    | drop id _ _ _ hst =>
      rw [hst]
      refine ⟨h.made, fun f hf => h.unregistered f ?_⟩
      by_cases hne : f = id
      · simp [hne] at hf
      · rwa [getElem?_erase_ne _ hne] at hf
    | build key w fs _ _ _ _ _ _ hst =>
      rw [hst]
      have hmade : a < (st.arcs ++ [(⟨key, w⟩ : Instance D)]).length := by
        rw [List.length_append]
        exact Nat.lt_add_right _ h.made
      refine ⟨hmade, fun f hf => ?_⟩
      by_cases hne : f = key.masterFingerprint
      · simp only [hne, getElem?_insert_self, Option.some.injEq] at hf
        exact absurd h.made (by rw [hf]; exact Nat.lt_irrefl _)
      · exact h.unregistered f (by rwa [getElem?_insert_ne _ _ hne] at hf)
    | keep _ _ _ hsame =>
      refine ⟨hsame.arcs_length ▸ h.made, fun f => ?_⟩
      rw [hsame.multiWstate]
      exact h.unregistered f

theorem Released.runLoop {st : ThreadState D} {a : Arc} (h : Released st a) (is : List (Input D)) :
    Released (runLoop wt st is) a := by
  induction is generalizing st with
  | nil => exact h
  | cons i rest ih => exact ih (h.step i)

variable {fs : Fs} {K : HttpRequest D → Prop}

/-- Once a wallet is not registered any more, no command of any later run works on
it, its state stays what it was, and it is never registered again. -/
theorem released_never_used {s s' : State (service wt fs (Serves K))} (h : Reachable s)
    (hs : Steps s s') {a : Arc} (ha : Released s.server a) :
    Released s'.server a ∧ s'.server.arcs[a]? = s.server.arcs[a]? ∧
    ∀ (n : Nat) (env : Env D) (m : Msg (service wt fs (Serves K))), s.log.length ≤ n →
      s'.log[n]? = some (env, m) →
        a ∉ servedBy wt (runLoop wt (.start fs) (history (s'.log.take n)))
          (m.request.input env) := by
  obtain ⟨hrel, harc⟩ : Released s'.server a ∧ s'.server.arcs[a]? = s.server.arcs[a]? := by
    apply Steps.server_holds hs
      (I := fun st => Released st a ∧ st.arcs[a]? = s.server.arcs[a]?)
    · rintro e - st ⟨hst, heq⟩
      exact ⟨hst.step _, (step_arcs hst.made (hst.not_served _)).trans heq⟩
    · rintro st ⟨hst, heq⟩
      exact ⟨⟨hst.made, fun f hf => by simp [ThreadState.leftover] at hf⟩, heq⟩
    · rintro st _ ⟨fs', rfl⟩ ⟨hst, heq⟩
      exact ⟨⟨hst.made, hst.unregistered⟩, heq⟩
    · exact ⟨ha, rfl⟩
  refine ⟨hrel, harc, fun n env m hn hm => ?_⟩
  have hlive : ¬ s.phase.ended := by
    intro hended
    rw [(Steps.ended hs hended).2] at hm
    exact absurd (List.getElem?_eq_some_iff.mp hm).1 (Nat.not_lt.mpr hn)
  obtain ⟨rest, hrest⟩ := Steps.log_prefix hs
  have htake : s'.log.take n = s.log ++ rest.take (n - s.log.length) := by
    rw [← hrest, List.take_append, List.take_of_length_le hn]
  have hrun : Released (runLoop wt (.start fs) (history (s'.log.take n))) a := by
    rw [htake, history_append, runLoop_append, ← server_eq_history h hlive]
    exact ha.runLoop _
  exact hrun.not_served _

/-- A wallet is made, dropped, and made again under a new handle. -/
theorem Reference.remade :
    ∃ s s' : State (Reference.system [Reference.request Reference.key .address,
      Reference.request Reference.key .drop]), Reachable s ∧ Steps s s' ∧ Released s.server 0 ∧
      s'.server.multiWstate[Reference.key.masterFingerprint]? = some 1 := by
  have hkey := Reference.request_key Reference.key rfl rfl rfl .address
  have hkey' := Reference.request_key Reference.key rfl rfl rfl .drop
  have hacc := Reference.buildable Reference.key (by decide)
  obtain ⟨s₁, p₁, w, hs₁, hcalm₁, -, -, hrun₁, hreg₁, harcs₁⟩ :=
    first_registered ⟨Reference.config, Reference.tempDir⟩ (fun _ => absent)
      (K := fun req => req ∈ [Reference.request Reference.key .address,
        Reference.request Reference.key .drop]) (by simp) hkey rfl (hacc _)
  obtain ⟨s₂, c₂, hs₂, hcalm₂, -, hserver₂, -⟩ :=
    calm_remove hcalm₁ (by simp) hkey' rfl hrun₁ Reference.world
  have hrun₂ : s₂.server.running = true := by rw [hserver₂, hrun₁]
  have harcs₂ : s₂.server.arcs.length = 1 := by rw [hserver₂, harcs₁]; rfl
  have hreg₂ : ∀ f : String, s₂.server.multiWstate[f]? = none := by
    intro f
    rw [hserver₂]
    simp only [hreg₁]
    by_cases hf : f = Reference.key.masterFingerprint
    · rw [hf, getElem?_erase_self]
    · rw [getElem?_erase_ne _ hf, getElem?_insert_ne _ _ hf]
      simp
  obtain ⟨env, w', hans, -, hreg, -⟩ := register_absent s₂.server hrun₂ (hacc _) (hreg₂ _)
  obtain ⟨s₃, p₃, c₃, hs₃, -, -, -, hserver₃, -⟩ :=
    calm_register hcalm₂ (by simp) hkey rfl hrun₂ hans
  refine ⟨s₂, s₃, hs₁.trans hs₂, hs₃, ⟨?_, fun f => ?_⟩, ?_⟩
  · rw [harcs₂]
    exact Nat.one_pos
  · rw [hreg₂ f]
    simp
  · rw [hserver₃, hreg, harcs₂, getElem?_insert_self]

theorem released_never_used_remade :
    ∃ s s' : State (Reference.system [Reference.request Reference.key .address,
      Reference.request Reference.key .drop]), Reachable s ∧ Steps s s' ∧
      s'.server.multiWstate[Reference.key.masterFingerprint]? = some 1 ∧
      s'.server.arcs[0]? = s.server.arcs[0]? ∧ Released s'.server 0 := by
  obtain ⟨s, s', h, hs, hrel, hreg⟩ := Reference.remade
  obtain ⟨hrel', harc, -⟩ := released_never_used h hs hrel
  exact ⟨s, s', h, hs, hreg, harc, hrel'⟩

end RgbNodeApi

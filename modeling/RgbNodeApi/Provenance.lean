import RgbNodeApi.HttpSessions
import RgbNodeApi.Registry

/-!
# Where the wallets come from

Every wallet was built by a registration in the history, and every registration
was sent for the headers of a request that works on a wallet. An operation runs
on the wallet that is registered for the fingerprint it is addressed to, and is
answered exactly when there is one.
-/
namespace RgbNodeApi

open Files Actor History

variable {D : Deps} (wt : WalletThread)

/-- The wallets that the handling of a command runs an operation on. -/
def servedBy (st : ThreadState D) (i : Input D) : List Arc :=
  if st.running then (process wt i.env i.ido st i.cmd).served else []

/-- An operation always sends its result. -/
theorem handleWalletCmd_replies (tempDir : Path) (env : Env D) (id : String) {T : Option Payload}
    (cmd : WalletCmd D T) (h : cmd.isRouted = true) :
    Footprint.Returns (fun r => r.isSome = true) (handleWalletCmd tempDir env id cmd) := by
  cases cmd with
  | sendBegin req =>
    change Footprint.Returns _ (handleSendBegin env req)
    unfold handleSendBegin
    cases req.expiration env.now <;> exact fun s => rfl
  | receive kind req => cases kind <;> exact fun s => rfl
  | _ => first | exact fun s => rfl | cases h

section

variable {wt} {st : ThreadState D}

/-- An operation runs on the wallet registered for its id and on no other. -/
theorem mem_servedBy_routed {i : Input D} (hi : i.cmd.isRouted = true) {a : Arc}
    (ha : a ∈ servedBy wt st i) :
    st.running = true ∧ ∃ f, i.ido = some f ∧ st.multiWstate[f]? = some a := by
  obtain ⟨env, ido, T, cmd⟩ := i
  simp only [servedBy] at ha
  split at ha
  · rename_i hrun
    cases process_routing wt env ido st cmd hi with
    | discarded _ h => simp [h] at ha
    | served f b hido hf h =>
      simp only [h, List.mem_singleton] at ha
      exact ⟨hrun, f, hido, by rw [ha, hf]⟩
  · simp at ha

theorem servedBy_routed {i : Input D} (hi : i.cmd.isRouted = true) (hr : st.running = true)
    {f : String} {a : Arc} (hf : i.ido = some f) (ha : st.multiWstate[f]? = some a) :
    servedBy wt st i = [a] := by
  obtain ⟨env, ido, T, cmd⟩ := i
  change ido = some f at hf
  subst hf
  simp only [servedBy, hr, if_true]
  cases process_routing wt env (some f) st cmd hi with
  | discarded hd => simp [hd f rfl] at ha
  | served g b hg hb h =>
    cases hg
    rw [ha] at hb
    cases hb
    rw [h]

/-- An operation is answered when its wallet is registered, and discarded otherwise. -/
theorem answer_routed (hw : WellFormed st) {i : Input D} (hi : i.cmd.isRouted = true) {f : String}
    (hf : i.ido = some f) :
    (answer wt st i).isSome = true ↔ ∃ a : Arc, st.multiWstate[f]? = some a := by
  obtain ⟨env, ido, T, cmd⟩ := i
  change ido = some f at hf
  subst hf
  cases hr : st.running with
  | false => simp [answer, hr, hw.stopped hr f]
  | true =>
    simp only [answer, hr, if_true]
    cases process_routing wt env (some f) st cmd hi with
    | discarded hd h => simp [h, hd f rfl]
    | served g a hg ha h =>
      cases hg
      obtain ⟨inst, hinst, -⟩ := hw.owner f a ha
      have hsome := handleWalletCmd_replies wt.tempDir env f cmd hi (inst.state, st.fs)
      simpa [h, ha, ThreadState.onArc, hinst] using hsome

/-- After a registration that was answered `Ok` the fingerprint is registered. -/
theorem registered_of_ok (env : Env D) (key : XWalletKey) {b : Bool}
    (h : answer wt st ((registration key).input env) = some (.ok b)) :
    ∃ a : Arc, (step wt st ((registration key).input env)).multiWstate[key.masterFingerprint]? =
      some a := by
  cases hr : st.running with
  | false => simp [answer, hr] at h
  | true =>
    simp only [answer, step, hr, if_true, registration, Request.input] at h ⊢
    cases process_adding wt env none st key with
    | present arc ha hout => exact ⟨arc, by rw [hout, ha]⟩
    | failed err fs _ _ hout =>
      rw [hout] at h
      cases h
    | built w fs _ _ hout => exact ⟨st.arcs.length, by simp [hout]⟩

end

theorem length_arcs_step (st : ThreadState D) (i : Input D) :
    st.arcs.length ≤ (step wt st i).arcs.length := by
  cases hr : st.running with
  | false => rw [step_stopped wt st i hr]
  | true =>
    cases step_running wt st i hr with
    | stop _ _ h => rw [h]
    | drop _ _ _ _ h => rw [h]
    | build key w fs _ _ _ _ _ _ h => simp [h]
    | keep _ _ _ h =>
      have hl := congrArg List.length h.labels
      simp only [List.length_map] at hl
      omega

theorem length_arcs_runLoop (st : ThreadState D) (is : List (Input D)) :
    st.arcs.length ≤ (runLoop wt st is).arcs.length := by
  induction is generalizing st with
  | nil => exact Nat.le_refl _
  | cons i rest ih =>
    have hone := length_arcs_step wt st i
    have hrest := ih (step wt st i)
    rw [runLoop_cons]
    omega

/-- A wallet that is built gets a handle that was never used. -/
theorem builds_fresh {st : ThreadState D} {f : String} {a : Arc} {before : List (Input D)}
    {i : Input D} (h : Builds wt st f a before i) : st.arcs.length ≤ a := by
  obtain ⟨-, hb⟩ := h
  have hle := length_arcs_runLoop wt st before
  cases hr : (runLoop wt st before).running with
  | false => simp [builtBy, hr] at hb
  | true =>
    cases step_running wt _ i hr with
    | stop _ hb' => simp [hb] at hb'
    | drop _ _ _ hb' => simp [hb] at hb'
    | keep _ _ hb' => simp [hb] at hb'
    | build key w fs _ _ _ _ _ hb' =>
      rw [hb] at hb'
      cases hb'
      exact hle

/-- A loop that is still running has not been told to stop. -/
theorem not_stopped_of_running (st : ThreadState D) (is : List (Input D))
    (h : (runLoop wt st is).running = true) : ∀ i ∈ is, i.cmd.isStop = false := by
  induction is generalizing st with
  | nil => simp
  | cons i rest ih =>
    rw [runLoop_cons] at h
    have hrest := ih _ h
    have hi : i.cmd.isStop = false := by
      cases hr : (step wt st i).running with
      | false =>
        rw [runLoop_stopped wt _ rest hr, hr] at h
        cases h
      | true =>
        cases hst : st.running with
        | false =>
          rw [step_stopped wt st i hst, hst] at hr
          cases hr
        | true =>
          cases step_running wt st i hst with
          | stop _ _ hs => simp [hs] at hr
          | drop _ _ hs => exact hs
          | build _ _ _ _ _ hs => exact hs
          | keep _ hs => exact hs
    intro j hj
    rcases List.mem_cons.mp hj with rfl | hj
    · exact hi
    · exact hrest j hj

/-- A registered wallet stays, under its handle, exactly while it is spared. -/
theorem stays_iff {st : ThreadState D} (hw : WellFormed st) {f : String} {a : Arc}
    (ha : st.multiWstate[f]? = some a) (is : List (Input D)) :
    (runLoop wt st is).multiWstate[f]? = some a ↔ ∀ i ∈ is, Spares f i := by
  rw [runLoop_entry_iff wt st is hw f a]
  constructor
  · rintro (⟨pre, i, post, -, hb, -⟩ | ⟨-, hall⟩)
    · exact absurd (builds_fresh wt hb) (Nat.not_le.mpr (hw.lt ha))
    · exact hall
  · intro hall
    exact .inr ⟨ha, hall⟩

/-! ## Seen from the service -/

variable {wt} {fs : Fs} {K : HttpRequest D → Prop}

theorem mem_history {log : List (Env D × Msg (service wt fs (Serves K)))} {i : Input D}
    (h : i ∈ history log) :
    ∃ (n : Nat) (env : Env D) (m : Msg (service wt fs (Serves K))),
      log[n]? = some (env, m) ∧ i = m.request.input env := by
  obtain ⟨⟨env, m⟩, he, rfl⟩ := List.mem_map.mp h
  obtain ⟨n, hn⟩ := List.mem_iff_getElem?.mp he
  exact ⟨n, env, m, hn, rfl⟩

/-- The commands handled after the `m`-th and before the `n`-th. -/
def between (log : List (Env D × Msg (service wt fs (Serves K)))) (m n : Nat) : List (Input D) :=
  (history (log.take n)).drop (m + 1)

theorem runLoop_between (log : List (Env D × Msg (service wt fs (Serves K)))) {m n : Nat}
    (h : m < n) :
    runLoop wt (.start fs) (history (log.take n)) =
      runLoop wt (runLoop wt (.start fs) (history (log.take (m + 1)))) (between log m n) := by
  have htake : history (log.take (m + 1)) = (history (log.take n)).take (m + 1) := by
    rw [← history_take, List.take_take, Nat.min_eq_left h]
  rw [← runLoop_append, htake, between, List.take_append_drop]

/-- After an `Ok` the fingerprint is registered. -/
theorem registered_after_ok {log : List (Env D × Msg (service wt fs (Serves K)))} {m : Nat}
    {k : Ticket (service wt fs (Serves K))} {key : XWalletKey} {b : Bool}
    (h : Answered (A := service wt fs (Serves K)) log m k (registration key) (some (.ok b))) :
    ∃ a : Arc, (runLoop wt (.start fs) (history (log.take (m + 1)))).multiWstate[
      key.masterFingerprint]? = some a := by
  obtain ⟨env, hm, hans⟩ := h
  have htake : log.take (m + 1) = log.take m ++ [(env, ⟨registration key, some k⟩)] := by
    rw [List.take_add_one, hm]
    rfl
  rw [htake, history_snoc, runLoop_snoc]
  rw [after_eq_runLoop] at hans
  exact registered_of_ok env key hans

/-- A registration in the history was sent for the headers of a request. -/
theorem registration_sent {s : State (service wt fs (Serves K))} (h : Reachable s) {n : Nat}
    {env : Env D} {m : Msg (service wt fs (Serves K))} {key : XWalletKey}
    (hn : s.log[n]? = some (env, m)) (hadds : m.request.cmd.adds = some key) :
    ∃ req : HttpRequest D, K req ∧ req.endpoint.isDrop = false ∧ req.key = some key := by
  obtain ⟨-, hr⟩ | ⟨k, -, hsent⟩ := logged_sent h hn
  · simp [hr, Request.refresh, WalletCmd.adds] at hadds
  · generalize k.origin = o at hsent
    generalize m.request = r at hsent hadds
    cases hsent with
    | stop _ hs => simp [WalletCmd.stop_adds _ hs] at hadds
    | register hK hkey hd =>
      cases hadds
      exact ⟨_, hK, hd, hkey⟩
    | work _ _ _ _ _ _ _ hr => simp [WalletCmd.routed_adds _ hr] at hadds
    | drop _ _ _ => cases hadds

/-- Every registered wallet was built from the headers of a request of the workload. -/
theorem built_for_request {s : State (service wt fs (Serves K))} (h : Reachable s) {n : Nat}
    {f : String} {a : Arc}
    (ha : (runLoop wt (.start fs) (history (s.log.take n))).multiWstate[f]? = some a) :
    ∃ (inst : Instance D) (req : HttpRequest D),
      (runLoop wt (.start fs) (history (s.log.take n))).arcs[a]? = some inst ∧ K req ∧
      req.endpoint.isDrop = false ∧ req.key = some inst.builtFrom ∧
      inst.builtFrom.masterFingerprint = f := by
  obtain ⟨inst, hinst, -, hmf⟩ := (wellFormed_history (s.log.take n)).owner f a ha
  obtain ⟨pre, i, post, hpre, hmade⟩ := runLoop_constructs wt fs _ hinst
  have hi : i ∈ history (s.log.take n) := by simp [hpre]
  obtain ⟨j, env, m, hj, rfl⟩ := mem_history hi
  have hlog : s.log[j]? = some (env, m) := by
    rw [List.getElem?_take] at hj
    split at hj
    · exact hj
    · cases hj
  obtain ⟨req, hK, hd, hkey⟩ := registration_sent h hlog hmade.adds
  exact ⟨inst, req, hinst, hK, hd, hkey, hmf⟩

/-- The entries that are handled later continue the loop. -/
theorem server_eq_runLoop {s s' : State (service wt fs (Serves K))} (h : Reachable s)
    (hs : Steps s s') (hp : ¬ s'.phase.ended)
    {rest : List (Env D × Msg (service wt fs (Serves K)))} (hrest : s'.log = s.log ++ rest) :
    s'.server = runLoop wt s.server (history rest) := by
  have hlive : ¬ s.phase.ended := fun hended => hp (Steps.ended hs hended).1
  rw [server_eq_history (h.trans hs) hp, server_eq_history h hlive, hrest, history_append,
    runLoop_append]

/-- Whoever is registered, a request of the workload registers that fingerprint. -/
theorem registered_for_request {s : State (service wt fs (Serves K))} (h : Reachable s)
    {f : String} {a : Arc} (ha : s.server.multiWstate[f]? = some a) :
    ∃ (req : HttpRequest D) (key : XWalletKey), K req ∧ req.endpoint.isDrop = false ∧
      req.key = some key ∧ key.masterFingerprint = f := by
  have ha' : (runLoop wt (.start fs)
      (history (s.log.take s.log.length))).multiWstate[f]? = some a := by
    rw [List.take_length, ← server_eq_history h (live_of_registered h ha)]
    exact ha
  obtain ⟨inst, req, -, hK, hd, hkey, hmf⟩ := built_for_request h ha'
  exact ⟨req, inst.builtFrom, hK, hd, hkey, hmf⟩

end RgbNodeApi

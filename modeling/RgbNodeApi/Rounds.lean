import RgbNodeApi.Provenance
import RgbNodeApi.Reference

/-!
# Rounds of the service

How runs of the service are put together: while nothing else is on its way, a
request arrives and registers its wallet, and later has one command handled.
-/
namespace RgbNodeApi

open Files Actor

variable {D : Deps} {wt : WalletThread}

/-- The wallet of these keys can be built in some world, on the files as they are. -/
def Buildable (wt : WalletThread) (key : XWalletKey) (fs : Fs) : Prop :=
  ∃ (env : Env D) (w : RgbWalletState D),
    ((RgbWalletState.newRoWallet wt.cfg env key.xpubCol key.xpubVan key.masterFingerprint
      none).run ((), fs)).1 = .ok w

/-- The wallet of these keys can be built on the files that the thread meets. -/
def Accepts (wt : WalletThread) (fs : Fs) (K : HttpRequest D → Prop) (key : XWalletKey) : Prop :=
  ∀ s : State (service wt fs (Serves K)), Reachable s → ¬ s.phase.ended →
    Buildable (D := D) wt key s.server.fs

theorem Accepts.start {wt : WalletThread} {fs : Fs} {K : HttpRequest D → Prop} {key : XWalletKey}
    (h : Accepts wt fs K key) : Buildable (D := D) wt key fs :=
  h (service wt fs (Serves K)).init .refl id

/-- A request with the headers of a key. -/
def Reference.request (key : XWalletKey) (e : Endpoint Reference.deps) :
    HttpRequest Reference.deps := ⟨key.headers, e⟩

theorem Reference.request_key (key : XWalletKey) (hcol : isPrintable key.xpubCol = true)
    (hvan : isPrintable key.xpubVan = true) (hmf : isPrintable key.masterFingerprint = true)
    (e : Endpoint Reference.deps) : (Reference.request key e).key = some key := by
  simp [HttpRequest.key, Reference.request, fromRequest_headers hcol hvan hmf, Except.toOption]

/-- The reference library builds a wallet for every fingerprint it knows as one. -/
theorem Reference.buildable (key : XWalletKey)
    (h : Reference.isFingerprint key.masterFingerprint = true) (fs : Fs) :
    Buildable (D := Reference.deps) ⟨Reference.config, Reference.tempDir⟩ key fs := by
  have hnew : ∀ (data : WalletData) (keys : SinglesigKeys) (s : Unit × Fs),
      data.dataDir = Path.ofString Reference.dataDir →
      keys.masterFingerprint = key.masterFingerprint →
      (Reference.deps.newWallet () data keys).run s = (.ok ⟨keys, 0⟩, s) := by
    intro data keys s hdir hkeys
    have hok := Reference.newWallet_ok hdir (hkeys ▸ h)
    exact congrArg (fun r => (r, s)) hok
  refine ⟨Reference.world, ?_⟩
  unfold RgbWalletState.newRoWallet
  have hschemas : Reference.config.supportedSchemas = .ok [.nia, .ifa] := by decide
  simp only [Reference.world, hschemas]
  rw [StateT.run_bind, hnew _ _ _ rfl rfl]
  exact ⟨_, rfl⟩

theorem Reference.accepts (K : HttpRequest Reference.deps → Prop) (key : XWalletKey)
    (h : Reference.isFingerprint key.masterFingerprint = true) :
    Accepts ⟨Reference.config, Reference.tempDir⟩ (fun _ => absent) K key :=
  fun s _ _ => Reference.buildable key h s.server.fs

/-- The service with the reference library, an empty disk and some requests. -/
abbrev Reference.system (reqs : List (HttpRequest Reference.deps)) : System :=
  service ⟨Reference.config, Reference.tempDir⟩ (fun _ => absent) (Serves fun req => req ∈ reqs)

theorem step_stays_running (wt : WalletThread) {st : ThreadState D} (hr : st.running = true)
    (i : Input D) (hi : i.cmd.isStop = false) : (step wt st i).running = true := by
  cases step_running wt st i hr with
  | stop hs => simp [hs] at hi
  | drop id _ _ _ h => rw [h]; exact hr
  | build key w fs _ _ _ _ _ _ h => rw [h]; exact hr
  | keep _ _ _ h => rw [h.running, hr]

/-- A registered wallet is registered again by doing nothing. -/
theorem register_present (wt : WalletThread) {st : ThreadState D} (hr : st.running = true)
    (env : Env D) {key : XWalletKey} {a : Arc}
    (ha : st.multiWstate[key.masterFingerprint]? = some a) :
    answer wt st ((registration key).input env) = some (.ok true) ∧
      step wt st ((registration key).input env) = st := by
  simp only [answer, step, hr, if_true, registration, Request.input]
  cases process_adding wt env none st key with
  | present arc _ h => simp [h]
  | failed err fs habsent => simp [habsent] at ha
  | built w fs habsent => simp [habsent] at ha

/-- A wallet that is not registered is built in some world, and gets the next handle. -/
theorem register_absent (st : ThreadState D) (hr : st.running = true) {key : XWalletKey}
    (hacc : Buildable (D := D) wt key st.fs)
    (ha : st.multiWstate[key.masterFingerprint]? = none) :
    ∃ (env : Env D) (w : RgbWalletState D),
      answer wt st ((registration key).input env) = some (.ok true) ∧
      (step wt st ((registration key).input env)).running = true ∧
      (step wt st ((registration key).input env)).multiWstate =
        st.multiWstate.insert key.masterFingerprint st.arcs.length ∧
      (step wt st ((registration key).input env)).arcs = st.arcs ++ [⟨key, w⟩] := by
  obtain ⟨env, w, hok⟩ := hacc
  refine ⟨env, w, ?_⟩
  simp only [answer, step, hr, if_true, registration, Request.input]
  cases process_adding wt env none st key with
  | present arc hpresent => simp [ha] at hpresent
  | failed err fs _ hw => simp [hw] at hok
  | built w' fs _ hw h =>
    rw [hw] at hok
    cases hok
    simp [h, hr]

variable {fs : Fs} {K : HttpRequest D → Prop}

theorem capacity_pos {arrives : Client D → Prop} : 0 < (service wt fs arrives).capacity := by
  change 0 < 256
  omega

theorem registers_launch {req : HttpRequest D} {key : XWalletKey} (hkey : req.key = some key)
    (hd : req.endpoint.isDrop = false) :
    Registers req.endpoint.Works key (Client.http req).launch := by
  cases h : XWalletKey.fromRequest req.headers with
  | error e => simp [HttpRequest.key, h, Except.toOption] at hkey
  | ok key' =>
    simp only [HttpRequest.key, h, Except.toOption, Option.some.injEq] at hkey
    subst hkey
    simp only [Client.launch, HttpRequest.serve, h]
    exact (req.endpoint.registers key' hd).bind _

/-- A request arrives and its registration succeeds. -/
theorem calm_register {s : State (service wt fs (Serves K))} (h : Calm s) {req : HttpRequest D}
    (hK : K req) {key : XWalletKey} (hkey : req.key = some key)
    (hd : req.endpoint.isDrop = false) (hr : s.server.running = true) {env : Env D}
    (hans : answer wt s.server ((registration key).input env) = some (.ok true)) :
    ∃ (s' : State (service wt fs (Serves K))) (p : Async D (Result D)) (c : Nat),
      Steps s s' ∧ Calm s' ∧ s'.tasks = s.tasks ++ [⟨.http req, .running p⟩] ∧
      Operates req.endpoint.Works key.masterFingerprint p ∧
      s'.server = step wt s.server ((registration key).input env) ∧
      s'.log = s.log ++
        [(env, ⟨registration key, some ⟨s.tasks.length, .http req, c⟩⟩)] := by
  obtain ⟨k, hlaunch, -, -, hok⟩ := registers_launch hkey hd
  obtain ⟨s₁, hs₁, hcalm₁, htasks₁, hserver₁, hlog₁⟩ := h.begin (o := .http req) hK hlaunch
  have ht : s₁.tasks[s.tasks.length]? = some ⟨.http req, .running (.ask (registration key) k)⟩ := by
    rw [htasks₁, List.getElem?_concat_length]
  have hrun : (step wt s₁.server ((registration key).input env)).running = true := by
    rw [hserver₁]
    exact step_stays_running wt hr _ rfl
  have hreply : answer wt s₁.server ((registration key).input env) = some (.ok true) := by
    rw [hserver₁, hans]
  obtain ⟨s₂, hs₂, hcalm₂, htasks₂, hserver₂, hlog₂⟩ := hcalm₁.round capacity_pos ht hreply hrun
  refine ⟨s₂, k (some (.ok true)), s₁.chans.length, hs₁.trans hs₂, hcalm₂, ?_, hok true, ?_, ?_⟩
  · rw [htasks₂, htasks₁, List.set_append_right _ _ (Nat.le_refl _), Nat.sub_self,
      List.set_cons_zero]
    rfl
  · rw [hserver₂, ← hserver₁]
  · rw [hlog₂, hlog₁]

variable (wt fs) in
/-- The first request registers its wallet. -/
theorem first_registered {req : HttpRequest D} {key : XWalletKey} (hK : K req)
    (hkey : req.key = some key) (hd : req.endpoint.isDrop = false)
    (hacc : Buildable (D := D) wt key fs) :
    ∃ (s : State (service wt fs (Serves K))) (p : Async D (Result D)) (w : RgbWalletState D),
      Reachable s ∧ Calm s ∧ s.tasks = [⟨.http req, .running p⟩] ∧
      Operates req.endpoint.Works key.masterFingerprint p ∧ s.server.running = true ∧
      s.server.multiWstate = (∅ : Registry).insert key.masterFingerprint 0 ∧
      s.server.arcs = [⟨key, w⟩] := by
  have habsent :
      (ThreadState.start fs : ThreadState D).multiWstate[key.masterFingerprint]? = none := by
    simp [ThreadState.start]
  obtain ⟨env, w, hans, hrun, hreg, harcs⟩ := register_absent (.start fs) rfl hacc habsent
  obtain ⟨s, p, c, hs, hcalm, ht, hops, hserver, -⟩ :=
    calm_register (calm_init (service wt fs (Serves K))) hK hkey hd rfl hans
  refine ⟨s, p, w, hs, hcalm, ht, hops, ?_, ?_, ?_⟩
  · rw [hserver]
    exact hrun
  · rw [hserver]
    exact hreg
  · rw [hserver]
    exact harcs

theorem removes_launch {req : HttpRequest D} {key : XWalletKey} (hkey : req.key = some key)
    (hd : req.endpoint.isDrop = true) :
    Removes key.masterFingerprint (Client.http req).launch := by
  cases h : XWalletKey.fromRequest req.headers with
  | error e => simp [HttpRequest.key, h, Except.toOption] at hkey
  | ok key' =>
    simp only [HttpRequest.key, h, Except.toOption, Option.some.injEq] at hkey
    subst hkey
    simp only [Client.launch, HttpRequest.serve, h, Endpoint.eq_drop hd]
    exact (removes_drop key').bind _

/-- A request arrives and drops its wallet. -/
theorem calm_remove {s : State (service wt fs (Serves K))} (h : Calm s) {req : HttpRequest D}
    (hK : K req) {key : XWalletKey} (hkey : req.key = some key)
    (hd : req.endpoint.isDrop = true) (hr : s.server.running = true) (env : Env D) :
    ∃ (s' : State (service wt fs (Serves K))) (c : Nat), Steps s s' ∧ Calm s' ∧
      (∃ t, s'.tasks = s.tasks ++ [t]) ∧
      s'.server =
        { s.server with multiWstate := s.server.multiWstate.erase key.masterFingerprint } ∧
      s'.log = s.log ++
        [(env, ⟨removal key.masterFingerprint, some ⟨s.tasks.length, .http req, c⟩⟩)] := by
  obtain ⟨k, hlaunch, -⟩ := removes_launch hkey hd
  obtain ⟨s₁, hs₁, hcalm₁, htasks₁, hserver₁, hlog₁⟩ := h.begin (o := .http req) hK hlaunch
  have ht : s₁.tasks[s.tasks.length]? =
      some ⟨.http req, .running (.ask (removal key.masterFingerprint) k)⟩ := by
    rw [htasks₁, List.getElem?_concat_length]
  have hstep : step wt s₁.server ((removal key.masterFingerprint).input env) =
      { s.server with multiWstate := s.server.multiWstate.erase key.masterFingerprint } := by
    rw [hserver₁, step, if_pos hr]
    rfl
  obtain ⟨s₂, hs₂, hcalm₂, htasks₂, hserver₂, hlog₂⟩ :=
    hcalm₁.round (w := env) capacity_pos ht rfl (by
      change (step wt s₁.server ((removal key.masterFingerprint).input env)).running = true
      rw [hstep]
      exact hr)
  refine ⟨s₂, s₁.chans.length, hs₁.trans hs₂, hcalm₂, ?_, hserver₂.trans hstep, ?_⟩
  · rw [htasks₂, htasks₁, List.set_append_right _ _ (Nat.le_refl _), Nat.sub_self,
      List.set_cons_zero]
    exact ⟨_, rfl⟩
  · rw [hlog₂, hlog₁]

/-- A client that can come to a wallet command has it handled. -/
theorem calm_operate {s : State (service wt fs (Serves K))} (h : Calm s) {i : Nat} {o : Client D}
    {fp : String} {p : Async D (Result D)} (ht : s.tasks[i]? = some ⟨o, .running p⟩)
    (hp : Asks fp p) (hr : s.server.running = true) (env : Env D) :
    ∃ (s' : State (service wt fs (Serves K))) (r : Request D) (c : Nat),
      Steps s s' ∧ Calm s' ∧ r.ido = some fp ∧ r.cmd.isRouted = true ∧
      s'.server = step wt s.server (r.input env) ∧
      s'.log = s.log ++ [(env, ⟨r, some ⟨i, o, c⟩⟩)] := by
  induction hp generalizing s with
  | ask r k hido hrouted =>
    have hrun := step_stays_running wt hr (r.input env) (WalletCmd.routed_isStop _ hrouted)
    obtain ⟨s', hs, hcalm, -, hserver, hlog⟩ := h.round capacity_pos ht rfl hrun
    exact ⟨s', r, s.chans.length, hs, hcalm, hido, hrouted, hserver, hlog⟩
  | clock k now _ ih =>
    obtain ⟨s₁, hs₁, hcalm₁, htasks₁, hserver₁, hlog₁⟩ := h.clock ht now
    obtain ⟨hlt, -⟩ := List.getElem?_eq_some_iff.mp ht
    have ht₁ : s₁.tasks[i]? = some ⟨o, .running (k now)⟩ := by
      rw [htasks₁, List.getElem?_set_self hlt]
    obtain ⟨s', r, c, hs, hcalm, hido, hrouted, hserver, hlog⟩ :=
      ih hcalm₁ ht₁ (by rw [hserver₁]; exact hr)
    exact ⟨s', r, c, hs₁.trans hs, hcalm, hido, hrouted, by rw [hserver, hserver₁],
      by rw [hlog, hlog₁]⟩

/-! ## Two clients of the reference service -/

namespace Reference

/-- A request whose headers are readable does what its handler does. -/
theorem launch_request (key : XWalletKey) (hcol : isPrintable key.xpubCol = true)
    (hvan : isPrintable key.xpubVan = true) (hmf : isPrintable key.masterFingerprint = true)
    (e : Endpoint deps) :
    (Client.http (request key e)).launch =
      ((e.handler .new key).run >>= fun res => pure (.response res)) := by
  simp only [Client.launch, HttpRequest.serve, request, fromRequest_headers hcol hvan hmf]

def askAddress : Request deps := ⟨some key.masterFingerprint, some .addressRes, .address⟩

def payment : SendBtcReq := ⟨"bcrt1q", 1000, 2⟩

def askPayment : Request deps :=
  ⟨some upperCase.masterFingerprint, some .string, .sendBtcBegin payment⟩

/-- The error of a payment: the library is offline. -/
def offline : ApiError :=
  mapRgbError deps.isAlphanumeric deps.debug deps.display ⟨.offline, []⟩

/-- The thread after a request for an address. -/
def addressed : ThreadState deps :=
  runLoop ⟨config, tempDir⟩ (.start fun _ => absent)
    [(registration key).input world, askAddress.input world]

/-- And after a payment from another wallet. -/
def paid : ThreadState deps :=
  runLoop ⟨config, tempDir⟩ addressed [(registration upperCase).input world, askPayment.input world]

theorem address_alone {arrives : Client deps → Prop} :
    Alone (A := service ⟨config, tempDir⟩ (fun _ => absent) arrives) world (0 : Int)
      (.start fun _ => absent) (Client.http (request key .address)).launch
      [registration key, askAddress] addressed (.response (.ok (.address ⟨"xpub-van/0"⟩))) := by
  rw [launch_request key rfl rfl rfl]
  exact .ask (some (.ok true)) rfl rfl (.ask (some (.ok ⟨"xpub-van/0"⟩)) rfl rfl .ret)

theorem payment_alone {arrives : Client deps → Prop} :
    Alone (A := service ⟨config, tempDir⟩ (fun _ => absent) arrives) world (0 : Int) addressed
      (Client.http (request upperCase (.sendBtcBegin payment))).launch
      [registration upperCase, askPayment] paid (.response (.error offline)) := by
  rw [launch_request upperCase rfl rfl rfl]
  exact .ask (some (.ok true)) rfl rfl (.ask (some (.error ⟨.offline, []⟩)) rfl rfl .ret)

/-- The service of these two. -/
abbrev clients : System :=
  system [request key .address, request upperCase (.sendBtcBegin payment)]

/-- A client gets an address, and then another one pays and fails. -/
theorem two_clients {K : HttpRequest deps → Prop} (hK : K (request key .address))
    (hK' : K (request upperCase (.sendBtcBegin payment))) :
    ∃ s s' : State (service ⟨config, tempDir⟩ (fun _ => absent) (Serves K)),
      Reachable s ∧ Steps s s' ∧ Calm s' ∧
      s.log.map (fun e => (e.1, e.2.request)) = [registration key, askAddress].map (world, ·) ∧
      s'.log.map (fun e => (e.1, e.2.request)) =
        [registration key, askAddress, registration upperCase, askPayment].map (world, ·) ∧
      s'.tasks = [⟨.http (request key .address),
          .running (.ret (.response (.ok (.address ⟨"xpub-van/0"⟩))))⟩,
        ⟨.http (request upperCase (.sendBtcBegin payment)),
          .running (.ret (.response (.error offline)))⟩] := by
  let A := service ⟨config, tempDir⟩ (fun _ => absent) (Serves K)
  obtain ⟨s₁, hs₁, hcalm₁, htasks₁, hserver₁, hlog₁⟩ :=
    (calm_init A).begin (o := .http (request key .address)) hK rfl
  obtain ⟨s₂, hs₂, hcalm₂, htasks₂, hserver₂, hlog₂⟩ :=
    hcalm₁.alone capacity_pos (i := 0) (by rw [htasks₁]; rfl) hserver₁ address_alone
  obtain ⟨s₃, hs₃, hcalm₃, htasks₃, hserver₃, hlog₃⟩ :=
    hcalm₂.begin (o := .http (request upperCase (.sendBtcBegin payment))) hK' rfl
  obtain ⟨s₄, hs₄, hcalm₄, htasks₄, -, hlog₄⟩ :=
    hcalm₃.alone capacity_pos (i := 1) (by rw [htasks₃, htasks₂, htasks₁]; rfl)
      (hserver₃.trans hserver₂) payment_alone
  refine ⟨s₂, s₄, hs₁.trans hs₂, hs₃.trans hs₄, hcalm₄, ?_, ?_, ?_⟩
  · rw [hlog₂, hlog₁]
    rfl
  · rw [hlog₄, hlog₃, hlog₂, hlog₁]
    rfl
  · rw [htasks₄, htasks₃, htasks₂, htasks₁]
    rfl

end Reference

end RgbNodeApi

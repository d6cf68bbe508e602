import RgbNodeApi.LoopStep
import RgbNodeApi.Lib.History

/-!
# The registry refines its history

The registry is read off the commands processed so far: a fingerprint is
registered when a successful registration was not followed by a drop of it or
by `Stop`, and the handle is the one that registration made.
-/
namespace RgbNodeApi

open Files History

variable {D : Deps} (wt : WalletThread)

/-- Every entry's handle points at a wallet whose id is the key. -/
structure WellFormed (st : ThreadState D) : Prop where
  owner : ∀ (f : String) (a : Arc), st.multiWstate[f]? = some a →
    ∃ inst : Instance D, st.arcs[a]? = some inst ∧ inst.state.id = f ∧
      inst.builtFrom.masterFingerprint = f
  stopped : st.running = false → ∀ f : String, st.multiWstate[f]? = none

theorem wellFormed_start (fs : Fs) : WellFormed (ThreadState.start fs : ThreadState D) where
  owner f a h := by simp [ThreadState.start] at h
  stopped _ f := by simp [ThreadState.start]

/-- A handle is registered for one key only. -/
theorem WellFormed.injective {st : ThreadState D} (h : WellFormed st) {f g : String} {a : Arc}
    (hf : st.multiWstate[f]? = some a) (hg : st.multiWstate[g]? = some a) : f = g := by
  obtain ⟨inst, hi, hid, -⟩ := h.owner f a hf
  obtain ⟨inst', hi', hid', -⟩ := h.owner g a hg
  rw [hi] at hi'
  cases hi'
  exact hid.symm.trans hid'

theorem WellFormed.lt {st : ThreadState D} (h : WellFormed st) {f : String} {a : Arc}
    (hf : st.multiWstate[f]? = some a) : a < st.arcs.length := by
  obtain ⟨inst, hi, -⟩ := h.owner f a hf
  exact (List.getElem?_eq_some_iff.mp hi).1

/-- Instances are found again under the same labels. -/
theorem SameRegistry.instance {st st' : ThreadState D} (h : SameRegistry st st') {a : Arc}
    {inst : Instance D} (hi : st.arcs[a]? = some inst) :
    ∃ inst', st'.arcs[a]? = some inst' ∧ inst'.builtFrom = inst.builtFrom ∧
      inst'.state.id = inst.state.id := by
  have hl := congrArg (fun l => l[a]?) h.labels
  simp only [List.getElem?_map, hi, Option.map_some, Option.map_eq_some_iff] at hl
  obtain ⟨inst', hi', he⟩ := hl
  exact ⟨inst', hi', congrArg Prod.fst he, congrArg Prod.snd he⟩

theorem SameRegistry.wellFormed {st st' : ThreadState D} (h : SameRegistry st st')
    (hw : WellFormed st) : WellFormed st' := by
  constructor
  · intro f a hf
    rw [h.multiWstate] at hf
    obtain ⟨inst, hi, hid, hk⟩ := hw.owner f a hf
    obtain ⟨inst', hi', hk', hid'⟩ := h.instance hi
    exact ⟨inst', hi', hid'.trans hid, by rw [hk', hk]⟩
  · intro hr f
    rw [h.multiWstate]
    exact hw.stopped (h.running ▸ hr) f

theorem getElem?_insert_self (m : Registry) (f : String) (a : Arc) :
    (m.insert f a)[f]? = some a := by
  simp

theorem getElem?_insert_ne (m : Registry) {f g : String} (a : Arc) (h : g ≠ f) :
    (m.insert f a)[g]? = m[g]? := by
  rw [Std.TreeMap.getElem?_insert, if_neg]
  simpa using Ne.symm h

theorem getElem?_erase_self (m : Registry) (f : String) : (m.erase f)[f]? = none := by
  simp

theorem getElem?_erase_ne (m : Registry) {f g : String} (h : g ≠ f) :
    (m.erase f)[g]? = m[g]? := by
  rw [Std.TreeMap.getElem?_erase, if_neg]
  simpa using Ne.symm h

/-- What the registry says about a fingerprint after a successful registration. -/
theorem Change.wellFormed {st st' : ThreadState D} {i : Input D} {b : Option Arc}
    (h : Change st i b st') (hr : st.running = true) (hw : WellFormed st) : WellFormed st' := by
  cases h with
  | stop _ _ h =>
    subst h
    exact ⟨fun f a h => by simp at h, fun _ f => by simp⟩
  | drop id _ _ _ h =>
    subst h
    refine ⟨fun f a h => ?_, fun hr' => by simp [hr] at hr'⟩
    by_cases he : f = id
    · subst he; simp at h
    · exact hw.owner f a (by rwa [getElem?_erase_ne _ he] at h)
  | build key w fs _ _ _ habsent hid _ h =>
    subst h
    refine ⟨fun f a h => ?_, fun hr' => by simp [hr] at hr'⟩
    by_cases he : f = key.masterFingerprint
    · subst he
      simp only [getElem?_insert_self, Option.some.injEq] at h
      subst h
      exact ⟨⟨key, w⟩, by simp, hid, rfl⟩
    · simp only [getElem?_insert_ne _ _ he] at h
      obtain ⟨inst, hi, hrest⟩ := hw.owner f a h
      exact ⟨inst, by rw [List.getElem?_append_left (hw.lt h)]; exact hi, hrest⟩
  | keep _ _ _ h => exact h.wellFormed hw

theorem step_running (st : ThreadState D) (i : Input D) (hr : st.running = true) :
    Change st i (builtBy wt st i) (step wt st i) := by
  simp only [step, builtBy, hr, if_true]
  exact process_change wt st i

theorem step_wellFormed (st : ThreadState D) (i : Input D) (hw : WellFormed st) :
    WellFormed (step wt st i) := by
  cases hr : st.running with
  | false => rwa [step_stopped wt st i hr]
  | true => exact (step_running wt st i hr).wellFormed hr hw

theorem runLoop_wellFormed (st : ThreadState D) (is : List (Input D)) (hw : WellFormed st) :
    WellFormed (runLoop wt st is) := by
  induction is generalizing st with
  | nil => exact hw
  | cons i rest ih => exact ih _ (step_wellFormed wt st i hw)

/-! ## The registry as a function of the history -/

/-- The command builds wallet `a` for fingerprint `f`, after the given commands. -/
def Builds (st : ThreadState D) (f : String) (a : Arc) (before : List (Input D)) (i : Input D) :
    Prop :=
  (∃ key, i.cmd.adds = some key ∧ key.masterFingerprint = f) ∧
    builtBy wt (runLoop wt st before) i = some a

/-- The command neither drops the fingerprint nor stops the thread. -/
def Spares (f : String) (i : Input D) : Prop := i.dropped ≠ some f ∧ i.cmd.isStop = false

theorem spares_of_not_drop {i : Input D} (hd : i.cmd.isDrop = false) (hs : i.cmd.isStop = false)
    (f : String) : Spares f i := by
  refine ⟨?_, hs⟩
  simp [Input.dropped, hd]

/-- One step: the entry of a fingerprint is new, or it was there and is spared. -/
theorem step_entry_iff (st : ThreadState D) (i : Input D) (hw : WellFormed st) (f : String)
    (a : Arc) :
    (step wt st i).multiWstate[f]? = some a ↔
      ((∃ key, i.cmd.adds = some key ∧ key.masterFingerprint = f) ∧ builtBy wt st i = some a) ∨
      (st.multiWstate[f]? = some a ∧ Spares f i) := by
  cases hr : st.running with
  | false =>
    rw [step_stopped wt st i hr, hw.stopped hr f]
    simp [builtBy, hr]
  | true =>
    cases step_running wt st i hr with
    | stop hi hb h => simp [h, hb, Spares, hi]
    | drop id hi hs hb h =>
      simp only [h, hb, Spares, hi, hs]
      by_cases he : f = id
      · subst he; simp
      · simp [getElem?_erase_ne _ he, Ne.symm he]
    | build key w fs hi hd hs habsent hid hb h =>
      simp only [h, hb, Spares, hd, hs, hi]
      by_cases he : f = key.masterFingerprint
      · subst he; simp [habsent]
      · simp [getElem?_insert_ne _ _ he, Ne.symm he]
    | keep hd hs hb h => simp [h.multiWstate, hb, Spares, hd, hs]

/-- After any commands the registry is what the history since the start says. -/
theorem runLoop_entry_iff (st : ThreadState D) (is : List (Input D)) (hw : WellFormed st)
    (f : String) (a : Arc) :
    (runLoop wt st is).multiWstate[f]? = some a ↔
      Since (Builds wt st f a) (Spares f) is ∨
      (st.multiWstate[f]? = some a ∧ ∀ i ∈ is, Spares f i) := by
  induction is using List.reverseRecOn with
  | nil => simp [not_since_nil]
  | append_singleton is i ih =>
    rw [runLoop_snoc, step_entry_iff wt _ i (runLoop_wellFormed wt st is hw), ih, since_snoc]
    simp only [List.forall_mem_append, List.forall_mem_singleton, Builds, or_and_right, or_assoc,
      and_assoc]

/-! ## Construction -/

/-- The command calls `new_ro_wallet` with exactly the values of `key`, and the
wallet that it returns is kept under the handle `a`. -/
structure Constructs (st : ThreadState D) (i : Input D) (key : XWalletKey) (a : Arc) : Prop where
  running : st.running = true
  adds : i.cmd.adds = some key
  fresh : a = st.arcs.length
  made : ∃ (w : RgbWalletState D) (fs : Fs),
    (RgbWalletState.newRoWallet wt.cfg i.env key.xpubCol key.xpubVan key.masterFingerprint
      none).run ((), st.fs) = (.ok w, (), fs) ∧
    (step wt st i).arcs = st.arcs ++ [⟨key, w⟩]

/-- A wallet is recorded as built exactly when a call of `new_ro_wallet` made it. -/
theorem builtBy_iff_constructs (st : ThreadState D) (i : Input D) (a : Arc) :
    builtBy wt st i = some a ↔ ∃ key, Constructs wt st i key a := by
  cases hr : st.running with
  | false =>
    constructor
    · intro hb
      simp [builtBy, hr] at hb
    · rintro ⟨key, h⟩
      exact absurd h.running (by simp [hr])
  | true =>
  have hbuilt : builtBy wt st i = (process wt i.env i.ido st i.cmd).built := by
    rw [builtBy, if_pos hr]
  have hstep : step wt st i = (process wt i.env i.ido st i.cmd).state := by
    rw [step, if_pos hr]
  constructor
  · intro hb
    cases step_running wt st i hr with
    | stop _ hb' => simp [hb] at hb'
    | drop _ _ _ hb' => simp [hb] at hb'
    | keep _ _ hb' => simp [hb] at hb'
    | build key w fs hi _ _ _ _ hb' hst =>
      rw [hb] at hb'
      obtain ⟨env, ido, T, cmd⟩ := i
      cases cmd with
      | addReadOnlyWallet col van fp =>
        cases hi
        refine ⟨⟨col, van, fp⟩, hr, rfl, Option.some.inj hb', ?_⟩
        cases process_adding wt env ido st ⟨col, van, fp⟩ with
        | present _ _ hout =>
          rw [hbuilt, hout] at hb
          cases hb
        | failed err fs _ _ hout =>
          rw [hbuilt, hout] at hb
          cases hb
        | built w fs _ hw hout => exact ⟨w, fs, hw, by rw [hstep, hout]⟩
      | _ => cases hi
  · rintro ⟨key, -, hadds, rfl, w, fs, hw, harcs⟩
    obtain ⟨env, ido, T, cmd⟩ := i
    cases cmd with
    | addReadOnlyWallet col van fp =>
      cases hadds
      rw [hbuilt]
      cases process_adding wt env ido st ⟨col, van, fp⟩ with
      | present _ _ hout =>
        rw [hstep, hout] at harcs
        simp at harcs
      | failed err fs _ _ hout =>
        rw [hstep, hout] at harcs
        simp at harcs
      | built w fs _ _ hout => rw [hout]
    | _ => cases hadds

/-- What a step leaves of the wallets: each was there or was made by the command. -/
theorem step_constructs (st : ThreadState D) (i : Input D) {a : Arc} {inst : Instance D}
    (h : (step wt st i).arcs[a]? = some inst) :
    (∃ inst₀ : Instance D, st.arcs[a]? = some inst₀ ∧ inst₀.builtFrom = inst.builtFrom) ∨
      Constructs wt st i inst.builtFrom a := by
  cases hr : st.running with
  | false =>
    rw [step_stopped wt st i hr] at h
    exact .inl ⟨inst, h, rfl⟩
  | true =>
    cases step_running wt st i hr with
    | stop _ _ hst => rw [hst] at h; exact .inl ⟨inst, h, rfl⟩
    | drop _ _ _ _ hst => rw [hst] at h; exact .inl ⟨inst, h, rfl⟩
    | build key w fs hi _ _ _ _ hb hst =>
      rw [hst] at h
      rcases Nat.lt_or_ge a st.arcs.length with hlt | hge
      · rw [List.getElem?_append_left hlt] at h
        exact .inl ⟨inst, h, rfl⟩
      · rw [List.getElem?_append_right hge, List.getElem?_singleton] at h
        obtain ⟨hzero, hinst⟩ := Option.ite_none_right_eq_some.mp h
        cases hinst
        obtain rfl : a = st.arcs.length := Nat.le_antisymm (Nat.le_of_sub_eq_zero hzero) hge
        obtain ⟨key', hmade⟩ := (builtBy_iff_constructs wt st i _).mp hb
        cases Option.some.inj (hi.symm.trans hmade.adds)
        exact .inr hmade
    | keep _ _ _ hsame =>
      have hl := congrArg (fun l => l[a]?) hsame.labels
      simp only [List.getElem?_map, h, Option.map_some] at hl
      obtain ⟨inst₀, h₀, he⟩ := Option.map_eq_some_iff.mp hl.symm
      exact .inl ⟨inst₀, h₀, congrArg Prod.fst he⟩

/-- Every wallet was made by a command of the history, from the keys it is kept with. -/
theorem runLoop_constructs (fs : Fs) (is : List (Input D)) {a : Arc} {inst : Instance D}
    (h : (runLoop wt (.start fs) is).arcs[a]? = some inst) :
    ∃ pre i post, is = pre ++ i :: post ∧
      Constructs wt (runLoop wt (.start fs) pre) i inst.builtFrom a := by
  induction is using List.reverseRecOn generalizing inst with
  | nil => simp [ThreadState.start] at h
  | append_singleton is i ih =>
    rw [runLoop_snoc] at h
    obtain ⟨inst₀, h₀, hb⟩ | hi := step_constructs wt _ i h
    · obtain ⟨pre, j, post, rfl, hj⟩ := ih h₀
      rw [hb] at hj
      exact ⟨pre, j, post ++ [i], by simp, hj⟩
    · exact ⟨is, i, [], rfl, hi⟩

/-! ## Inside one command -/

/-- The handles that are registered or held at a moment, with their keys. -/
def Moment.live (m : Moment) : List (String × Arc) := m.registered.toList ++ m.referenced

/-- No key has two live handles, and a wallet is only built for an absent key. -/
structure Moment.Single (m : Moment) : Prop where
  live : ∀ f a b, (f, a) ∈ m.live → (f, b) ∈ m.live → a = b
  building : ∀ f, m.building = some f → m.registered[f]? = none

/-- Local handles taken from the registry add nothing to it. -/
theorem single_of_clones (R : Registry) (l : List (String × Arc))
    (h : ∀ f a, (f, a) ∈ l → R[f]? = some a) : Moment.Single ⟨R, l, none⟩ where
  live f a b ha hb := by
    have hreg : ∀ c, (f, c) ∈ (⟨R, l, none⟩ : Moment).live → R[f]? = some c := by
      intro c hc
      rcases List.mem_append.mp hc with hc | hc
      · exact Std.TreeMap.mem_toList_iff_getElem?_eq_some.mp hc
      · exact h f c hc
    have := (hreg a ha).symm.trans (hreg b hb)
    simpa using this
  building f hf := by cases hf

/-- The new wallet is the only one for its key until it is inserted. -/
theorem single_of_absent (R : Registry) (f : String) (a : Arc) (h : R[f]? = none) :
    Moment.Single ⟨R, [(f, a)], none⟩ where
  live g b c hb hc := by
    simp only [Moment.live, List.mem_append, Std.TreeMap.mem_toList_iff_getElem?_eq_some,
      List.mem_singleton, Prod.mk.injEq] at hb hc
    rcases hb with hb | ⟨rfl, rfl⟩ <;> rcases hc with hc | ⟨hg, rfl⟩
    · simpa [hb] using hc
    · simp [hg, h] at hb
    · simp [h] at hc
    · rfl
  building g hg := by cases hg

theorem single_building (R : Registry) (f : String) (h : R[f]? = none) :
    Moment.Single ⟨R, [], some f⟩ where
  live g b c hb hc := (single_of_clones R [] (by simp)).live g b c hb hc
  building g hg := by cases hg; exact h

/-- At every moment inside the handling of a command, handles are unique. -/
theorem process_single (st : ThreadState D) (i : Input D) :
    ∀ m ∈ (process wt i.env i.ido st i.cmd).moments, m.Single := by
  obtain ⟨env, ido, T, cmd⟩ := i
  have hquiet : ∀ R : Registry, Moment.Single ⟨R, [], none⟩ := fun R =>
    single_of_clones R [] (by simp)
  have hclones : Moment.Single ⟨st.multiWstate, st.multiWstate.toList, none⟩ :=
    single_of_clones _ _ fun f a => Std.TreeMap.mem_toList_iff_getElem?_eq_some.mp
  induction T, cmd using WalletCmd.kinds with
  | stop => simpa [process] using hquiet ∅
  | walletInfo => simpa [process] using hclones
  | refresh => simpa [process] using hclones
  | dropWallet => simpa [process] using hquiet _
  | routed T cmd h =>
    cases process_routing wt env ido st cmd h with
    | discarded _ h => simpa [h] using hquiet st.multiWstate
    | served id arc _ ha h =>
      have hone := single_of_clones st.multiWstate [(id, arc)] (by simp [ha])
      simpa [h] using hone
  | add col van fp =>
    cases process_adding wt env ido st ⟨col, van, fp⟩ with
    | present _ _ h => simpa [h] using hquiet _
    | failed err fs ha _ h => simpa [h] using ⟨single_building _ fp ha, hquiet st.multiWstate⟩
    | built w fs ha _ h =>
      simpa [h] using ⟨single_building _ fp ha, single_of_absent _ fp st.arcs.length ha,
        hquiet (st.multiWstate.insert fp st.arcs.length)⟩

/-- `WalletInfo` lists the registered fingerprints in increasing order. -/
theorem walletInfo_keys (env : Env D) (ido : Option String) (st : ThreadState D)
    (hw : WellFormed st) :
    ∃ infos : List WalletInfo,
      (process wt env ido st .walletInfo).reply = some (.ok ⟨true, infos⟩) ∧
      infos.map (·.walletId) = st.multiWstate.keys ∧
      infos.map (·.fingerprint) = st.multiWstate.keys := by
  refine ⟨_, rfl, ?_, ?_⟩
  all_goals
    rw [← Std.TreeMap.map_fst_toList_eq_keys, List.map_filterMap]
    have hmem : ∀ e ∈ st.multiWstate.toList, st.multiWstate[e.1]? = some e.2 := fun e he =>
      Std.TreeMap.mem_toList_iff_getElem?_eq_some.mp he
    revert hmem
    generalize st.multiWstate.toList = l
    intro hmem
    induction l with
    | nil => rfl
    | cons e rest ih =>
      obtain ⟨inst, hi, hid, -⟩ := hw.owner e.1 e.2 (hmem e (by simp))
      have hrest := ih fun e' he' => hmem e' (by simp [he'])
      simpa [hi, hid] using hrest

/-- `new_ro_wallet` is called by registrations only, for their own fingerprint. -/
theorem building_adds (st : ThreadState D) (i : Input D) {m : Moment} {f : String}
    (hm : m ∈ (process wt i.env i.ido st i.cmd).moments) (hf : m.building = some f) :
    ∃ key, i.cmd.adds = some key ∧ key.masterFingerprint = f := by
  obtain ⟨env, ido, T, cmd⟩ := i
  have hquiet {R : Registry} {l : List (String × Arc)}
      (h : m ∈ [(⟨R, l, none⟩ : Moment)]) : False := by
    cases List.mem_singleton.mp h
    cases hf
  induction T, cmd using WalletCmd.kinds with
  | stop => exact (hquiet hm).elim
  | walletInfo => exact (hquiet hm).elim
  | refresh => exact (hquiet hm).elim
  | dropWallet => exact (hquiet hm).elim
  | routed T cmd h =>
    cases process_routing wt env ido st cmd h with
    | discarded _ hout =>
      rw [hout] at hm
      exact (hquiet hm).elim
    | served id arc _ _ hout =>
      rw [hout] at hm
      exact (hquiet hm).elim
  | add col van fp =>
    refine ⟨⟨col, van, fp⟩, rfl, ?_⟩
    cases process_adding wt env ido st ⟨col, van, fp⟩ with
    | present _ _ hout =>
      simp only [hout] at hm
      exact (hquiet hm).elim
    | failed err fs _ _ hout =>
      simp only [hout, List.mem_cons, List.not_mem_nil, or_false] at hm
      rcases hm with rfl | rfl
      · exact Option.some.inj hf
      · cases hf
    | built w fs _ _ hout =>
      simp only [hout, List.mem_cons, List.not_mem_nil, or_false] at hm
      rcases hm with rfl | rfl | rfl
      · exact Option.some.inj hf
      · cases hf
      · cases hf

theorem keys_increasing (R : Registry) : R.keys.Pairwise (· < ·) :=
  (Std.TreeMap.ordered_keys (t := R)).imp fun h => compareOfLessAndEq_eq_lt.mp h

theorem mem_keys_iff (R : Registry) (f : String) : f ∈ R.keys ↔ ∃ a, R[f]? = some a := by
  rw [Std.TreeMap.mem_keys, ← Option.isSome_iff_exists, ← Std.TreeMap.contains_eq_isSome_getElem?,
    Std.TreeMap.contains_iff_mem]

/-- After any sequence of commands the registry is what its history says, at
every moment on the way handles and wallets are unique for their keys, and
`WalletInfo` lists exactly the registered fingerprints. What is recorded as built
was made by a call of `new_ro_wallet` with just those keys, and a registration
does what that call makes of it. -/
theorem registry_refines_history (fs : Fs) (is : List (Input D)) :
    (∀ (f : String) (a : Arc), (runLoop wt (.start fs) is).multiWstate[f]? = some a ↔
      Since (Builds wt (.start fs) f a) (Spares f) is) ∧
    (∀ pre i post, is = pre ++ i :: post → (runLoop wt (.start fs) pre).running = true →
      ∀ m ∈ (process wt i.env i.ido (runLoop wt (.start fs) pre) i.cmd).moments, m.Single) ∧
    (∀ (f : String) (a : Arc), (runLoop wt (.start fs) is).multiWstate[f]? = some a →
      ∃ inst : Instance D, (runLoop wt (.start fs) is).arcs[a]? = some inst ∧
        inst.state.id = f) ∧
    (∀ i, builtBy wt (runLoop wt (.start fs) is) i = none → i.dropped = none →
      i.cmd.isStop = false →
      SameRegistry (runLoop wt (.start fs) is) (step wt (runLoop wt (.start fs) is) i)) ∧
    (∀ env ido, ∃ infos : List WalletInfo,
      (process wt env ido (runLoop wt (.start fs) is) .walletInfo).reply =
        some (.ok ⟨true, infos⟩) ∧
      (∀ f, f ∈ infos.map (·.walletId) ↔
        ∃ a, (runLoop wt (.start fs) is).multiWstate[f]? = some a) ∧
      (infos.map (·.walletId)).Pairwise (· < ·) ∧
      infos.map (·.fingerprint) = infos.map (·.walletId)) ∧
    (∀ i a, builtBy wt (runLoop wt (.start fs) is) i = some a ↔
      ∃ key, Constructs wt (runLoop wt (.start fs) is) i key a) ∧
    (∀ (a : Arc) (inst : Instance D), (runLoop wt (.start fs) is).arcs[a]? = some inst →
      ∃ pre i post, is = pre ++ i :: post ∧
        Constructs wt (runLoop wt (.start fs) pre) i inst.builtFrom a) ∧
    (∀ i : Input D, ∀ m ∈ (process wt i.env i.ido (runLoop wt (.start fs) is) i.cmd).moments, ∀ f,
      m.building = some f → ∃ key, i.cmd.adds = some key ∧ key.masterFingerprint = f) ∧
    ∀ env ido key, Adding wt env (runLoop wt (.start fs) is) key
      (process wt env ido (runLoop wt (.start fs) is)
        (.addReadOnlyWallet key.xpubCol key.xpubVan key.masterFingerprint)) := by
  have hstart := wellFormed_start (D := D) fs
  have hw := runLoop_wellFormed wt (.start fs) is hstart
  refine ⟨?_, ?_, ?_, ?_, ?_, builtBy_iff_constructs wt _, ?_, ?_, ?_⟩
  · intro f a
    rw [runLoop_entry_iff wt _ is hstart]
    simp [ThreadState.start]
  · intro pre i post _ _
    exact process_single wt _ i
  · intro f a h
    obtain ⟨inst, hi, hid, -⟩ := hw.owner f a h
    exact ⟨inst, hi, hid⟩
  · intro i hb hd hs
    cases hr : (runLoop wt (.start fs) is).running with
    | false =>
      rw [step_stopped wt _ i hr]
      exact .refl _
    | true =>
      cases step_running wt _ i hr with
      | stop hi => simp [hi] at hs
      | drop id hi => simp [hi] at hd
      | build key w fs _ _ _ _ _ hb' => simp [hb'] at hb
      | keep _ _ _ h => exact h
  · intro env ido
    obtain ⟨infos, hreply, hid, hfp⟩ := walletInfo_keys wt env ido _ hw
    refine ⟨infos, hreply, ?_, ?_, ?_⟩
    · intro f
      rw [hid]
      exact mem_keys_iff _ f
    · rw [hid]
      exact keys_increasing _
    · rw [hid, hfp]
  · exact fun a inst h => runLoop_constructs wt fs is h
  · exact fun i m hm f hf => building_adds wt _ i hm hf
  · exact fun env ido key => process_adding wt env ido _ key

end RgbNodeApi

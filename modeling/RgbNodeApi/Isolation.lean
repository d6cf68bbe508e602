import RgbNodeApi.WalletFootprint
import RgbNodeApi.Registry
import RgbNodeApi.Lib.Unwinding

/-!
# Wallets do not see each other

The view of a fingerprint is its own entry and the files of its footprint.
Commands for other fingerprints leave the view as it is, and commands for this
one change equal views equally and are answered the same, so a run answers one
tenant as if the others were not there.
-/
namespace RgbNodeApi

open Files Footprint

variable {D : Deps}

def WalletCmd.isRefresh : {T : Option Payload} → WalletCmd D T → Bool
  | _, .refresh => true
  | _, _ => false

theorem WalletCmd.routed_isRefresh {T : Option Payload} (cmd : WalletCmd D T)
    (h : cmd.isRouted = true) : cmd.isRefresh = false := by
  cases cmd <;> first | rfl | cases h

/-- Registrations of a fingerprint, and drops and wallet commands addressed to it. -/
def Input.concerns (b : String) (i : Input D) : Bool :=
  match i.cmd.adds with
  | some key => key.masterFingerprint == b
  | none => (i.cmd.isDrop || i.cmd.isRouted) && i.ido == some b

def Input.visible (b : String) (i : Input D) : Bool :=
  i.concerns b || i.cmd.isRefresh || i.cmd.isStop

/-- The replies to the commands that concern a fingerprint. -/
def repliesTo (wt : WalletThread) (b : String) (st : ThreadState D) (is : List (Input D)) :
    List ((i : Input D) × Option (Answer D i.T)) :=
  Unwinding.outputs (step wt) (answer wt) (Input.concerns b) st is

/-- The registry cut down to one fingerprint. -/
def ThreadState.cut (b : String) (st : ThreadState D) : ThreadState D :=
  { st with multiWstate := st.multiWstate.filter fun f _ => f == b }

/-- Every registered wallet belongs to the fingerprint it is registered for. -/
structure Valid (belongs : String → D.Wallet → Prop) (st : ThreadState D) : Prop where
  wellFormed : WellFormed st
  owned : ∀ (f : String) (a : Arc) (inst : Instance D), st.multiWstate[f]? = some a →
    st.arcs[a]? = some inst → belongs f inst.state.wallet

/-- Two states look the same to a fingerprint whose files are in `S`. -/
structure Agree (S : Set Path) (b : String) (st st' : ThreadState D) : Prop where
  running : st.running = st'.running
  entry : st.entry b = st'.entry b
  files : Set.EqOn st.fs st'.fs S

theorem Agree.refl (S : Set Path) (b : String) (st : ThreadState D) : Agree S b st st :=
  ⟨rfl, rfl, Set.eqOn_refl _ _⟩

theorem Agree.symm {S : Set Path} {b : String} {st st' : ThreadState D} (h : Agree S b st st') :
    Agree S b st' st :=
  ⟨h.running.symm, h.entry.symm, h.files.symm⟩

theorem Agree.trans {S : Set Path} {b : String} {s t u : ThreadState D} (h : Agree S b s t)
    (h' : Agree S b t u) : Agree S b s u :=
  ⟨h.running.trans h'.running, h.entry.trans h'.entry, h.files.trans h'.files⟩

/-! ## Entries -/

theorem entry_of_registered {st : ThreadState D} {f : String} {a : Arc}
    (h : st.multiWstate[f]? = some a) : st.entry f = st.arcs[a]? := by
  simp [ThreadState.entry, h]

theorem entry_of_absent {st : ThreadState D} {f : String} (h : st.multiWstate[f]? = none) :
    st.entry f = none := by
  simp [ThreadState.entry, h]

theorem WellFormed.registered_iff {st : ThreadState D} (hw : WellFormed st) (f : String) :
    (∃ a, st.multiWstate[f]? = some a) ↔ ∃ inst, st.entry f = some inst := by
  constructor
  · rintro ⟨a, ha⟩
    obtain ⟨inst, hi, -⟩ := hw.owner f a ha
    exact ⟨inst, by rw [entry_of_registered ha, hi]⟩
  · rintro ⟨inst, hi⟩
    cases ha : st.multiWstate[f]? with
    | none => simp [entry_of_absent ha] at hi
    | some a => exact ⟨a, rfl⟩

/-- Fingerprints that look the same are both registered or both absent. -/
theorem Agree.registered {S : Set Path} {b : String} {st t : ThreadState D}
    (h : Agree S b st t) (hs : WellFormed st) (ht : WellFormed t) :
    (st.multiWstate[b]? = none ∧ t.multiWstate[b]? = none) ∨
    ∃ (a a' : Arc) (inst : Instance D), st.multiWstate[b]? = some a ∧ t.multiWstate[b]? = some a' ∧
      st.arcs[a]? = some inst ∧ t.arcs[a']? = some inst := by
  cases ha : st.multiWstate[b]? with
  | none =>
    refine .inl ⟨rfl, ?_⟩
    cases ha' : t.multiWstate[b]? with
    | none => rfl
    | some a' =>
      obtain ⟨inst, hi⟩ := (ht.registered_iff b).mp ⟨a', ha'⟩
      rw [← h.entry, entry_of_absent ha] at hi
      cases hi
  | some a =>
    obtain ⟨inst, hi, -⟩ := hs.owner b a ha
    have he := entry_of_registered ha
    rw [h.entry, hi] at he
    obtain ⟨a', ha'⟩ := (ht.registered_iff b).mpr ⟨inst, he⟩
    exact .inr ⟨a, a', inst, rfl, ha', hi, by rw [← entry_of_registered ha', he]⟩

/-! ## Work on one wallet -/

theorem onArc_some {α : Type} {st : ThreadState D} {a : Arc} {inst : Instance D}
    (h : st.arcs[a]? = some inst) (m : WalletM D α) :
    st.onArc a m =
      (some (m.run (inst.state, st.fs)).1,
        { st with
          arcs := st.arcs.set a ⟨inst.builtFrom, (m.run (inst.state, st.fs)).2.1⟩
          fs := (m.run (inst.state, st.fs)).2.2 }) := by
  simp [ThreadState.onArc, h]

variable {tempDir : Path} {owns : String → Set Path} {belongs : String → D.Wallet → Prop}

theorem Valid.onArc {α : Type} {st : ThreadState D} (hv : Valid belongs st) {f : String} {a : Arc}
    (ha : st.multiWstate[f]? = some a) {m : WalletM D α} (hm : Within tempDir owns belongs f m) :
    Valid belongs (st.onArc a m).2 := by
  have hsame := onArc_same st a m hm.keepsId
  refine ⟨hsame.wellFormed hv.wellFormed, fun g c inst' hg hi' => ?_⟩
  rw [hsame.multiWstate] at hg
  obtain ⟨inst, hi, -⟩ := hv.wellFormed.owner f a ha
  rw [onArc_some hi] at hi'
  by_cases hc : a = c
  · subst hc
    have hfg := hv.wellFormed.injective ha hg
    subst hfg
    obtain ⟨hlt, -⟩ := List.getElem?_eq_some_iff.mp hi
    simp only [List.getElem?_set_self hlt, Option.some.injEq] at hi'
    subst hi'
    exact hm.isLocal.keeps inst.state st.fs (hv.owned f a inst ha hi)
  · simp only [List.getElem?_set_ne hc] at hi'
    exact hv.owned g c inst' hg hi'

/-- Work on another wallet is not seen. -/
theorem Isolated.onArc_other (h : Isolated D tempDir owns belongs) {α : Type} {st : ThreadState D}
    (hv : Valid belongs st) {f b : String} (hne : f ≠ b) {a : Arc}
    (ha : st.multiWstate[f]? = some a) {m : WalletM D α} (hm : Within tempDir owns belongs f m) :
    Agree (footprint tempDir owns b) b (st.onArc a m).2 st := by
  obtain ⟨inst, hi, -⟩ := hv.wellFormed.owner f a ha
  rw [onArc_some hi]
  refine ⟨rfl, ?_, ?_⟩
  · cases hb : st.multiWstate[b]? with
    | none => simp [ThreadState.entry, hb]
    | some c =>
      have hac : a ≠ c := by
        rintro rfl
        exact hne (hv.wellFormed.injective ha hb)
      simp [ThreadState.entry, hb, List.getElem?_set_ne hac]
  · exact hm.isLocal.untouched (h.footprint_disjoint hne) _ _ (hv.owned f a inst ha hi)

/-- Work on the wallet itself does the same in states that look the same. -/
theorem onArc_self {α : Type} {st t : ThreadState D} {b : String} {a a' : Arc}
    {inst : Instance D} (hag : Agree (footprint tempDir owns b) b st t)
    (ha : st.multiWstate[b]? = some a) (ha' : t.multiWstate[b]? = some a')
    (hi : st.arcs[a]? = some inst) (hi' : t.arcs[a']? = some inst)
    (hw : belongs b inst.state.wallet) {m : WalletM D α} (hm : Within tempDir owns belongs b m) :
    (st.onArc a m).1 = (t.onArc a' m).1 ∧
      Agree (footprint tempDir owns b) b (st.onArc a m).2 (t.onArc a' m).2 := by
  rw [onArc_some hi, onArc_some hi']
  have hres := hm.isLocal.result inst.state st.fs t.fs hw hag.files
  have hown := hm.isLocal.own inst.state st.fs t.fs hw hag.files
  obtain ⟨hlt, -⟩ := List.getElem?_eq_some_iff.mp hi
  obtain ⟨hlt', -⟩ := List.getElem?_eq_some_iff.mp hi'
  refine ⟨congrArg some hres, hag.running, ?_, ?_⟩
  · simp [ThreadState.entry, ha, ha', hlt, hlt', hown]
  · exact hm.isLocal.store inst.state st.fs t.fs hw hag.files

/-! ## The periodic refresh -/

theorem refreshAll_append (env : Env D) (st : ThreadState D) (l l' : List (String × Arc)) :
    refreshAll env st (l ++ l') = refreshAll env (refreshAll env st l) l' := by
  induction l generalizing st with
  | nil => rfl
  | cons e rest ih => exact ih _

theorem Isolated.refreshAll_valid (h : Isolated D tempDir owns belongs) (env : Env D)
    (st : ThreadState D) (hv : Valid belongs st) (l : List (String × Arc))
    (hl : ∀ e ∈ l, st.multiWstate[e.1]? = some e.2) : Valid belongs (refreshAll env st l) := by
  induction l generalizing st with
  | nil => exact hv
  | cons e rest ih =>
    have hone := hv.onArc (hl e (by simp)) (h.within_refresh e.1 env)
    apply ih _ hone
    intro e' he'
    rw [(onArc_same st e.2 _ (h.within_refresh e.1 env).keepsId).multiWstate]
    exact hl e' (by simp [he'])

/-- The refreshes of other wallets are not seen. -/
theorem Isolated.refreshAll_others (h : Isolated D tempDir owns belongs) (env : Env D)
    (st : ThreadState D) (hv : Valid belongs st) (b : String) (l : List (String × Arc))
    (hl : ∀ e ∈ l, st.multiWstate[e.1]? = some e.2 ∧ e.1 ≠ b) :
    Agree (footprint tempDir owns b) b (refreshAll env st l) st := by
  induction l generalizing st with
  | nil => exact .refl _ _ _
  | cons e rest ih =>
    obtain ⟨ha, hne⟩ := hl e (by simp)
    have hw := h.within_refresh e.1 env
    have hone := h.onArc_other hv hne ha hw
    refine Agree.trans (ih _ (hv.onArc ha hw) fun e' he' => ?_) hone
    rw [(onArc_same st e.2 _ hw.keepsId).multiWstate]
    exact hl e' (by simp [he'])

/-- A registered wallet is listed once. -/
theorem toList_split (R : Registry) {b : String} {a : Arc} (h : R[b]? = some a) :
    ∃ pre post, R.toList = pre ++ (b, a) :: post ∧
      (∀ e ∈ pre, R[e.1]? = some e.2 ∧ e.1 ≠ b) ∧ ∀ e ∈ post, R[e.1]? = some e.2 ∧ e.1 ≠ b := by
  have hmem : (b, a) ∈ R.toList := Std.TreeMap.mem_toList_iff_getElem?_eq_some.mpr h
  obtain ⟨pre, post, hl⟩ := List.append_of_mem hmem
  have hreg : ∀ e ∈ R.toList, R[e.1]? = some e.2 := fun e =>
    Std.TreeMap.mem_toList_iff_getElem?_eq_some.mp
  have hnodup : (R.toList.map Prod.fst).Nodup := by
    rw [Std.TreeMap.map_fst_toList_eq_keys]
    refine (keys_increasing R).imp fun {x y} hlt he => ?_
    subst he
    exact String.lt_irrefl x hlt
  rw [hl] at hreg hnodup
  simp only [List.map_append, List.map_cons, List.nodup_append, List.nodup_cons] at hnodup
  refine ⟨pre, post, hl, fun e he => ⟨hreg e (by simp [he]), ?_⟩,
    fun e he => ⟨hreg e (by simp [he]), ?_⟩⟩
  · exact hnodup.2.2 e.1 (List.mem_map_of_mem he) b (by simp)
  · rintro rfl
    exact hnodup.2.1.1 (List.mem_map_of_mem he)

theorem registered_ne {R : Registry} {b : String} (h : R[b]? = none) :
    ∀ e ∈ R.toList, R[e.1]? = some e.2 ∧ e.1 ≠ b := by
  intro e he
  have hmem := Std.TreeMap.mem_toList_iff_getElem?_eq_some.mp he
  refine ⟨hmem, ?_⟩
  rintro rfl
  rw [h] at hmem
  cases hmem

/-- For its own fingerprint a `Refresh` is one refresh of the wallet. -/
theorem Isolated.refreshAll_self (h : Isolated D tempDir owns belongs) (env : Env D)
    (st : ThreadState D) (hv : Valid belongs st) {b : String} {a : Arc}
    (ha : st.multiWstate[b]? = some a) :
    Agree (footprint tempDir owns b) b (refreshAll env st st.multiWstate.toList)
      (st.onArc a (RgbWalletState.refresh env)).2 := by
  obtain ⟨pre, post, hl, hpre, hpost⟩ := toList_split st.multiWstate ha
  have hw := h.within_refresh b env
  have hpreA := h.refreshAll_others env st hv b pre hpre
  have hpreV := h.refreshAll_valid env st hv pre fun e he => (hpre e he).1
  have hpreR := (refreshAll_same env st pre).multiWstate
  rw [hl, refreshAll_append]
  change Agree _ b (refreshAll env ((refreshAll env st pre).onArc a _).2 post) _
  have ha' : (refreshAll env st pre).multiWstate[b]? = some a := by rw [hpreR, ha]
  have hpostA := h.refreshAll_others env _ (hpreV.onArc ha' hw) b post fun e he => by
    rw [(onArc_same _ a _ hw.keepsId).multiWstate, hpreR]
    exact hpost e he
  obtain ⟨inst, hi, -⟩ := hv.wellFormed.owner b a ha
  have hi' : (refreshAll env st pre).arcs[a]? = some inst := by
    rw [← entry_of_registered ha', hpreA.entry, entry_of_registered ha, hi]
  exact hpostA.trans (onArc_self hpreA ha' ha hi' hi (hv.owned b a inst ha hi) hw).2

/-! ## One command -/

section Command

variable (h : Isolated D tempDir owns belongs)
include h

/-- What a command does to the view of a fingerprint it does not concern. -/
theorem Isolated.process_hidden (cfg : Config) (i : Input D) (st : ThreadState D)
    (hv : Valid belongs st) (b : String) (hi : i.visible b = false) :
    Agree (footprint tempDir owns b) b (process ⟨cfg, tempDir⟩ i.env i.ido st i.cmd).state st := by
  obtain ⟨env, ido, T, cmd⟩ := i
  induction T, cmd using WalletCmd.kinds with
  | stop => simp [Input.visible, WalletCmd.isStop] at hi
  | refresh => simp [Input.visible, WalletCmd.isRefresh] at hi
  | walletInfo => exact .refl _ _ _
  | dropWallet =>
    cases ido with
    | none => exact .refl _ _ _
    | some id =>
      have hne : b ≠ id := by
        rintro rfl
        simp [Input.visible, Input.concerns, WalletCmd.adds, WalletCmd.isDrop] at hi
      exact ⟨rfl, by simp [process, ThreadState.entry, getElem?_erase_ne _ hne], Set.eqOn_refl _ _⟩
  | routed T cmd hr =>
    cases process_routing ⟨cfg, tempDir⟩ env ido st cmd hr with
    | discarded _ hout =>
      simp only [hout]
      exact .refl _ _ _
    | served id arc hido ha hout =>
      subst hido
      have hne : id ≠ b := by
        rintro rfl
        simp [Input.visible, Input.concerns, cmd.routed_adds hr, hr] at hi
      simp only [hout]
      exact h.onArc_other hv hne ha (h.within_handle id env cmd)
  | add col van fp =>
    have hne : fp ≠ b := by
      rintro rfl
      simp [Input.visible, Input.concerns, WalletCmd.adds] at hi
    have hfiles := (h.newRoWallet_local fp cfg env col van none).untouched
      (h.footprint_disjoint hne) () st.fs trivial
    cases process_adding ⟨cfg, tempDir⟩ env ido st ⟨col, van, fp⟩ with
    | present _ _ hout =>
      simp only [hout]
      exact .refl _ _ _
    | failed err fs _ hw hout =>
      rw [hw] at hfiles
      simp only [hout]
      exact ⟨rfl, rfl, hfiles⟩
    | built w fs _ hw hout =>
      rw [hw] at hfiles
      simp only [hout]
      refine ⟨rfl, ?_, hfiles⟩
      cases hb : st.multiWstate[b]? with
      | none => simp [ThreadState.entry, hb, getElem?_insert_ne _ _ (Ne.symm hne)]
      | some a =>
        have hlt := hv.wellFormed.lt hb
        simp [ThreadState.entry, hb, getElem?_insert_ne _ _ (Ne.symm hne),
          List.getElem?_append_left hlt]

/-- A visible command changes equal views equally, and answers them the same
when it concerns the fingerprint. -/
theorem Isolated.process_agree (cfg : Config) (i : Input D) (st t : ThreadState D)
    (hs : Valid belongs st) (ht : Valid belongs t) (b : String)
    (hag : Agree (footprint tempDir owns b) b st t) (hi : i.visible b = true) :
    Agree (footprint tempDir owns b) b (process ⟨cfg, tempDir⟩ i.env i.ido st i.cmd).state
        (process ⟨cfg, tempDir⟩ i.env i.ido t i.cmd).state ∧
      (i.concerns b = true → (process ⟨cfg, tempDir⟩ i.env i.ido st i.cmd).reply =
        (process ⟨cfg, tempDir⟩ i.env i.ido t i.cmd).reply) := by
  have hreg := hag.registered hs.wellFormed ht.wellFormed
  obtain ⟨env, ido, T, cmd⟩ := i
  induction T, cmd using WalletCmd.kinds with
  | stop => exact ⟨⟨rfl, by simp [process, ThreadState.entry], hag.files⟩, fun _ => rfl⟩
  | walletInfo =>
    simp [Input.visible, Input.concerns, WalletCmd.adds, WalletCmd.isDrop, WalletCmd.isRouted,
      WalletCmd.isRefresh, WalletCmd.isStop] at hi
  | dropWallet =>
    have hido : ido = some b := by
      simpa [Input.visible, Input.concerns, WalletCmd.adds, WalletCmd.isDrop, WalletCmd.isRefresh,
        WalletCmd.isStop] using hi
    subst hido
    exact ⟨⟨hag.running, by simp [process, ThreadState.entry], hag.files⟩, fun _ => rfl⟩
  | refresh =>
    refine ⟨?_, fun _ => rfl⟩
    change Agree _ b (refreshAll env st st.multiWstate.toList)
      (refreshAll env t t.multiWstate.toList)
    obtain ⟨hn, hn'⟩ | ⟨a, a', inst, ha, ha', hia, hia'⟩ := hreg
    · have h₁ := h.refreshAll_others env st hs b _ (registered_ne hn)
      have h₂ := h.refreshAll_others env t ht b _ (registered_ne hn')
      exact h₁.trans (hag.trans h₂.symm)
    · have h₁ := h.refreshAll_self env st hs ha
      have h₂ := h.refreshAll_self env t ht ha'
      have hw := hs.owned b a inst ha hia
      have hself := onArc_self hag ha ha' hia hia' hw (h.within_refresh b env)
      exact h₁.trans (hself.2.trans h₂.symm)
  | routed T cmd hr =>
    have hido : ido = some b := by
      simpa [Input.visible, Input.concerns, cmd.routed_adds hr, hr, cmd.routed_isRefresh hr,
        cmd.routed_isStop hr] using hi
    subst hido
    simp only [process_routed ⟨cfg, tempDir⟩ env (some b) _ cmd hr]
    unfold routeCmd
    obtain ⟨hn, hn'⟩ | ⟨a, a', inst, ha, ha', hia, hia'⟩ := hreg
    · simp only [hn, hn']
      exact ⟨hag, fun _ => trivial⟩
    · simp only [ha, ha']
      have hw := hs.owned b a inst ha hia
      have hself := onArc_self hag ha ha' hia hia' hw (h.within_handle b env cmd)
      exact ⟨hself.2, fun _ => congrArg Option.join hself.1⟩
  | add col van fp =>
    have hfp : fp = b := by
      simpa [Input.visible, Input.concerns, WalletCmd.adds, WalletCmd.isRefresh,
        WalletCmd.isStop] using hi
    subst hfp
    unfold process
    obtain ⟨hn, hn'⟩ | ⟨a, a', inst, ha, ha', hia, hia'⟩ := hreg
    · have hl := h.newRoWallet_local fp cfg env col van none
      have hres := hl.result () st.fs t.fs trivial hag.files
      have hfiles := hl.store () st.fs t.fs trivial hag.files
      simp only [contains_of_absent hn, contains_of_absent hn', ← hres]
      cases ((RgbWalletState.newRoWallet (D := D) cfg env col van fp none).run ((), st.fs)).1 with
      | error err => exact ⟨⟨hag.running, hag.entry, hfiles⟩, fun _ => rfl⟩
      | ok w =>
        refine ⟨⟨hag.running, ?_, hfiles⟩, fun _ => rfl⟩
        simp [ThreadState.entry]
    · simp only [contains_of_registered ha, contains_of_registered ha', if_true]
      exact ⟨hag, fun _ => trivial⟩

/-- Commands keep every wallet with its fingerprint. -/
theorem Isolated.process_valid (cfg : Config) (i : Input D) (st : ThreadState D)
    (hr : st.running = true) (hv : Valid belongs st) :
    Valid belongs (process ⟨cfg, tempDir⟩ i.env i.ido st i.cmd).state := by
  have hwf := (process_change ⟨cfg, tempDir⟩ st i).wellFormed hr hv.wellFormed
  obtain ⟨env, ido, T, cmd⟩ := i
  induction T, cmd using WalletCmd.kinds with
  | stop => exact ⟨hwf, fun f a inst hf => by simp [process] at hf⟩
  | walletInfo => exact hv
  | refresh =>
    exact h.refreshAll_valid env st hv _ fun e he =>
      Std.TreeMap.mem_toList_iff_getElem?_eq_some.mp he
  | dropWallet =>
    cases ido with
    | none => exact hv
    | some id =>
      refine ⟨hwf, fun f a inst hf hi => ?_⟩
      by_cases he : f = id
      · subst he
        simp [process] at hf
      · simp only [process, getElem?_erase_ne _ he] at hf
        exact hv.owned f a inst hf hi
  | routed T cmd hr' =>
    cases process_routing ⟨cfg, tempDir⟩ env ido st cmd hr' with
    | discarded _ hout => simpa only [hout] using hv
    | served id arc _ ha hout =>
      simp only [hout]
      exact hv.onArc ha (h.within_handle id env cmd)
  | add col van fp =>
    refine ⟨hwf, ?_⟩
    have hbel := h.newRoWallet_belongs fp cfg env col van none ((), st.fs)
    cases process_adding ⟨cfg, tempDir⟩ env ido st ⟨col, van, fp⟩ with
    | present _ _ hout => simpa only [hout] using hv.owned
    | failed err fs _ _ hout => simpa only [hout] using hv.owned
    | built w fs _ hw hout =>
      simp only [hout]
      intro f a inst hf hi
      by_cases he : f = fp
      · subst he
        cases (getElem?_insert_self _ _ _).symm.trans hf
        rw [List.getElem?_concat_length] at hi
        cases hi
        rw [hw] at hbel
        exact hbel w rfl
      · rw [getElem?_insert_ne _ _ he] at hf
        rw [List.getElem?_append_left (hv.wellFormed.lt hf)] at hi
        exact hv.owned f a inst hf hi

/-- The loop meets the unwinding conditions for every fingerprint. -/
theorem Isolated.unwinds (cfg : Config) (b : String) :
    Unwinding.Unwinds (step ⟨cfg, tempDir⟩) (answer (D := D) ⟨cfg, tempDir⟩) (Valid belongs)
      (Agree (footprint tempDir owns b) b) (Input.visible b) (Input.concerns b) where
  invariant st i hv := by
    cases hr : st.running with
    | false => rwa [step_stopped _ st i hr]
    | true =>
      rw [step, if_pos hr]
      exact h.process_valid cfg i st hr hv
  hidden st t i hv hag hi := by
    apply Agree.trans ?_ hag
    cases hr : st.running with
    | false =>
      rw [step_stopped _ st i hr]
      exact .refl _ _ _
    | true =>
      rw [step, if_pos hr]
      exact h.process_hidden cfg i st hv b hi
  consistent st t i hs ht hag hi := by
    have hrun := hag.running
    cases hr : st.running with
    | false => rwa [step_stopped _ st i hr, step_stopped _ t i (hrun ▸ hr)]
    | true =>
      rw [step, step, if_pos hr, if_pos (hrun ▸ hr)]
      exact (h.process_agree cfg i st t hs ht b hag hi).1
  output st t i hs ht hag hi := by
    have hvis : i.visible b = true := by simp [Input.visible, hi]
    have hrun := hag.running
    cases hr : st.running with
    | false => rw [answer, answer, if_neg (by simp [hr]), if_neg (by simp [← hrun, hr])]
    | true =>
      rw [answer, answer, if_pos hr, if_pos (hrun ▸ hr)]
      exact (h.process_agree cfg i st t hs ht b hag hvis).2 hi
  subset i hi := by simp [Input.visible, hi]

end Command

theorem runLoop_eq_foldl (wt : WalletThread) (st : ThreadState D) (is : List (Input D)) :
    runLoop wt st is = is.foldl (step wt) st := by
  induction is generalizing st with
  | nil => rfl
  | cons i rest ih => exact ih _

theorem cut_registered (st : ThreadState D) (b f : String) :
    (st.cut b).multiWstate[f]? = if f = b then st.multiWstate[f]? else none := by
  cases hm : st.multiWstate[f]? with
  | none => simp [ThreadState.cut, hm]
  | some a => by_cases hf : f = b <;> simp_all [ThreadState.cut]

/-- Cutting the registry down leaves a valid state, and the view of its fingerprint. -/
theorem Valid.cut {st : ThreadState D} (hv : Valid belongs st) (b : String) :
    Valid belongs (st.cut b) where
  wellFormed := by
    constructor
    · intro f a hf
      rw [cut_registered] at hf
      split at hf
      · exact hv.wellFormed.owner f a hf
      · cases hf
    · intro hr f
      rw [cut_registered, hv.wellFormed.stopped hr f]
      exact ite_self none
  owned f a inst hf hi := by
    rw [cut_registered] at hf
    split at hf
    · exact hv.owned f a inst hf hi
    · cases hf

theorem agree_cut (S : Set Path) (st : ThreadState D) (b : String) : Agree S b st (st.cut b) := by
  refine ⟨rfl, ?_, Set.eqOn_refl _ _⟩
  have hreg : (st.cut b).multiWstate[b]? = st.multiWstate[b]? := by simp [cut_registered]
  rw [ThreadState.entry, ThreadState.entry, hreg]
  rfl

/-- From every initial registry and for every command queue, the replies to one
fingerprint and its final entry are those of the queue and the registry cut down
to it. On the way every hidden command leaves its entry alone, and every
`Refresh` refreshes its wallet once. -/
theorem wallet_isolation (cfg : Config) (h : Isolated D tempDir owns belongs)
    (st : ThreadState D) (hv : Valid belongs st) (is : List (Input D)) (b : String) :
    let wt : WalletThread := ⟨cfg, tempDir⟩
    repliesTo wt b st is = repliesTo wt b (st.cut b) (is.filter (Input.visible b)) ∧
    (runLoop wt st is).entry b = (runLoop wt (st.cut b) (is.filter (Input.visible b))).entry b ∧
    (∀ pre i post, is = pre ++ i :: post → i.visible b = false →
      (runLoop wt st (pre ++ [i])).entry b = (runLoop wt st pre).entry b) ∧
    (∀ pre env ido post, is = pre ++ ⟨env, ido, _, .refresh⟩ :: post →
      (runLoop wt st pre).running = true →
      (runLoop wt st (pre ++ [⟨env, ido, _, .refresh⟩])).entry b =
        ((runLoop wt st pre).entry b).map fun inst => ⟨inst.builtFrom,
          ((RgbWalletState.refresh env).run (inst.state, (runLoop wt st pre).fs)).2.1⟩) := by
  intro wt
  have hu := h.unwinds cfg b
  have hcut := hv.cut b
  have hag := agree_cut (footprint tempDir owns b) st b
  have hvalid : ∀ pre, Valid belongs (runLoop wt st pre) := fun pre => by
    rw [runLoop_eq_foldl]
    exact hu.invariant_run st pre hv
  refine ⟨hu.outputs_eq st (st.cut b) is hv hcut hag, ?_, ?_, ?_⟩
  · have hfinal := hu.run st (st.cut b) is hv hcut hag
    rw [← runLoop_eq_foldl, ← runLoop_eq_foldl] at hfinal
    exact hfinal.entry
  · intro pre i post _ hi
    rw [runLoop_snoc]
    exact (hu.hidden _ _ i (hvalid pre) (.refl _ _ _) hi).entry
  · intro pre env ido post _ hr
    rw [runLoop_snoc, step, if_pos hr]
    change (refreshAll env _ _).entry b = _
    have hpre := hvalid pre
    generalize runLoop wt st pre = u at hpre hr ⊢
    cases ha : u.multiWstate[b]? with
    | none =>
      have hothers : ∀ e ∈ u.multiWstate.toList, u.multiWstate[e.1]? = some e.2 ∧ e.1 ≠ b :=
        registered_ne ha
      rw [(h.refreshAll_others env u hpre b _ hothers).entry, entry_of_absent ha]
      rfl
    | some a =>
      obtain ⟨inst, hi, -⟩ := hpre.wellFormed.owner b a ha
      obtain ⟨hlt, -⟩ := List.getElem?_eq_some_iff.mp hi
      rw [(h.refreshAll_self env u hpre ha).entry, entry_of_registered ha, hi, onArc_some hi]
      simp [ThreadState.entry, ha, hlt]

theorem valid_start (belongs : String → D.Wallet → Prop) (fs : Fs) :
    Valid belongs (ThreadState.start fs : ThreadState D) :=
  ⟨wellFormed_start fs, fun f a inst h => by simp [ThreadState.start] at h⟩

namespace Reference

def env : Env deps := ⟨1000, (), fun _ => .ok (), fun _ => .ok ()⟩

/-- Two wallets are registered and refreshed, one is dropped, the other is asked for
an address. -/
def queue : List (Input deps) :=
  [⟨env, none, _, .addReadOnlyWallet "col" "van" "a1b2c3d4"⟩,
    ⟨env, none, _, .addReadOnlyWallet "other-col" "other-van" "00000000"⟩, ⟨env, none, _, .refresh⟩,
    ⟨env, some "00000000", _, .address⟩, ⟨env, some "00000000", _, .dropWallet⟩,
    ⟨env, some "a1b2c3d4", _, .address⟩]

end Reference

/-- The first wallet does not notice the second one. -/
theorem wallet_isolation_reference :
    repliesTo ⟨Reference.config, Reference.tempDir⟩ "a1b2c3d4" (.start fun _ => absent)
        Reference.queue =
      repliesTo ⟨Reference.config, Reference.tempDir⟩ "a1b2c3d4"
        (ThreadState.cut "a1b2c3d4" (.start fun _ => absent))
        (Reference.queue.filter (Input.visible "a1b2c3d4")) ∧
    (Reference.queue.filter (Input.visible "a1b2c3d4")).length = 3 := by
  have h := wallet_isolation Reference.config Reference.isolated (.start fun _ => absent)
    (valid_start _ _) Reference.queue "a1b2c3d4"
  exact ⟨h.1, by decide⟩

end RgbNodeApi

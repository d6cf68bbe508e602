import RgbNodeApi.Isolation

/-!
# Backup files

A `Backup` removes the file of the wallet's last backup before it makes the next
one, and does not look at the outcome of the removal. So where it fails the file
is gone, unless it could not be removed; then it stays what it was.
-/
namespace RgbNodeApi

open Files Footprint History

variable {D : Deps}

/-- What `Wallet::backup` does to its target: a backup of the wallet is there when
it succeeds, and it leaves the path alone when it fails. -/
structure BackupLaw (D : Deps) (content : D.Net → D.Wallet → String → Bytes) : Prop where
  made : ∀ net path password w fs w' fs',
    (D.call net (.backup path password)).run (w, fs) = (.ok (), w', fs') →
      fs' path = .ok (content net w password)
  failed : ∀ net path password w fs err w' fs',
    (D.call net (.backup path password)).run (w, fs) = (.error err, w', fs') →
      fs' path = fs path

def backupPath (tempDir : Path) (f : String) : Path := tempDir.join (backupFilename f)

def Answer.isOk : {T : Option Payload} → Answer D T → Bool
  | none, a => nomatch a
  | some _, a => Except.isOk a

/-- The commands of a run, each with the state it is handled in. -/
def trace (wt : WalletThread) : ThreadState D → List (Input D) → List (ThreadState D × Input D)
  | _, [] => []
  | st, i :: rest => (st, i) :: trace wt (step wt st i) rest

/-- A `Backup` that reaches the wallet of a fingerprint. -/
structure Takes (f : String) (e : ThreadState D × Input D) (password : String)
    (inst : Instance D) : Prop where
  running : e.1.running = true
  ido : e.2.ido = some f
  cmd : e.2.cmd.backupPassword = some password
  entry : e.1.entry f = some inst

/-- A `Backup` of a fingerprint that reaches its wallet. -/
def Backs (f : String) (e : ThreadState D × Input D) : Prop :=
  ∃ password inst, Takes f e password inst

def Succeeds (wt : WalletThread) (e : ThreadState D × Input D) : Prop :=
  ∃ a, answer wt e.1 e.2 = some a ∧ a.isOk = true

def Fails (wt : WalletThread) (e : ThreadState D × Input D) : Prop :=
  ∃ a, answer wt e.1 e.2 = some a ∧ a.isOk = false

/-- A `Backup` that gets as far as the file: it succeeds, or removes what was there. -/
def Touches (wt : WalletThread) (f : String) (e : ThreadState D × Input D) : Prop :=
  Backs f e ∧ (Succeeds wt e ∨ e.2.env.removeFile (backupPath wt.tempDir f) = .ok ())

/-- A `Backup` that makes the given backup of the wallet as it finds it. -/
def Makes (wt : WalletThread) (content : D.Net → D.Wallet → String → Bytes) (f : String)
    (bytes : Bytes) (e : ThreadState D × Input D) : Prop :=
  ∃ password inst, Takes f e password inst ∧ Succeeds wt e ∧
    content e.2.env.net inst.state.wallet password = bytes

/-- After every run a wallet that was ever backed up has its last successful backup
on file. -/
def LastGoodSurvives (wt : WalletThread) (content : D.Net → D.Wallet → String → Bytes)
    (st : ThreadState D) (f : String) : Prop :=
  ∀ is bytes, Since (fun _ => Makes wt content f bytes)
      (fun e => ¬ (Backs f e ∧ Succeeds wt e)) (trace wt st is) →
    (runLoop wt st is).fs (backupPath wt.tempDir f) = .ok bytes

theorem trace_snoc (wt : WalletThread) (st : ThreadState D) (is : List (Input D)) (i : Input D) :
    trace wt st (is ++ [i]) = trace wt st is ++ [(runLoop wt st is, i)] := by
  induction is generalizing st with
  | nil => rfl
  | cons j rest ih =>
    simp only [List.cons_append, trace, runLoop_cons, ih]

/-! ## What a command does to a backup -/

theorem isOk_map {α : Type} {p : Payload} (r : RResult α) (g : α → p.T D) :
    Answer.isOk (show Answer D (some p) from r.map g) = r.isOk := by
  cases r <;> rfl

/-- A `Backup` that reaches its wallet: the file is removed, as far as it can be, and
the call is made. -/
theorem Takes.step (cfg : Config) (tempDir : Path) {f : String} {st : ThreadState D} {i : Input D}
    {password : String} {inst : Instance D} (h : Takes f (st, i) password inst) :
    ∃ (r : RResult Unit) (w : D.Wallet) (fs : Fs),
      (D.call i.env.net (.backup (backupPath tempDir f) password)).run
        (inst.state.wallet,
          removeFile (i.env.removeFile (backupPath tempDir f)) st.fs (backupPath tempDir f)) =
        (r, w, fs) ∧
      (step ⟨cfg, tempDir⟩ st i).fs = fs ∧
      ∃ a, answer ⟨cfg, tempDir⟩ st i = some a ∧ a.isOk = r.isOk := by
  obtain ⟨env, ido, T, cmd⟩ := i
  obtain ⟨hr, rfl, hcmd, hentry⟩ := h
  simp only at hr hcmd hentry
  cases cmd with
  | backup pw =>
    cases hcmd
    cases ha : st.multiWstate[f]? with
    | none => simp [entry_of_absent ha] at hentry
    | some arc =>
    rw [entry_of_registered ha] at hentry
    refine ⟨_, _, _, rfl, ?_, ?_⟩
    · rw [RgbNodeApi.step, if_pos hr, process_routed _ _ _ _ _ rfl]
      simp only [routeCmd, ha, onArc_some hentry]
      rfl
    · rw [answer, if_pos hr, process_routed _ _ _ _ _ rfl]
      simp only [routeCmd, ha, onArc_some hentry, Option.join_some]
      exact ⟨_, rfl, isOk_map _ _⟩
  | _ => cases hcmd

theorem Takes.succeeds_or_fails (cfg : Config) (tempDir : Path) {f : String}
    {e : ThreadState D × Input D} {password : String} {inst : Instance D}
    (h : Takes f e password inst) : Succeeds ⟨cfg, tempDir⟩ e ∨ Fails ⟨cfg, tempDir⟩ e := by
  obtain ⟨-, -, -, -, -, a, ha, -⟩ := h.step cfg tempDir
  cases hok : a.isOk with
  | true => exact .inl ⟨a, ha, hok⟩
  | false => exact .inr ⟨a, ha, hok⟩

theorem not_fails_of_succeeds {wt : WalletThread} {e : ThreadState D × Input D}
    (h : Succeeds wt e) : ¬ Fails wt e := by
  rintro ⟨a', ha', hfail⟩
  obtain ⟨a, ha, hok⟩ := h
  cases ha.symm.trans ha'
  rw [hok] at hfail
  cases hfail

theorem Takes.unique {f : String} {e : ThreadState D × Input D} {password password' : String}
    {inst inst' : Instance D} (h : Takes f e password inst) (h' : Takes f e password' inst') :
    password = password' ∧ inst = inst' :=
  ⟨Option.some.inj (h.cmd.symm.trans h'.cmd), Option.some.inj (h.entry.symm.trans h'.entry)⟩

/-- After a `Backup` that succeeds the file holds the wallet as it was backed up. -/
theorem BackupLaw.step_made {content : D.Net → D.Wallet → String → Bytes}
    (hb : BackupLaw D content) {cfg : Config} {tempDir : Path} {f : String} {st : ThreadState D}
    {i : Input D} {password : String} {inst : Instance D} (h : Takes f (st, i) password inst)
    (hok : Succeeds ⟨cfg, tempDir⟩ (st, i)) :
    (step ⟨cfg, tempDir⟩ st i).fs (backupPath tempDir f) =
      .ok (content i.env.net inst.state.wallet password) := by
  obtain ⟨r, w, fs, hcall, hfs, a, ha, hr⟩ := h.step cfg tempDir
  obtain ⟨a', ha', hok⟩ := hok
  cases ha.symm.trans ha'
  rw [hr] at hok
  cases r with
  | error err => cases hok
  | ok _ =>
    rw [hfs]
    exact hb.made _ _ _ _ _ _ _ hcall

/-- A `Backup` that fails leaves of the file what the removal left of it. -/
theorem BackupLaw.step_failed {content : D.Net → D.Wallet → String → Bytes}
    (hb : BackupLaw D content) {cfg : Config} {tempDir : Path} {f : String} {st : ThreadState D}
    {i : Input D} {password : String} {inst : Instance D} (h : Takes f (st, i) password inst)
    (hfail : Fails ⟨cfg, tempDir⟩ (st, i)) :
    (step ⟨cfg, tempDir⟩ st i).fs (backupPath tempDir f) =
      removeFile (i.env.removeFile (backupPath tempDir f)) st.fs (backupPath tempDir f)
        (backupPath tempDir f) := by
  obtain ⟨r, w, fs, hcall, hfs, a, ha, hr⟩ := h.step cfg tempDir
  obtain ⟨a', ha', hfail⟩ := hfail
  cases ha.symm.trans ha'
  rw [hr] at hfail
  cases r with
  | ok _ => cases hfail
  | error err =>
    rw [hfs, hb.failed _ _ _ _ _ _ _ _ hcall]

section

variable {tempDir : Path} {owns : String → Set Path} {belongs : String → D.Wallet → Prop}

/-- A place that stays as it is while one wallet is worked on. -/
abbrev Stays (belongs : String → D.Wallet → Prop) (g : String) (p : Path) (v : Node) :
    RgbWalletState D × Fs → Prop :=
  fun s => belongs g s.1.wallet ∧ s.2 p = v

/-- Work on the wallet of one fingerprint that leaves a place alone. -/
theorem Valid.onArc_stays {α : Type} {st : ThreadState D} (hv : Valid belongs st) {g : String}
    {a : Arc} (ha : st.multiWstate[g]? = some a) {p : Path} {m : WalletM D α}
    (hm : ∀ v, Preserves (Stays belongs g p v) m) : (st.onArc a m).2.fs p = st.fs p := by
  obtain ⟨inst, hi, -⟩ := hv.wellFormed.owner g a ha
  rw [onArc_some hi]
  exact (hm _ (inst.state, st.fs) ⟨hv.owned g a inst ha hi, rfl⟩).2

variable (h : Isolated D tempDir owns belongs)
include h

/-- Calls without a target do not reach the backups. -/
theorem Isolated.call_stays (g f : String) {α : Type} (env : Env D)
    (c : RgbWalletState D → Call D.toRgbTypes α) (hc : ∀ s, (c s).target = ∅) (v : Node) :
    Preserves (Stays belongs g (backupPath tempDir f) v) (RgbWalletState.call env c) := by
  rintro ⟨s, fs⟩ ⟨hw, hv⟩
  have hmem : backupPath tempDir f ∉ owns g ∪ (c s).target := by
    rw [hc s, Set.union_empty]
    exact h.temp g f
  exact (h.call g env.net (c s)).preserves hmem v (s.wallet, fs) ⟨hw, hv⟩

theorem Isolated.handle_stays (g f : String) (env : Env D) {T : Option Payload}
    (cmd : WalletCmd D T) (hcmd : cmd.backupPassword = none) (v : Node) :
    Preserves (Stays belongs g (backupPath tempDir f) v)
      (handleWalletCmd tempDir env g cmd) := by
  apply handleWalletCmd_rule (P := Preserves (Stays belongs g (backupPath tempDir f) v))
  case pure => exact fun a => .pure _ a
  case respond => exact fun m φ hm => Preserves.respond hm φ
  case call => exact fun c hc => h.call_stays g f env c hc v
  case metadata => exact fun _ _ hs => hs
  case lookup => exact fun _ _ hs => hs
  case backup =>
    intro password hpassword
    rw [hcmd] at hpassword
    cases hpassword

theorem Isolated.refresh_stays (g f : String) (env : Env D) (v : Node) :
    Preserves (Stays belongs g (backupPath tempDir f) v) (RgbWalletState.refresh env) :=
  h.call_stays g f env _ (fun _ => rfl) v

theorem Isolated.refreshAll_stays (env : Env D) (st : ThreadState D) (hv : Valid belongs st)
    (f : String) (l : List (String × Arc)) (hl : ∀ e ∈ l, st.multiWstate[e.1]? = some e.2) :
    (refreshAll env st l).fs (backupPath tempDir f) = st.fs (backupPath tempDir f) := by
  induction l generalizing st with
  | nil => rfl
  | cons e rest ih =>
    have ha := hl e (by simp)
    have hw := h.within_refresh e.1 env
    have hone := hv.onArc_stays ha (h.refresh_stays e.1 f env)
    refine (ih _ (hv.onArc ha hw) fun e' he' => ?_).trans hone
    rw [(onArc_same st e.2 _ hw.keepsId).multiWstate]
    exact hl e' (by simp [he'])

/-- A wallet command stays away from the backups of other fingerprints, and all but
`Backup` from its own. -/
theorem Isolated.routed_stays {f g : String} (hf : '/' ∉ f.toList) (env : Env D)
    {T : Option Payload} (cmd : WalletCmd D T) (hcmd : g = f → cmd.backupPassword = none)
    (v : Node) :
    Preserves (Stays belongs g (backupPath tempDir f) v) (handleWalletCmd tempDir env g cmd) := by
  by_cases hgf : g = f
  · exact h.handle_stays g f env cmd (hcmd hgf) v
  · have hmem : backupPath tempDir f ∉ footprint tempDir owns g := by
      have hown : backupPath tempDir f ∈ footprint tempDir owns f := .inr ⟨hf, rfl⟩
      exact Set.disjoint_left.mp (h.footprint_disjoint (Ne.symm hgf)) hown
    exact (h.within_handle g env cmd).isLocal.preserves hmem v

/-- Only a `Backup` that reaches its wallet touches a backup file. -/
theorem Isolated.step_stays (cfg : Config) {st : ThreadState D} (hv : Valid belongs st)
    (i : Input D) {f : String} (hf : '/' ∉ f.toList) (hi : ¬ Backs f (st, i)) :
    (step ⟨cfg, tempDir⟩ st i).fs (backupPath tempDir f) = st.fs (backupPath tempDir f) := by
  cases hr : st.running with
  | false => rw [step_stopped _ st i hr]
  | true =>
  rw [step, if_pos hr]
  obtain ⟨env, ido, T, cmd⟩ := i
  induction T, cmd using WalletCmd.kinds with
  | stop => rfl
  | walletInfo => rfl
  | dropWallet => rfl
  | refresh =>
    exact h.refreshAll_stays env st hv f _ fun e he =>
      Std.TreeMap.mem_toList_iff_getElem?_eq_some.mp he
  | routed T cmd hrouted =>
    cases process_routing ⟨cfg, tempDir⟩ env ido st cmd hrouted with
    | discarded _ hout => simp only [hout]
    | served id arc hido ha hout =>
      simp only [hout]
      apply hv.onArc_stays ha
      apply h.routed_stays hf env cmd
      rintro rfl
      obtain ⟨inst, hinst, -⟩ := hv.wellFormed.owner id arc ha
      cases hpassword : cmd.backupPassword with
      | none => rfl
      | some password =>
        have hentry : st.entry id = some inst := by rw [entry_of_registered ha, hinst]
        exact absurd ⟨password, inst, hr, hido, hpassword, hentry⟩ hi
  | add col van fp =>
    have hlocal := h.newRoWallet_owns fp cfg env col van none
    have hframe := hlocal.frame () st.fs trivial (h.temp fp f)
    cases process_adding ⟨cfg, tempDir⟩ env ido st ⟨col, van, fp⟩ with
    | present _ _ hout => simp only [hout]
    | failed err fs _ hw hout =>
      rw [hw] at hframe
      simp only [hout]
      exact hframe
    | built w fs _ hw hout =>
      rw [hw] at hframe
      simp only [hout]
      exact hframe

/-- A file that no `Backup` gets as far as is left as it was. -/
theorem Isolated.step_untouched {content : D.Net → D.Wallet → String → Bytes}
    (hb : BackupLaw D content) (cfg : Config) {st : ThreadState D} (hv : Valid belongs st)
    (i : Input D) {f : String} (hf : '/' ∉ f.toList)
    (hi : ¬ Touches ⟨cfg, tempDir⟩ f (st, i)) :
    (step ⟨cfg, tempDir⟩ st i).fs (backupPath tempDir f) = st.fs (backupPath tempDir f) := by
  by_cases hbacks : Backs f (st, i)
  · have ⟨password, inst, htakes⟩ := hbacks
    have hfail := (htakes.succeeds_or_fails cfg tempDir).resolve_left
      fun hok => hi ⟨hbacks, .inl hok⟩
    rw [hb.step_failed htakes hfail]
    cases hremoved : i.env.removeFile (backupPath tempDir f) with
    | ok _ => exact absurd ⟨hbacks, .inr hremoved⟩ hi
    | error e => rw [removeFile_error]
  · exact h.step_stays cfg hv i hf hbacks

theorem Isolated.runLoop_valid (cfg : Config) (st : ThreadState D) (hv : Valid belongs st)
    (is : List (Input D)) : Valid belongs (runLoop ⟨cfg, tempDir⟩ st is) := by
  rw [runLoop_eq_foldl]
  exact (h.unwinds cfg "").invariant_run st is hv

/-- One step: a backup is on file when it was just made, or was there and no `Backup`
got as far as the file. -/
theorem Isolated.step_file_iff {content : D.Net → D.Wallet → String → Bytes}
    (hb : BackupLaw D content) (cfg : Config) {st : ThreadState D} (hv : Valid belongs st)
    (i : Input D) {f : String} (hf : '/' ∉ f.toList) (bytes : Bytes) :
    (step ⟨cfg, tempDir⟩ st i).fs (backupPath tempDir f) = .ok bytes ↔
      Makes ⟨cfg, tempDir⟩ content f bytes (st, i) ∨
        (st.fs (backupPath tempDir f) = .ok bytes ∧ ¬ Touches ⟨cfg, tempDir⟩ f (st, i)) := by
  by_cases htouches : Touches ⟨cfg, tempDir⟩ f (st, i)
  · have ⟨⟨password, inst, htakes⟩, hreached⟩ := htouches
    obtain hok | hfail := htakes.succeeds_or_fails cfg tempDir
    · rw [hb.step_made htakes hok]
      constructor
      · intro heq
        exact .inl ⟨password, inst, htakes, hok, Except.ok.inj heq⟩
      · rintro (⟨password', inst', htakes', -, rfl⟩ | ⟨-, hno⟩)
        · obtain ⟨rfl, rfl⟩ := htakes.unique htakes'
          rfl
        · exact absurd htouches hno
    · have hgone : (step ⟨cfg, tempDir⟩ st i).fs (backupPath tempDir f) = absent := by
        have hremoved := hreached.resolve_left fun hok => not_fails_of_succeeds hok hfail
        rw [hb.step_failed htakes hfail, hremoved, removeFile_ok]
      rw [hgone]
      constructor
      · intro heq
        cases heq
      · rintro (⟨-, -, -, hok, -⟩ | ⟨-, hno⟩)
        · exact absurd hfail (not_fails_of_succeeds hok)
        · exact absurd htouches hno
  · rw [h.step_untouched hb cfg hv i hf htouches]
    constructor
    · intro heq
      exact .inr ⟨heq, htouches⟩
    · rintro (⟨password, inst, htakes, hok, -⟩ | ⟨heq, -⟩)
      · exact absurd ⟨⟨password, inst, htakes⟩, .inl hok⟩ htouches
      · exact heq

/-- After any commands the file is what the history says. -/
theorem Isolated.runLoop_file_iff {content : D.Net → D.Wallet → String → Bytes}
    (hb : BackupLaw D content) (cfg : Config) {st : ThreadState D} (hv : Valid belongs st)
    (is : List (Input D)) {f : String} (hf : '/' ∉ f.toList) (bytes : Bytes) :
    (runLoop ⟨cfg, tempDir⟩ st is).fs (backupPath tempDir f) = .ok bytes ↔
      Since (fun _ => Makes ⟨cfg, tempDir⟩ content f bytes)
          (fun e => ¬ Touches ⟨cfg, tempDir⟩ f e) (trace ⟨cfg, tempDir⟩ st is) ∨
        (st.fs (backupPath tempDir f) = .ok bytes ∧
          ∀ e ∈ trace ⟨cfg, tempDir⟩ st is, ¬ Touches ⟨cfg, tempDir⟩ f e) := by
  induction is using List.reverseRecOn with
  | nil => simp [trace, not_since_nil]
  | append_singleton is i ih =>
    have hvalid := h.runLoop_valid cfg st hv is
    rw [runLoop_snoc, h.step_file_iff hb cfg hvalid i hf, ih, trace_snoc, since_snoc]
    simp only [List.forall_mem_append, List.forall_mem_singleton, or_and_right, or_assoc,
      and_assoc]

/-- At every moment of every run the file of a wallet is its last successful backup
unless a later `Backup` failed and had removed it; where the removal fails as well
the file is left as it was, and no other command touches it. -/
theorem backups_refine_history (content : D.Net → D.Wallet → String → Bytes)
    (hb : BackupLaw D content) (cfg : Config) (st : ThreadState D) (hv : Valid belongs st)
    (is : List (Input D)) (f : String) (hf : '/' ∉ f.toList) :
    let wt : WalletThread := ⟨cfg, tempDir⟩
    (∀ bytes, (runLoop wt st is).fs (backupPath tempDir f) = .ok bytes ↔
      Since (fun _ => Makes wt content f bytes) (fun e => ¬ Touches wt f e) (trace wt st is) ∨
        (st.fs (backupPath tempDir f) = .ok bytes ∧ ∀ e ∈ trace wt st is, ¬ Touches wt f e)) ∧
    ∀ pre i post, is = pre ++ i :: post →
      (Backs f (runLoop wt st pre, i) →
        Succeeds wt (runLoop wt st pre, i) ∨ Fails wt (runLoop wt st pre, i)) ∧
      (Backs f (runLoop wt st pre, i) → Fails wt (runLoop wt st pre, i) →
        (i.env.removeFile (backupPath tempDir f) = .ok () →
          (runLoop wt st (pre ++ [i])).fs (backupPath tempDir f) = absent) ∧
        (∀ e, i.env.removeFile (backupPath tempDir f) = .error e →
          (runLoop wt st (pre ++ [i])).fs (backupPath tempDir f) =
            (runLoop wt st pre).fs (backupPath tempDir f))) ∧
      (¬ Backs f (runLoop wt st pre, i) →
        (runLoop wt st (pre ++ [i])).fs (backupPath tempDir f) =
          (runLoop wt st pre).fs (backupPath tempDir f)) := by
  intro wt
  refine ⟨fun bytes => h.runLoop_file_iff hb cfg hv is hf bytes, ?_⟩
  intro pre i post _
  rw [runLoop_snoc]
  refine ⟨?_, ?_, ?_⟩
  · rintro ⟨password, inst, htakes⟩
    exact htakes.succeeds_or_fails cfg tempDir
  · rintro ⟨password, inst, htakes⟩ hfail
    rw [hb.step_failed htakes hfail]
    constructor
    · intro hremoved
      rw [hremoved, removeFile_ok]
    · intro e hremoved
      rw [hremoved, removeFile_error]
  · intro hbacks
    exact h.step_stays cfg (h.runLoop_valid cfg st hv pre) i hf hbacks

end

/-! ## A library that makes backups while the disk has room -/

namespace Reference

/-- The outside world says whether there is room. -/
def diskTypes : RgbTypes := { types with Net := Bool }

def backupContent (_ : Bool) (w : Wallet) (password : String) : Bytes :=
  Text.bytes (w.keys.accountXpubVanilla ++ "/" ++ password)

def diskCall {α : Type} (room : Bool) (c : Call diskTypes α) : StateM (Wallet × Fs) (RResult α) :=
  match c with
  | .backup path password => fun s =>
    if room then
      (.ok (), s.1, Function.update s.2 path (.ok (backupContent room s.1 password)))
    else (.error ⟨.io, []⟩, s)
  | _ => fun s => (.error ⟨.offline, []⟩, s)

def diskDeps : Deps where
  toRgbTypes := diskTypes
  newWallet _ data keys := pure (newWallet data keys)
  checkIndexerUrl _ _ _ := .ok .electrum
  goOnline _ opts w := pure (.ok (opts, w))
  call := diskCall
  getAssetMetadata := getAssetMetadata
  getSendConsignmentPath := getSendConsignmentPath
  recipientId _ := none
  ofIoError e := ⟨.io, [("details", .text e.message)]⟩
  debug := Error.derivedDebug
  display := Error.derivedDebug
  isAlphanumeric := Char.isAlphanum
  hexEncode := Hex.encode

theorem diskCall_local (f : String) (room : Bool) {α : Type} (c : Call diskTypes α) :
    Local (belongs f) (owns f ∪ c.target) (diskCall room c) := by
  cases c with
  | backup path password =>
    cases room with
    | false =>
      exact ⟨fun _ _ _ _ _ => rfl, fun _ _ _ _ _ => rfl, fun _ _ _ _ he => he,
        fun _ _ _ => Set.eqOn_refl _ _, fun _ _ hw => hw⟩
    | true =>
      refine ⟨fun _ _ _ _ _ => rfl, fun _ _ _ _ _ => rfl, ?_, ?_, fun _ _ hw => hw⟩
      · intro w fs gs _ he p hp
        change Function.update fs path _ p = Function.update gs path _ p
        by_cases heq : p = path
        · rw [heq, Function.update_self, Function.update_self]
        · rw [Function.update_of_ne heq, Function.update_of_ne heq]
          exact he hp
      · intro w fs _ p hp
        change Function.update fs path _ p = fs p
        rw [Function.update_of_ne]
        rintro rfl
        exact hp (.inr rfl)
  | _ =>
    exact ⟨fun _ _ _ _ _ => rfl, fun _ _ _ _ _ => rfl, fun _ _ _ _ he => he,
      fun _ _ _ => Set.eqOn_refl _ _, fun _ _ hw => hw⟩

theorem disk_isolated : Isolated diskDeps tempDir owns belongs where
  disjoint := isolated.disjoint
  temp := isolated.temp
  separator := isolated.separator
  newWallet _ _ _ := .pure _ _ _
  newWallet_belongs _ _ _ := .pure fun _ h => newWallet_belongs h
  goOnline _ _ _ _ _ := .pure _ _ _
  goOnline_belongs f _ opts w hw := .pure fun o w' h => by
    cases h
    exact hw
  call f room α c := diskCall_local f room c
  consignment := isolated.consignment

theorem disk_backupLaw : BackupLaw diskDeps backupContent where
  made room path password w fs w' fs' h := by
    cases room with
    | false => cases h
    | true =>
      cases h
      exact Function.update_self ..
  failed room path password w fs err w' fs' h := by
    cases room with
    | false =>
      cases h
      rfl
    | true => cases h

/-- A disk that may be full, and a directory that files may be removed from or not. -/
def diskEnv (room removable : Bool) : Env diskDeps :=
  ⟨1000, room, fun _ => .ok (), fun _ =>
    if removable then .ok () else .error ⟨.permissionDenied, "Operation not permitted"⟩⟩

def diskThread : WalletThread := ⟨config, tempDir⟩

/-- A wallet is registered and backed up, then twice again when the disk is full: the
first time the old file cannot be removed. -/
def diskQueue : List (Input diskDeps) :=
  [⟨diskEnv true true, none, _,
      .addReadOnlyWallet key.xpubCol key.xpubVan key.masterFingerprint⟩,
    ⟨diskEnv true true, some key.masterFingerprint, _, .backup "pw"⟩,
    ⟨diskEnv false false, some key.masterFingerprint, _, .backup "pw"⟩,
    ⟨diskEnv false true, some key.masterFingerprint, _, .backup "pw"⟩]

/-- The thread after the first `n` commands of the queue. -/
def afterQueue (n : Nat) : ThreadState diskDeps :=
  runLoop diskThread (.start fun _ => absent) (diskQueue.take n)

def backupFile (n : Nat) : Node :=
  (afterQueue n).fs (backupPath tempDir key.masterFingerprint)

def firstBackup : Bytes :=
  backupContent true ⟨⟨key.xpubCol, key.xpubVan, none, key.masterFingerprint, none⟩, 0⟩ "pw"

end Reference

/-- A `Backup` fails for which the file could be removed, and the file of the first
one is gone. -/
theorem last_backup_lost :
    BackupLaw Reference.diskDeps Reference.backupContent ∧
    Isolated Reference.diskDeps Reference.tempDir Reference.owns Reference.belongs ∧
    ¬ LastGoodSurvives (D := Reference.diskDeps) Reference.diskThread Reference.backupContent
      (.start fun _ => absent) Reference.key.masterFingerprint ∧
    Reference.backupFile 3 = .ok Reference.firstBackup ∧
    (answer Reference.diskThread (Reference.afterQueue 3) (Reference.diskQueue[3])).map
      Answer.isOk = some false ∧
    Reference.backupFile 4 = absent := by
  refine ⟨Reference.disk_backupLaw, Reference.disk_isolated, ?_, rfl, rfl, rfl⟩
  intro hsurvives
  have hmade : Since (fun _ => Makes Reference.diskThread Reference.backupContent
        Reference.key.masterFingerprint Reference.firstBackup)
      (fun e => ¬ (Backs Reference.key.masterFingerprint e ∧ Succeeds Reference.diskThread e))
      (trace Reference.diskThread (.start fun _ => absent) Reference.diskQueue) := by
    refine ⟨[_], _, [_, _], rfl, ⟨"pw", _, ⟨rfl, rfl, rfl, rfl⟩, ⟨_, rfl, rfl⟩, rfl⟩, ?_⟩
    intro e he
    simp only [List.mem_cons, List.not_mem_nil, or_false] at he
    obtain rfl | rfl := he
    all_goals
      rintro ⟨-, a, ha, hok⟩
      cases ha
      cases hok
  have hfile : Reference.backupFile 4 = .ok Reference.firstBackup :=
    hsurvives Reference.diskQueue _ hmade
  exact absurd hfile (by decide)

/-- What is on file after a `Backup` that failed, and could not remove it, was made by
the first one. -/
theorem backups_refine_history_disk :
    Since (fun _ => Makes Reference.diskThread Reference.backupContent
        Reference.key.masterFingerprint Reference.firstBackup)
      (fun e => ¬ Touches Reference.diskThread Reference.key.masterFingerprint e)
      (trace Reference.diskThread (.start fun _ => absent) (Reference.diskQueue.take 3)) := by
  have hfile : Reference.backupFile 3 = .ok Reference.firstBackup := rfl
  obtain ⟨hiff, -⟩ := backups_refine_history Reference.disk_isolated Reference.backupContent
    Reference.disk_backupLaw Reference.config (.start fun _ => absent) (valid_start _ _)
    (Reference.diskQueue.take 3) Reference.key.masterFingerprint (by decide)
  obtain hsince | ⟨hstart, -⟩ := (hiff _).mp hfile
  · exact hsince
  · cases hstart

end RgbNodeApi

import RgbNodeApi.LoopStep
import RgbNodeApi.Consignment

/-!
# What the operations of one wallet touch

rgb-lib keeps each wallet in places of its own. Together with the backup file,
whose name is made from the fingerprint, these are the wallet's footprint: every
operation the service runs on a wallet reads and writes files only there.
-/
namespace RgbNodeApi

open Files Footprint

variable {D : Deps}

/-- Wallets of different fingerprints share no state: `owns f` are the places
rgb-lib uses for fingerprint `f`, and `belongs f` holds of the wallets that were
made for it. Directories of wallets hold no backups, and no fingerprint that a
wallet is made for contains a separator. -/
structure Isolated (D : Deps) (tempDir : Path) (owns : String → Set Path)
    (belongs : String → D.Wallet → Prop) : Prop where
  disjoint : ∀ f g, f ≠ g → Disjoint (owns f) (owns g)
  temp : ∀ f g, tempDir.join (backupFilename g) ∉ owns f
  separator : ∀ f w, belongs f w → '/' ∉ f.toList
  newWallet : ∀ net data keys,
    Local (fun _ => True) (owns keys.masterFingerprint) (D.newWallet net data keys)
  newWallet_belongs : ∀ net data keys,
    Returns (fun r => ∀ w, r = .ok w → belongs keys.masterFingerprint w)
      (D.newWallet net data keys)
  goOnline : ∀ f net opts w, belongs f w → Local (fun _ => True) (owns f) (D.goOnline net opts w)
  goOnline_belongs : ∀ f net opts w, belongs f w →
    Returns (fun r => ∀ o w', r = .ok (o, w') → belongs f w') (D.goOnline net opts w)
  call : ∀ f net {α : Type} (c : Call D.toRgbTypes α),
    Local (belongs f) (owns f ∪ c.target) (D.call net c)
  consignment : ∀ f w assetId txid m, belongs f w → D.getAssetMetadata w assetId = .ok m →
    SafeComponent txid → D.getSendConsignmentPath w assetId txid ∈ owns f

namespace Reference

/-- The directory of a fingerprint, and the wallets in it. -/
def owns (f : String) : Set Path := {p | ∃ rest, p = ⟨false, dataDir :: f :: rest⟩}

def belongs (f : String) (w : Wallet) : Prop :=
  w.keys.masterFingerprint = f ∧ isFingerprint f = true

theorem isFingerprint_safe {f : String} (h : isFingerprint f = true) : SafeComponent f := by
  simp only [isFingerprint, Bool.and_eq_true, beq_iff_eq, List.all_eq_true] at h
  obtain ⟨hlen, hdigits⟩ := h
  refine ⟨?_, ?_, ?_, fun hmem => (Hex.isDigit_ne (hdigits _ hmem)).2 rfl⟩
  all_goals
    rintro rfl
    revert hlen
    decide

theorem newWallet_belongs {data : WalletData} {keys : SinglesigKeys} {w : Wallet}
    (h : newWallet data keys = .ok w) : belongs keys.masterFingerprint w := by
  unfold newWallet at h
  split at h
  · cases h
  · split at h
    · rename_i hf
      cases h
      exact ⟨rfl, hf⟩
    · cases h

theorem call_keys {α : Type} (c : Call types α) (w : Wallet) : (call c w).2.keys = w.keys := by
  cases c <;> rfl

theorem walletDir_eq {f : String} {w : Wallet} (h : belongs f w) :
    walletDir w = ⟨false, [dataDir, f]⟩ := by
  obtain ⟨rfl, hf⟩ := h
  have hdata : Path.ofString dataDir = ⟨false, [dataDir]⟩ :=
    ofString_of_noSeparator dataDir (by decide) (by decide) (by decide)
  rw [walletDir, hdata, join_safe _ _ (isFingerprint_safe hf)]
  rfl

/-- The reference library keeps its wallets apart. -/
theorem isolated : Isolated deps tempDir owns belongs where
  disjoint f g hne := by
    rw [Set.disjoint_left]
    rintro p ⟨rest, rfl⟩ ⟨rest', he⟩
    simp only [Files.Path.mk.injEq, List.cons.injEq, true_and] at he
    exact hne he.1
  temp f g := by
    rintro ⟨rest, he⟩
    have habs : (tempDir.join (backupFilename g)).absolute = true := by
      simp only [Path.join]
      split
      · assumption
      · rfl
    rw [he] at habs
    cases habs
  separator f w h := (isFingerprint_safe h.2).noSeparator
  newWallet _ _ _ := .pure _ _ _
  newWallet_belongs _ _ _ := .pure fun _ h => newWallet_belongs h
  goOnline _ _ _ _ _ := .pure _ _ _
  goOnline_belongs f _ opts w hw := .pure fun o w' h => by
    cases h
    exact hw
  call f _ α c := by
    refine ⟨fun _ _ _ _ _ => rfl, fun _ _ _ _ _ => rfl, fun _ _ _ _ he => he,
      fun _ _ _ => Set.eqOn_refl _ _, fun w fs hw => ?_⟩
    obtain ⟨hk, hf⟩ := hw
    exact ⟨(congrArg SinglesigKeys.masterFingerprint (call_keys c w)).trans hk, hf⟩
  consignment f w id txid m hw _ ht := by
    have hdir := walletDir_eq hw
    refine ⟨[txid, assetDir id, consignmentFile], ?_⟩
    change (((walletDir w).join txid).join (assetDir id)).join consignmentFile = _
    rw [hdir, join_safe _ _ ht, join_safe _ _ (assetDir_safe id),
      join_safe _ _ consignmentFile_safe]
    rfl

end Reference

/-- The places that only the wallet of one fingerprint uses. -/
def footprint (tempDir : Path) (owns : String → Set Path) (f : String) : Set Path :=
  owns f ∪ {p | '/' ∉ f.toList ∧ p = tempDir.join (backupFilename f)}

theorem backupFilename_length (f : String) : 11 ≤ (backupFilename f).length := by
  simp only [backupFilename, String.length_append]
  have : "rgb-wallet.".length = 11 := rfl
  omega

theorem backupFilename_safe (f : String) (h : '/' ∉ f.toList) :
    SafeComponent (backupFilename f) where
  nonempty he := absurd (he ▸ backupFilename_length f) (by decide)
  notDot he := absurd (he ▸ backupFilename_length f) (by decide)
  notDotDot he := absurd (he ▸ backupFilename_length f) (by decide)
  noSeparator := by
    simp only [backupFilename, String.toList_append, List.mem_append, not_or]
    exact ⟨⟨by decide, h⟩, by decide⟩

theorem backupFilename_injective {f g : String} (h : backupFilename f = backupFilename g) :
    f = g := by
  have hl := congrArg String.toList h
  simp only [backupFilename, String.toList_append, List.append_assoc] at hl
  have hfg := List.append_cancel_right (List.append_cancel_left hl)
  exact String.toList_inj.mp hfg

variable {tempDir : Path} {owns : String → Set Path} {belongs : String → D.Wallet → Prop}

/-- Different fingerprints have disjoint footprints. -/
theorem Isolated.footprint_disjoint (h : Isolated D tempDir owns belongs) {f g : String}
    (hne : f ≠ g) : Disjoint (footprint tempDir owns f) (footprint tempDir owns g) := by
  rw [Set.disjoint_left]
  rintro p (hf | ⟨hf, rfl⟩) (hg | ⟨hg, he⟩)
  · exact Set.disjoint_left.mp (h.disjoint f g hne) hf hg
  · exact h.temp f g (he ▸ hf)
  · exact h.temp g f hg
  · have := join_safe_inj tempDir (backupFilename_safe f hf) (backupFilename_safe g hg) he
    exact hne (backupFilename_injective this)

/-- What an operation on the wallet of fingerprint `f` may do: it works inside
the footprint of `f`, and it keeps the identity of the wallet. -/
structure Within (tempDir : Path) (owns : String → Set Path) (belongs : String → D.Wallet → Prop)
    (f : String) {α : Type} (m : WalletM D α) : Prop where
  isLocal : Local (fun s => belongs f s.wallet) (footprint tempDir owns f) m
  keepsId : ∀ x, Preserves (fun s => s.1.id = x) m

theorem Within.pure (f : String) {α : Type} (a : α) :
    Within tempDir owns belongs f (Pure.pure a) where
  isLocal := .pure _ _ a
  keepsId _ := .pure _ a

theorem Within.bind {f : String} {α β : Type} {m : WalletM D α} {k : α → WalletM D β}
    (hm : Within tempDir owns belongs f m) (hk : ∀ a, Within tempDir owns belongs f (k a)) :
    Within tempDir owns belongs f (m >>= k) where
  isLocal := hm.isLocal.bind (Q := fun _ => True) (fun _ _ _ => trivial) fun a _ => (hk a).isLocal
  keepsId x := (hm.keepsId x).bind fun a => (hk a).keepsId x

theorem Within.gets (f : String) {α : Type} (φ : RgbWalletState D → α) :
    Within tempDir owns belongs f (fun s => (φ s.1, s)) where
  isLocal := .gets _ _ φ
  keepsId _ _ h := h

theorem Within.respond {f : String} {α : Type} {p : Payload} {m : WalletM D (RResult α)}
    (hm : Within tempDir owns belongs f m) (g : α → p.T D) :
    Within tempDir owns belongs f (respond m g) :=
  hm.bind fun _ => .pure f _

section Operations

variable (h : Isolated D tempDir owns belongs) (f : String)
include h

theorem Isolated.backup_mem {w : D.Wallet} (hw : belongs f w) :
    tempDir.join (backupFilename f) ∈ footprint tempDir owns f :=
  .inr ⟨h.separator f w hw, rfl⟩

/-- Calls whose target is inside the footprint stay inside. -/
theorem Isolated.within_call {α : Type} (env : Env D)
    (c : RgbWalletState D → Call D.toRgbTypes α)
    (hc : ∀ s, belongs f s.wallet → (c s).target ⊆ footprint tempDir owns f) :
    Within tempDir owns belongs f (RgbWalletState.call env c) := by
  have hl : ∀ s, belongs f s.wallet →
      Local (belongs f) (footprint tempDir owns f) (D.call env.net (c s)) := fun s hs =>
    (h.call f env.net (c s)).mono (Set.union_subset Set.subset_union_left (hc s hs))
  refine ⟨⟨?_, ?_, ?_, ?_, ?_⟩, fun x => call_id env c x⟩
  · intro s fs gs hs he
    exact (hl s hs).result s.wallet fs gs hs he
  · intro s fs gs hs he
    have := (hl s hs).own s.wallet fs gs hs he
    exact congrArg (fun w => { s with wallet := w }) this
  · intro s fs gs hs he
    exact (hl s hs).store s.wallet fs gs hs he
  · intro s fs hs
    exact (hl s hs).frame s.wallet fs hs
  · intro s fs hs
    exact (hl s hs).keeps s.wallet fs hs

/-- Calls without a target, which are all but the backup. -/
theorem Isolated.within_plain {α : Type} (env : Env D)
    (c : RgbWalletState D → Call D.toRgbTypes α) (hc : ∀ s, (c s).target = ∅) :
    Within tempDir owns belongs f (RgbWalletState.call env c) :=
  h.within_call f env c fun s _ => by rw [hc s]; exact Set.empty_subset _

theorem Isolated.within_removeBackup (outcome : Except IoError Unit) :
    Within tempDir owns belongs f
      (modify fun s => (s.1, removeFile outcome s.2 (tempDir.join (backupFilename f)))) := by
  refine ⟨?_, fun x s hs => hs⟩
  by_cases hw : ∃ w, belongs f w
  · obtain ⟨w, hw⟩ := hw
    refine Local.writeAt _ (h.backup_mem f hw) (fun fs => removeFile outcome fs _) ?_ ?_
    · intro fs gs he
      exact removeFile_same_congr outcome he
    · intro fs q hq
      exact removeFile_other outcome fs hq
  · exact .of_false _ _ fun s hs => hw ⟨s.wallet, hs⟩

theorem Isolated.within_lookup (req : GetConsignmentReq) :
    Within tempDir owns belongs f
      (fun s => (some (lookupConsignment req s.1.wallet s.2).res, s) :
        WalletM D (Option (Answer D (some .getConsignmentRes)))) := by
  refine ⟨⟨?_, fun _ _ _ _ _ => rfl, fun _ _ _ _ he => he, fun _ _ _ => Set.eqOn_refl _ _,
    fun _ _ hs => hs⟩, fun x s hs => hs⟩
  intro s fs gs hs he
  have hreads : ∀ p ∈ (lookupConsignment req s.wallet fs).reads, gs p = fs p := by
    intro p hp
    obtain ⟨ht, ⟨m, hm⟩, rfl, -⟩ := lookupConsignment_reads req s.wallet fs p hp
    exact (he (.inl (h.consignment f s.wallet _ _ m hs hm ht.safe))).symm
  exact congrArg (fun l => some l.res) (lookupConsignment_congr req s.wallet fs gs hreads).symm

theorem Isolated.within_backup (env : Env D) (password : String) :
    Within tempDir owns belongs f (handleWalletCmd tempDir env f (.backup password)) := by
  apply (h.within_removeBackup f _).bind
  intro _
  apply Within.respond
  exact h.within_call f env _ fun s hs => Set.singleton_subset_iff.mpr (h.backup_mem f hs)

/-- Every command addressed to a fingerprint stays inside its footprint. -/
theorem Isolated.within_handle (env : Env D) {T : Option Payload} (cmd : WalletCmd D T) :
    Within tempDir owns belongs f (handleWalletCmd tempDir env f cmd) := by
  apply handleWalletCmd_rule (P := Within tempDir owns belongs f)
  case pure => exact fun a => .pure f a
  case respond => exact fun m φ hm => hm.respond φ
  case call => exact fun c hc => h.within_plain f env c hc
  case metadata => exact fun assetId => .gets f fun s => D.getAssetMetadata s.wallet assetId
  case lookup => exact h.within_lookup f
  case backup => exact fun password _ => h.within_backup f env password

theorem Isolated.within_refresh (env : Env D) :
    Within tempDir owns belongs f (RgbWalletState.refresh env) :=
  h.within_plain f env _ fun _ => rfl

/-- Building a wallet works in the directories of its fingerprint. -/
theorem Isolated.newRoWallet_owns (cfg : Config) (env : Env D) (col van : String)
    (n : Option Nat) :
    Local (fun _ => True) (owns f)
      (RgbWalletState.newRoWallet (D := D) cfg env col van f n) := by
  unfold RgbWalletState.newRoWallet
  cases env.createDirAll cfg.datadir with
  | error e => exact .pure _ _ _
  | ok _ =>
  cases cfg.supportedSchemas with
  | error err => exact .pure _ _ _
  | ok schemas =>
  refine Local.bind (Q := fun r => ∀ w, r = .ok w → belongs f w)
    (h.newWallet env.net _ ⟨col, van, none, f, none⟩)
    (fun _ fs _ => h.newWallet_belongs env.net _ ⟨col, van, none, f, none⟩ ((), fs)) ?_
  rintro (err | wallet) hw
  · exact .pure _ _ _
  simp only
  cases indexerConfig cfg env with
  | error err => exact .pure _ _ _
  | ok ic =>
  refine Local.bind (Q := fun _ => True) (h.goOnline f _ _ wallet (hw wallet rfl))
    (fun _ _ _ => trivial) ?_
  rintro (err | online) -
  · exact .pure _ _ _
  · exact .pure _ _ _

theorem Isolated.newRoWallet_local (cfg : Config) (env : Env D) (col van : String)
    (n : Option Nat) :
    Local (fun _ => True) (footprint tempDir owns f)
      (RgbWalletState.newRoWallet (D := D) cfg env col van f n) :=
  (h.newRoWallet_owns f cfg env col van n).mono Set.subset_union_left

/-- A wallet that is built belongs to the fingerprint it was built for. -/
theorem Isolated.newRoWallet_belongs (cfg : Config) (env : Env D) (col van : String)
    (n : Option Nat) :
    Returns (fun r => ∀ w, r = Except.ok w → belongs f w.wallet)
      (RgbWalletState.newRoWallet (D := D) cfg env col van f n) := by
  unfold RgbWalletState.newRoWallet
  cases env.createDirAll cfg.datadir with
  | error e => exact .pure (by simp)
  | ok _ =>
  cases cfg.supportedSchemas with
  | error err => exact .pure (by simp)
  | ok schemas =>
  refine .bind_of (h.newWallet_belongs env.net _ ⟨col, van, none, f, none⟩) ?_
  rintro (err | wallet) hw
  · exact .pure (by simp)
  simp only
  cases indexerConfig cfg env with
  | error err => exact .pure (by simp)
  | ok ic =>
  refine .bind_of (h.goOnline_belongs f _ _ wallet (hw wallet rfl)) ?_
  rintro (err | ⟨online, wallet'⟩) hw'
  · exact .pure (by simp)
  · refine .pure ?_
    rintro w ⟨⟩
    exact hw' online wallet' rfl

end Operations

end RgbNodeApi

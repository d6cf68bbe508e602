import RgbNodeApi.Service

/-!
# Startup

`main` checks the schemas once, before it starts anything. What each later
registration then passes to rgb-lib, and how it can fail.
-/
namespace RgbNodeApi

open Files Actor

/-- `main` up to the wallet thread: a configuration without schemas starts nothing. -/
def main (cfg : Config) (tempDir : Path) : RResult WalletThread := do
  let _ ← cfg.supportedSchemas
  return ⟨cfg, tempDir⟩

theorem main_ok {cfg : Config} {tempDir : Path} {wt : WalletThread}
    (h : main cfg tempDir = .ok wt) :
    wt.cfg = cfg ∧ ∃ schemas, cfg.supportedSchemas = .ok schemas := by
  unfold main at h
  cases hschemas : cfg.supportedSchemas with
  | error e =>
    rw [hschemas] at h
    cases h
  | ok schemas =>
    rw [hschemas] at h
    cases h
    exact ⟨rfl, schemas, rfl⟩

/-! ## Schemas and RPCs -/

namespace Config

/-- The answers of `supported_schemas`, from the settings it reads. -/
inductive Supports (cfg : Config) : RResult (List AssetSchema) → Prop where
  | mainnet (hbfa : cfg.bfaEnabled = false) (hnet : cfg.net = .mainnet) :
      Supports cfg (.ok [.nia])
  | plain (hbfa : cfg.bfaEnabled = false) (hnet : cfg.net ≠ .mainnet) :
      Supports cfg (.ok [.nia, .ifa])
  | bridged (url : String) (chainId : Nat) (hbfa : cfg.bfaEnabled = true)
      (hnet : cfg.net ≠ .mainnet) (hurl : cfg.ethRpcUrl = some url) (hblank : Text.trim url ≠ "")
      (hchain : cfg.ethChainId = some chainId) : Supports cfg (.ok [.nia, .bfa, .ifa])
  | refused (err : Error) (hbfa : cfg.bfaEnabled = true)
      (h : cfg.net = .mainnet ∨ (∀ url, cfg.ethRpcUrl = some url → Text.trim url = "") ∨
        cfg.ethChainId = none) : Supports cfg (.error err)

theorem supportedSchemas_supports (cfg : Config) : Supports cfg cfg.supportedSchemas := by
  unfold supportedSchemas
  by_cases hbfa : cfg.bfaEnabled = true
  · rw [if_pos hbfa]
    by_cases hnet : cfg.net = .mainnet
    · rw [if_pos hnet]
      exact .refused _ hbfa (.inl hnet)
    simp only [if_neg hnet]
    cases hurl : cfg.ethRpcUrl with
    | none => exact .refused _ hbfa (.inr (.inl (by simp [hurl])))
    | some url =>
    by_cases hblank : Text.trim url = ""
    · rw [if_pos (by simp [hblank])]
      exact .refused _ hbfa (.inr (.inl (by simp [hurl, hblank])))
    rw [if_neg (by simp [hblank])]
    cases hchain : cfg.ethChainId with
    | none => exact .refused _ hbfa (.inr (.inr hchain))
    | some chainId => exact .bridged url chainId hbfa hnet hurl hblank hchain
  · have hoff : cfg.bfaEnabled = false := Bool.eq_false_iff.mpr hbfa
    rw [if_neg hbfa]
    by_cases hnet : cfg.net = .mainnet
    · simp only [if_pos hnet]
      exact .mainnet hoff hnet
    · simp only [if_neg hnet]
      exact .plain hoff hnet

/-- What the schemas and the RPCs passed to rgb-lib say about each other. -/
structure Agree (cfg : Config) (schemas : List AssetSchema) : Prop where
  nodup : schemas.Nodup
  bfa_iff_enabled : .bfa ∈ schemas ↔ cfg.bfaEnabled = true
  bfa_iff_rpc : .bfa ∈ schemas ↔ cfg.evmRpcUrls ≠ []
  rpc : .bfa ∈ schemas → ∃ chainId url, cfg.ethChainId = some chainId ∧
    cfg.ethRpcUrl = some url ∧ Text.trim url ≠ "" ∧ cfg.evmRpcUrls = [(chainId, url)]
  ifa_iff : .ifa ∈ schemas ↔ cfg.net ≠ .mainnet
  mainnet : cfg.net = .mainnet → schemas = [.nia] ∧ cfg.evmRpcUrls = []

theorem evmRpcUrls_disabled {cfg : Config} (h : cfg.bfaEnabled = false) : cfg.evmRpcUrls = [] := by
  simp [evmRpcUrls, h]

theorem agree {cfg : Config} {schemas : List AssetSchema}
    (h : cfg.supportedSchemas = .ok schemas) : Agree cfg schemas := by
  have hcases := supportedSchemas_supports cfg
  rw [h] at hcases
  cases hcases with
  | mainnet hbfa hnet =>
    have hrpc := evmRpcUrls_disabled hbfa
    constructor <;> simp [hbfa, hnet, hrpc]
  | plain hbfa hnet =>
    have hrpc := evmRpcUrls_disabled hbfa
    constructor <;> simp [hbfa, hnet, hrpc]
  | bridged url chainId hbfa hnet hurl hblank hchain =>
    have hrpc : cfg.evmRpcUrls = [(chainId, url)] := by simp [evmRpcUrls, hbfa, hurl, hchain]
    constructor <;> simp [hbfa, hnet, hrpc, hurl, hchain, hblank]

theorem supportedSchemas_error_iff (cfg : Config) :
    (∃ err, cfg.supportedSchemas = .error err) ↔
      cfg.bfaEnabled = true ∧ (cfg.net = .mainnet ∨
        (∀ url, cfg.ethRpcUrl = some url → Text.trim url = "") ∨ cfg.ethChainId = none) := by
  have hcases := supportedSchemas_supports cfg
  constructor
  · rintro ⟨err, herr⟩
    rw [herr] at hcases
    cases hcases with
    | refused _ hbfa h => exact ⟨hbfa, h⟩
  · rintro ⟨hbfa, h⟩
    cases hschemas : cfg.supportedSchemas with
    | error err => exact ⟨err, rfl⟩
    | ok schemas =>
      rw [hschemas] at hcases
      cases hcases with
      | mainnet hoff => simp [hbfa] at hoff
      | plain hoff => simp [hbfa] at hoff
      | bridged url chainId _ hnet hurl hblank hchain =>
        obtain h | h | h := h
        · exact absurd h hnet
        · exact absurd (h url hurl) hblank
        · simp [hchain] at h

end Config

/-! ## Registrations -/

variable {D : Deps}

/-- What `new_ro_wallet` hands to rgb-lib, given the schemas and the RPCs. -/
def walletData (cfg : Config) (schemas : List AssetSchema) : WalletData where
  dataDir := cfg.datadir
  bitcoinNetwork := cfg.net
  maxAllocationsPerUtxo := 5
  supportedSchemas := schemas

def walletKeys (key : XWalletKey) : SinglesigKeys where
  accountXpubColored := key.xpubCol
  accountXpubVanilla := key.xpubVan
  mnemonic := none
  masterFingerprint := key.masterFingerprint
  vanillaKeychain := none

def onlineOptions (indexerConfig : IndexerConfig) (urls : List (Nat × String)) :
    OnlineOptions where
  indexerConfig
  skipConsistencyCheck := false
  vanillaSyncLookback := 20
  failedWitnessReceiveGraceSecs := 604800
  proxyAuthKeys := []
  evmRpcUrls := urls

/-- The ways a construction with these schemas and RPCs can go. It fails with the
data directory, with rgb-lib or with the indexer. -/
inductive Construction (cfg : Config) (schemas : List AssetSchema) (urls : List (Nat × String))
    (env : Env D) (key : XWalletKey) (fs : Fs) : RResult (RgbWalletState D) → Fs → Prop where
  | noDirectory (e : IoError) (hdir : env.createDirAll cfg.datadir = .error e) :
      Construction cfg schemas urls env key fs (.error (D.ofIoError e)) fs
  | noWallet (err : Error) (fs' : Fs)
      (hnew : (D.newWallet env.net (walletData cfg schemas) (walletKeys key)).run ((), fs) =
        (.error err, (), fs')) :
      Construction cfg schemas urls env key fs (.error err) fs'
  | noIndexer (wallet : D.Wallet) (err : Error) (fs' : Fs)
      (hnew : (D.newWallet env.net (walletData cfg schemas) (walletKeys key)).run ((), fs) =
        (.ok wallet, (), fs'))
      (hindexer : indexerConfig cfg env = .error err) :
      Construction cfg schemas urls env key fs (.error err) fs'
  | offline (wallet : D.Wallet) (indexer : IndexerConfig) (err : Error) (fs' fs'' : Fs)
      (hnew : (D.newWallet env.net (walletData cfg schemas) (walletKeys key)).run ((), fs) =
        (.ok wallet, (), fs'))
      (hindexer : indexerConfig cfg env = .ok indexer)
      (honline : (D.goOnline env.net (onlineOptions indexer urls) wallet).run ((), fs') =
        (.error err, (), fs'')) :
      Construction cfg schemas urls env key fs (.error err) fs''
  | built (wallet wallet' : D.Wallet) (indexer : IndexerConfig) (online : D.Online) (fs' fs'' : Fs)
      (w : RgbWalletState D)
      (hnew : (D.newWallet env.net (walletData cfg schemas) (walletKeys key)).run ((), fs) =
        (.ok wallet, (), fs'))
      (hindexer : indexerConfig cfg env = .ok indexer)
      (honline : (D.goOnline env.net (onlineOptions indexer urls) wallet).run ((), fs') =
        (.ok (online, wallet'), (), fs''))
      (hwallet : w.wallet = wallet' ∧ w.walletOnline = online) :
      Construction cfg schemas urls env key fs (.ok w) fs''

theorem building_bind {α β : Type} {m : Building α} {f : α → Building β} {s s' : Unit × Fs}
    {a : α} (h : m.run s = (a, s')) : (m >>= f).run s = (f a).run s' := by
  rw [StateT.run_bind, h]
  rfl

theorem newRoWallet_construction {cfg : Config} {schemas : List AssetSchema}
    (h : cfg.supportedSchemas = .ok schemas) (env : Env D) (key : XWalletKey) (fs : Fs)
    {res : RResult (RgbWalletState D)} {fs' : Fs}
    (hrun : (RgbWalletState.newRoWallet cfg env key.xpubCol key.xpubVan key.masterFingerprint
      none).run ((), fs) = (res, (), fs')) :
    Construction cfg schemas cfg.evmRpcUrls env key fs res fs' := by
  unfold RgbWalletState.newRoWallet at hrun
  cases hdir : env.createDirAll cfg.datadir with
  | error e =>
    rw [hdir] at hrun
    cases hrun
    exact .noDirectory e hdir
  | ok _ =>
  simp only [hdir, h, Option.getD_none] at hrun
  cases hnew : (D.newWallet env.net (walletData cfg schemas) (walletKeys key)).run ((), fs) with
  | mk created s =>
  obtain ⟨_, fs₁⟩ := s
  have hnew' := hnew
  simp only [walletData, walletKeys] at hnew'
  rw [building_bind hnew'] at hrun
  cases created with
  | error err =>
    cases hrun
    exact .noWallet err _ hnew
  | ok wallet =>
  cases hindexer : indexerConfig cfg env with
  | error err =>
    simp only [hindexer] at hrun
    cases hrun
    exact .noIndexer wallet err _ hnew hindexer
  | ok indexer =>
  cases honline : (D.goOnline env.net (onlineOptions indexer cfg.evmRpcUrls) wallet).run
      ((), fs₁) with
  | mk connected s =>
  obtain ⟨_, fs₂⟩ := s
  have honline' := honline
  simp only [onlineOptions] at honline'
  simp only [hindexer] at hrun
  rw [building_bind honline'] at hrun
  cases connected with
  | error err =>
    cases hrun
    exact .offline wallet indexer err fs₁ _ hnew hindexer honline
  | ok r =>
    obtain ⟨online, wallet'⟩ := r
    cases hrun
    exact .built wallet wallet' indexer online fs₁ _ _ hnew hindexer honline ⟨rfl, rfl⟩

/-- A registration as the loop handles it: the answer and the next state. A wallet
that is registered stays, any other is constructed. -/
inductive Registration (cfg : Config) (schemas : List AssetSchema) (urls : List (Nat × String))
    (env : Env D) (key : XWalletKey) (st : ThreadState D) :
    Option (Answer D (some .bool)) × ThreadState D → Prop where
  | present (arc : Arc) (ha : st.multiWstate[key.masterFingerprint]? = some arc) :
      Registration cfg schemas urls env key st (some (.ok true), st)
  | failed (err : Error) (fs : Fs) (ha : st.multiWstate[key.masterFingerprint]? = none)
      (hc : Construction cfg schemas urls env key st.fs (.error err) fs) :
      Registration cfg schemas urls env key st (some (.error err), { st with fs := fs })
  | built (w : RgbWalletState D) (fs : Fs) (ha : st.multiWstate[key.masterFingerprint]? = none)
      (hc : Construction cfg schemas urls env key st.fs (.ok w) fs) :
      Registration cfg schemas urls env key st (some (.ok true),
        { st with
          multiWstate := st.multiWstate.insert key.masterFingerprint st.arcs.length
          arcs := st.arcs ++ [⟨key, w⟩]
          fs := fs })

/-- The command that registers the wallet of a key, under any id. -/
def registers (ido : Option String) (key : XWalletKey) : Request D :=
  ⟨ido, some .bool, .addReadOnlyWallet key.xpubCol key.xpubVan key.masterFingerprint⟩

theorem registers_registration {wt : WalletThread} {schemas : List AssetSchema}
    (h : wt.cfg.supportedSchemas = .ok schemas) {st : ThreadState D} (hr : st.running = true)
    (env : Env D) (ido : Option String) (key : XWalletKey) :
    Registration wt.cfg schemas wt.cfg.evmRpcUrls env key st
      (answer wt st ((registers ido key).input env),
        step wt st ((registers ido key).input env)) := by
  simp only [answer, step, hr, if_true, registers, Request.input]
  cases process_adding wt env ido st key with
  | present arc ha hout =>
    rw [hout]
    exact .present arc ha
  | failed err fs ha hw hout =>
    rw [hout]
    exact .failed err fs ha (newRoWallet_construction h env key st.fs hw)
  | built w fs ha hw hout =>
    rw [hout]
    exact .built w fs ha (newRoWallet_construction h env key st.fs hw)

/-- A configuration the service starts with has schemas and RPCs that agree, and
every registration of every run passes them on; it is refused exactly for an
opt-in to BFA that is incomplete or on mainnet. -/
theorem startup_agrees (cfg : Config) :
    (∀ tempDir wt, main cfg tempDir = .ok wt →
      ∃ schemas, cfg.supportedSchemas = .ok schemas ∧ cfg.Agree schemas ∧
        ∀ (D : Deps) (fs : Fs) (arrives : Client D → Prop) (s : State (service wt fs arrives)),
          Reachable s → ∀ ido key ticket, s.phase = .handling ⟨registers ido key, ticket⟩ →
            ∀ env, Registration cfg schemas cfg.evmRpcUrls env key s.server
              ((service wt fs arrives).handle s.server env (registers ido key))) ∧
    ((∃ err, cfg.supportedSchemas = .error err) ↔
      cfg.bfaEnabled = true ∧ (cfg.net = .mainnet ∨
        (∀ url, cfg.ethRpcUrl = some url → Text.trim url = "") ∨ cfg.ethChainId = none)) := by
  constructor
  · intro tempDir wt hmain
    obtain ⟨rfl, schemas, hschemas⟩ := main_ok hmain
    refine ⟨schemas, hschemas, Config.agree hschemas, ?_⟩
    intro D fs arrives s hs ido key ticket hphase env
    have hr : s.server.running = true := by
      apply running_of_serving hs rfl
      rw [hphase]
      rfl
    exact registers_registration hschemas hr env ido key
  · exact cfg.supportedSchemas_error_iff

end RgbNodeApi

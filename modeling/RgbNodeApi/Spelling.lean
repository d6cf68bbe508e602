import RgbNodeApi.KeyBinding
import RgbNodeApi.Lib.Hex

/-!
# Spellings of a fingerprint

The header text is the key of the registry, as it was sent. Two spellings of one
hex number are two keys, so a fingerprint has one wallet exactly where the
requests that register wallets spell each fingerprint in one way.
-/
namespace RgbNodeApi

open Files Actor

variable {D : Deps} {wt : WalletThread} {fs : Fs} {K : HttpRequest D → Prop}

/-- Two texts that are the same hex number. -/
def SameNumber (f g : String) : Prop := ∃ v, Hex.number f = some v ∧ Hex.number g = some v

theorem SameNumber.left {f g : String} (h : SameNumber f g) : SameNumber f f := by
  obtain ⟨v, hf, -⟩ := h
  exact ⟨v, hf, hf⟩

/-- No two live entries denote one fingerprint, and two requests for one fingerprint
with the same xpubs and no drop of it in between are served by one wallet. -/
structure SpellingFree (s : State (service wt fs (Serves K))) : Prop where
  live : ∀ (f g : String) (a b : Arc), s.server.multiWstate[f]? = some a →
    s.server.multiWstate[g]? = some b → SameNumber f g → f = g
  served : ∀ (m n : Nat) (env env' : Env D) (r r' : Request D) (i i' c c' : Nat)
    (req req' : HttpRequest D) (key key' : XWalletKey),
    s.log[m]? = some (env, ⟨r, some ⟨i, .http req, c⟩⟩) →
    s.log[n]? = some (env', ⟨r', some ⟨i', .http req', c'⟩⟩) → m < n →
    req.key = some key → req'.key = some key' → r.cmd.isRouted = true →
    r'.cmd.isRouted = true → key.xpubCol = key'.xpubCol → key.xpubVan = key'.xpubVan →
    SameNumber key.masterFingerprint key'.masterFingerprint →
    (∀ j ∈ between s.log m n, ∀ g, j.dropped = some g → ¬ SameNumber g key.masterFingerprint) →
    ∀ a ∈ servedBy wt (runLoop wt (.start fs) (history (s.log.take m))) (r.input env),
      ∀ b ∈ servedBy wt (runLoop wt (.start fs) (history (s.log.take n))) (r'.input env'), a = b

/-- The requests that register wallets spell each fingerprint in one way. -/
def OneSpelling (K : HttpRequest D → Prop) : Prop :=
  ∀ (req req' : HttpRequest D) (key key' : XWalletKey), K req → K req' →
    req.endpoint.isDrop = false → req'.endpoint.isDrop = false → req.key = some key →
    req'.key = some key' → SameNumber key.masterFingerprint key'.masterFingerprint →
    key.masterFingerprint = key'.masterFingerprint

/-- Two operations addressed to one key run on one wallet when the key is spared in
between. -/
theorem served_same {s : State (service wt fs (Serves K))} {m n : Nat} {env env' : Env D}
    {r r' : Request D} {k : Option (Ticket (service wt fs (Serves K)))} {f : String}
    (hm : s.log[m]? = some (env, ⟨r, k⟩)) (hlt : m < n) (hr : r.cmd.isRouted = true)
    (hr' : r'.cmd.isRouted = true) (hf : r.ido = some f) (hf' : r'.ido = some f)
    (hspare : ∀ j ∈ between s.log m n, j.dropped ≠ some f) {a b : Arc}
    (ha : a ∈ servedBy wt (runLoop wt (.start fs) (history (s.log.take m))) (r.input env))
    (hb : b ∈ servedBy wt (runLoop wt (.start fs) (history (s.log.take n))) (r'.input env')) :
    a = b := by
  obtain ⟨-, f₁, hf₁, ha⟩ := mem_servedBy_routed (i := r.input env) hr ha
  obtain ⟨hrun, f₂, hf₂, hb⟩ := mem_servedBy_routed (i := r'.input env') hr' hb
  cases Option.some.inj (hf.symm.trans hf₁)
  cases Option.some.inj (hf'.symm.trans hf₂)
  have htake : history (s.log.take (m + 1)) = history (s.log.take m) ++ [r.input env] := by
    rw [List.take_add_one, hm]
    exact history_snoc _ _
  have hnext : (runLoop wt (.start fs) (history (s.log.take (m + 1)))).multiWstate[f]? =
      some a := by
    rw [htake, runLoop_append, stays_iff wt (wellFormed_history _) ha]
    intro j hj
    cases List.mem_singleton.mp hj
    exact spares_of_not_drop (WalletCmd.routed_isDrop _ hr) (WalletCmd.routed_isStop _ hr) f
  rw [runLoop_between s.log hlt] at hrun hb
  have hstops := not_stopped_of_running wt _ _ hrun
  have hstays := (stays_iff wt (wellFormed_history (s.log.take (m + 1))) hnext
    (between s.log m n)).mpr fun j hj => ⟨hspare j hj, hstops j hj⟩
  rw [hstays] at hb
  exact Option.some.inj hb

theorem spellingFree_of_oneSpelling (hone : OneSpelling K) {s : State (service wt fs (Serves K))}
    (h : Reachable s) : SpellingFree s := by
  constructor
  · intro f g a b hf hg hsame
    obtain ⟨req, key, hK, hd, hkey, rfl⟩ := registered_for_request h hf
    obtain ⟨req', key', hK', hd', hkey', rfl⟩ := registered_for_request h hg
    exact hone req req' key key' hK hK' hd hd' hkey hkey' hsame
  · intro m n env env' r r' i i' c c' req req' key key' hm hn hlt hkey hkey' hr hr' _ _ hsame hdrop
      a ha b hb
    obtain ⟨hK, hw, hido, -⟩ := routed_sent h hm hkey hr
    obtain ⟨hK', hw', hido', -⟩ := routed_sent h hn hkey' hr'
    have hmf := hone req req' key key' hK hK' hw.not_drop hw'.not_drop hkey hkey' hsame
    have hspare : ∀ j ∈ between s.log m n, j.dropped ≠ some key.masterFingerprint := by
      intro j hj hd
      exact hdrop j hj _ hd hsame.left
    exact served_same hm hlt hr hr' hido (hmf ▸ hido') hspare ha hb

variable (wt fs) in
/-- Two spellings of one fingerprint get two live entries. -/
theorem two_entries {req req' : HttpRequest D} {key key' : XWalletKey} (hK : K req)
    (hK' : K req') (hd : req.endpoint.isDrop = false) (hd' : req'.endpoint.isDrop = false)
    (hkey : req.key = some key) (hkey' : req'.key = some key')
    (hne : key.masterFingerprint ≠ key'.masterFingerprint) (hacc : Accepts wt fs K key)
    (hacc' : Accepts wt fs K key') :
    ∃ (s : State (service wt fs (Serves K))) (a b : Arc), Reachable s ∧
      s.server.multiWstate[key.masterFingerprint]? = some a ∧
      s.server.multiWstate[key'.masterFingerprint]? = some b := by
  obtain ⟨s₁, p₁, w, hs₁, hcalm₁, -, -, hrun₁, hreg₁, -⟩ :=
    first_registered wt fs hK hkey hd hacc.start
  have habsent : s₁.server.multiWstate[key'.masterFingerprint]? = none := by
    rw [hreg₁, getElem?_insert_ne _ _ hne.symm]
    simp
  obtain ⟨env', w', hans', -, hreg', -⟩ :=
    register_absent s₁.server hrun₁ (hacc' s₁ hs₁ hcalm₁.live) habsent
  obtain ⟨s₂, p₂, c₂, hs₂, -, -, -, hserver₂, -⟩ :=
    calm_register hcalm₁ hK' hkey' hd' hrun₁ hans'
  have hreg₂ := (congrArg ThreadState.multiWstate hserver₂).trans hreg'
  refine ⟨s₂, 0, s₁.server.arcs.length, hs₁.trans hs₂, ?_, ?_⟩
  · rw [hreg₂, getElem?_insert_ne _ _ hne, hreg₁, getElem?_insert_self]
  · rw [hreg₂, getElem?_insert_self]

/-- A fingerprint has one wallet, however it is spelled, when the requests that
register wallets spell it in one way, and only then if the wallets can be built. -/
theorem one_wallet_iff_one_spelling (wt : WalletThread) (fs : Fs) (K : HttpRequest D → Prop) :
    (OneSpelling K → ∀ s : State (service wt fs (Serves K)), Reachable s → SpellingFree s) ∧
    ((∀ req key, K req → req.endpoint.isDrop = false → req.key = some key →
      Accepts wt fs K key) →
      (∀ s : State (service wt fs (Serves K)), Reachable s → SpellingFree s) →
      OneSpelling K) := by
  constructor
  · intro hone s h
    exact spellingFree_of_oneSpelling hone h
  · intro hacc hall req req' key key' hK hK' hd hd' hkey hkey' hsame
    by_contra hne
    obtain ⟨s, a, b, h, ha, hb⟩ :=
      two_entries wt fs hK hK' hd hd' hkey hkey' hne (hacc req key hK hd hkey)
        (hacc req' key' hK' hd' hkey')
    have heq := (hall s h).live _ _ a b ha hb hsame
    exact hne heq

/-- The same fingerprint in lower and in upper case. -/
theorem one_wallet_fails :
    ¬ ∀ s : State (Reference.system [Reference.request Reference.key .address,
        Reference.request Reference.upperCase .address]), Reachable s → SpellingFree s := by
  intro hall
  have hkey := Reference.request_key Reference.key rfl rfl rfl .address
  have hkey' := Reference.request_key Reference.upperCase rfl rfl rfl .address
  obtain ⟨s, a, b, h, ha, hb⟩ :=
    two_entries ⟨Reference.config, Reference.tempDir⟩ (fun _ => absent)
      (K := fun req => req ∈ [Reference.request Reference.key .address,
        Reference.request Reference.upperCase .address]) (by simp) (by simp) rfl rfl hkey hkey'
      (by decide) (Reference.accepts _ Reference.key (by decide))
      (Reference.accepts _ Reference.upperCase (by decide))
  have heq := (hall s h).live _ _ a b ha hb ⟨2712847316, by decide, by decide⟩
  exact absurd heq (by decide)

end RgbNodeApi

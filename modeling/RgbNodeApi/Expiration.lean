import RgbNodeApi.Context
import RgbNodeApi.Reference

/-!
# The deadline of a send

`expiration` is evaluated before the command is sent and again by its handler.
The deadline itself does not depend on the clock; a later reading can only
reject more. A saturated subtraction gives zero, which every clock rejects, so
an accepted default keeps its distance from every invoice.
-/
namespace RgbNodeApi

open Files

section

variable {WitnessData Encryption : Type} (req : SendBeginReq WitnessData Encryption)

/-- The deadline before the check against the clock. -/
def SendBeginReq.deadline : Option Nat :=
  match req.expirationTimestamp with
  | some expiration => some expiration
  | none => req.invoiceExpirations.min?.map (· - req.margin)

theorem durationSinceEpoch_eq (now : Int) :
    SystemTime.durationSinceEpoch now = if 0 ≤ now then some now.toNat else none := rfl

theorem expiration_eq (now : SystemTime) :
    req.expiration now =
      match req.deadline, now.durationSinceEpoch with
      | some expiration, some now =>
        if expiration ≤ now ∨ expiration > i64Max then .error .invalidExpiration
        else .ok expiration
      | _, _ => .error .invalidExpiration := by
  unfold SendBeginReq.expiration SendBeginReq.deadline
  cases req.expirationTimestamp with
  | some e => cases now.durationSinceEpoch <;> rfl
  | none =>
    cases hm : req.invoiceExpirations.min? with
    | none => rfl
    | some earliest => cases now.durationSinceEpoch <;> rfl

/-- A deadline is accepted while it is in the future and fits a signed number. -/
theorem expiration_ok_iff (now : Int) (e : Nat) :
    req.expiration now = .ok e ↔
      req.deadline = some e ∧ 0 ≤ now ∧ now < e ∧ e ≤ i64Max := by
  rw [expiration_eq, durationSinceEpoch_eq]
  cases hd : req.deadline with
  | none => simp
  | some d =>
    by_cases hnow : 0 ≤ now
    · simp only [if_pos hnow]
      split
      · rename_i hbad
        constructor
        · intro h
          cases h
        · rintro ⟨hde, -, hlt, hle⟩
          cases hde
          omega
      · rename_i hgood
        constructor
        · intro h
          cases h
          exact ⟨rfl, hnow, by omega, by omega⟩
        · rintro ⟨hde, -⟩
          cases hde
          rfl
    · simp [hnow]

/-- Every rejection is `InvalidExpiration`. -/
theorem expiration_error {now : SystemTime} {err : Error} (h : req.expiration now = .error err) :
    err = .invalidExpiration := by
  rw [expiration_eq] at h
  split at h
  · split at h <;> cases h
    rfl
  · cases h
    rfl

/-- What is rejected stays rejected. -/
theorem expiration_rejected {now now' : Int} (h0 : 0 ≤ now) (hle : now ≤ now') {err : Error}
    (h : req.expiration now = .error err) : req.expiration now' = .error .invalidExpiration := by
  cases hlate : req.expiration now' with
  | error err' => rw [expiration_error req hlate]
  | ok e =>
    obtain ⟨hd, -, hlt, hmax⟩ := (expiration_ok_iff req now' e).mp hlate
    have hearly := (expiration_ok_iff req now e).mpr ⟨hd, h0, by omega, hmax⟩
    rw [h] at hearly
    cases hearly

/-- Two readings of the clock accept the same deadline. -/
theorem expiration_agree {now now' : Int} {e e' : Nat} (h : req.expiration now = .ok e)
    (h' : req.expiration now' = .ok e') : e = e' := by
  obtain ⟨hd, -⟩ := (expiration_ok_iff req now e).mp h
  obtain ⟨hd', -⟩ := (expiration_ok_iff req now' e').mp h'
  exact Option.some.inj (hd.symm.trans hd')

/-! ## The default -/

/-- A recipient of the request, for any asset. -/
def SendBeginReq.HasRecipient (r : SendRecipient WitnessData Encryption) : Prop :=
  ∃ e ∈ req.recipientMap.entries, r ∈ e.2

theorem mem_invoiceExpirations (x : Nat) :
    x ∈ req.invoiceExpirations ↔ ∃ r, req.HasRecipient r ∧ r.expirationTimestamp = some x := by
  constructor
  · intro h
    obtain ⟨r, hr, hx⟩ := List.mem_filterMap.mp h
    obtain ⟨l, hl, hrl⟩ := List.mem_flatten.mp hr
    obtain ⟨e, he, rfl⟩ := List.mem_map.mp hl
    exact ⟨r, ⟨e, he, hrl⟩, hx⟩
  · rintro ⟨r, ⟨e, he, hr⟩, hx⟩
    apply List.mem_filterMap.mpr
    exact ⟨r, List.mem_flatten.mpr ⟨e.2, List.mem_map.mpr ⟨e, he, rfl⟩, hr⟩, hx⟩

/-- An accepted default keeps the margin from every invoice, exactly from one. -/
theorem expiration_margin (hdefault : req.expirationTimestamp = none) {now : Int} {e : Nat}
    (h : req.expiration now = .ok e) :
    (∀ x ∈ req.invoiceExpirations, e + req.margin ≤ x) ∧
      ∃ x ∈ req.invoiceExpirations, e + req.margin = x := by
  obtain ⟨hd, h0, hlt, -⟩ := (expiration_ok_iff req now e).mp h
  simp only [SendBeginReq.deadline, hdefault] at hd
  obtain ⟨earliest, hmin, he⟩ := Option.map_eq_some_iff.mp hd
  obtain ⟨hmem, hall⟩ := List.min?_eq_some_iff.mp hmin
  have hexact : e + req.margin = earliest := by omega
  constructor
  · intro x hx
    have hle := hall x hx
    omega
  · exact ⟨earliest, hmem, hexact⟩

/-- Without any invoice expiration there is no default. -/
theorem expiration_no_invoice (hdefault : req.expirationTimestamp = none)
    (hnone : ∀ r, req.HasRecipient r → r.expirationTimestamp = none) (now : SystemTime) :
    req.expiration now = .error .invalidExpiration := by
  have hempty : req.invoiceExpirations = [] := by
    apply List.eq_nil_iff_forall_not_mem.mpr
    intro x hx
    obtain ⟨r, hr, hrx⟩ := (mem_invoiceExpirations req x).mp hx
    rw [hnone r hr] at hrx
    cases hrx
  rw [expiration_eq]
  simp [SendBeginReq.deadline, hdefault, hempty]

/-! ## The iteration order -/

theorem min?_perm {l l' : List Nat} (h : l.Perm l') : l.min? = l'.min? := by
  apply Option.ext
  intro a
  rw [List.min?_eq_some_iff, List.min?_eq_some_iff, h.mem_iff]
  constructor
  · rintro ⟨ha, hall⟩
    exact ⟨ha, fun b hb => hall b (h.mem_iff.mpr hb)⟩
  · rintro ⟨ha, hall⟩
    exact ⟨ha, fun b hb => hall b (h.mem_iff.mp hb)⟩

/-- The order of the map's entries does not matter. -/
theorem expiration_perm (m : RecipientMap (SendRecipient WitnessData Encryption))
    (h : m.entries.Perm req.recipientMap.entries) (now : SystemTime) :
    { req with recipientMap := m }.expiration now = req.expiration now := by
  have hperm : ({ req with recipientMap := m } : SendBeginReq _ _).invoiceExpirations.Perm
      req.invoiceExpirations := ((h.map Prod.snd).flatten).filterMap _
  rw [expiration_eq, expiration_eq]
  simp only [SendBeginReq.deadline, min?_perm hperm]
  rfl

end

/-! ## The two places -/

variable {D : Deps}

/-- The deadline that a call passes to rgb-lib's send. -/
def Call.sendDeadline {T : RgbTypes} : {α : Type} → Call T α → Option Nat
  | _, .sendBegin _ _ _ _ _ expirationTimestamp _ _ => some expirationTimestamp
  | _, _ => none

/-- Nothing is sent for a deadline that is rejected at once. -/
theorem sendBegin_early (ctx : WalletCtx) (req : SendBeginReq D.WitnessData D.Encryption) :
    ∃ k, ctx.sendBegin req = .clock k ∧
      (∀ now err, req.expiration now = .error err → k now = .ret (.error err)) ∧
      (∀ now e, req.expiration now = .ok e → k now = ctx.sendCmd (.sendBegin req)) := by
  refine ⟨_, rfl, ?_, ?_⟩
  · intro now err h
    simp only [h]
  · intro now e h
    simp only [h]
    rfl

/-- A deadline that is rejected late is answered without a call. -/
theorem sendBegin_late_error (tempDir : Path) (env : Env D) (id : String)
    (req : SendBeginReq D.WitnessData D.Encryption) {err : Error}
    (h : req.expiration env.now = .error err) :
    handleWalletCmd tempDir env id (.sendBegin req) = pure (some (.error err)) := by
  simp only [handleWalletCmd, handleSendBegin, h]

/-- The accepted deadline is what rgb-lib's send gets. -/
theorem sendBegin_late_ok (tempDir : Path) (env : Env D) (id : String)
    (req : SendBeginReq D.WitnessData D.Encryption) {e : Nat}
    (h : req.expiration env.now = .ok e) :
    ∃ c : RgbWalletState D → Call D.toRgbTypes BeginResult,
      handleWalletCmd tempDir env id (.sendBegin req) =
        respond (p := .string) (RgbWalletState.call env c) BeginResult.psbt ∧
      ∀ w, (c w).sendDeadline = some e := by
  simp only [handleWalletCmd, handleSendBegin, h]
  exact ⟨_, rfl, fun _ => rfl⟩

/-- The deadline of a send is checked twice and decided once: for two readings of
the clock, the early check never changes what reaches rgb-lib or with which
deadline, and that deadline keeps the promised distance. -/
theorem send_deadline (ctx : WalletCtx) (req : SendBeginReq D.WitnessData D.Encryption)
    (now₁ now₂ : Int) (hepoch : 0 ≤ now₁) (hle : now₁ ≤ now₂) :
    (∀ err, req.expiration now₁ = .error err → req.expiration now₂ = .error .invalidExpiration) ∧
    (∀ e₁ e₂, req.expiration now₁ = .ok e₁ → req.expiration now₂ = .ok e₂ → e₁ = e₂) ∧
    (∃ k, ctx.sendBegin req = .clock k ∧
      (∀ err, req.expiration now₁ = .error err → k now₁ = .ret (.error err)) ∧
      (∀ e, req.expiration now₁ = .ok e → k now₁ = ctx.sendCmd (.sendBegin req))) ∧
    (∀ (tempDir : Path) (env : Env D) (id : String), env.now = now₂ →
      (∀ err, req.expiration now₁ = .error err ∨ req.expiration now₂ = .error err →
        handleWalletCmd tempDir env id (.sendBegin req) =
          pure (some (.error .invalidExpiration))) ∧
      (∀ e, req.expiration now₂ = .ok e →
        req.expiration now₁ = .ok e ∧
        ∃ c : RgbWalletState D → Call D.toRgbTypes BeginResult,
          handleWalletCmd tempDir env id (.sendBegin req) =
            respond (p := .string) (RgbWalletState.call env c) BeginResult.psbt ∧
          ∀ w, (c w).sendDeadline = some e)) ∧
    (∀ e, req.expiration now₂ = .ok e → now₂ < e ∧ e ≤ i64Max) ∧
    (∀ x e, req.expirationTimestamp = some x → req.expiration now₂ = .ok e → e = x) ∧
    (req.expirationTimestamp = none → ∀ e, req.expiration now₂ = .ok e →
      (∀ r x, req.HasRecipient r → r.expirationTimestamp = some x →
        e + (if req.donation then 0 else 600) ≤ x) ∧
      ∃ r x, req.HasRecipient r ∧ r.expirationTimestamp = some x ∧
        e + (if req.donation then 0 else 600) = x) ∧
    (req.expirationTimestamp = none → (∀ r, req.HasRecipient r → r.expirationTimestamp = none) →
      req.expiration now₁ = .error .invalidExpiration ∧
      req.expiration now₂ = .error .invalidExpiration) ∧
    (∀ m : RecipientMap (SendRecipient D.WitnessData D.Encryption),
      m.entries.Perm req.recipientMap.entries →
      ∀ now, { req with recipientMap := m }.expiration now = req.expiration now) := by
  have hrejected : ∀ err, req.expiration now₁ = .error err →
      req.expiration now₂ = .error .invalidExpiration :=
    fun err => expiration_rejected req hepoch hle
  refine ⟨hrejected, fun e₁ e₂ => expiration_agree req, ?_, ?_, ?_, ?_, ?_, ?_, ?_⟩
  · obtain ⟨k, hk, herr, hok⟩ := sendBegin_early ctx req
    exact ⟨k, hk, herr now₁, hok now₁⟩
  · rintro tempDir env id rfl
    constructor
    · rintro err (h | h)
      · exact sendBegin_late_error tempDir env id req (hrejected err h)
      · rw [sendBegin_late_error tempDir env id req h, expiration_error req h]
    · intro e h
      obtain ⟨hd, -, hlt, hmax⟩ := (expiration_ok_iff req env.now e).mp h
      have hearly := (expiration_ok_iff req now₁ e).mpr ⟨hd, hepoch, by omega, hmax⟩
      exact ⟨hearly, sendBegin_late_ok tempDir env id req h⟩
  · intro e h
    obtain ⟨-, -, hlt, hmax⟩ := (expiration_ok_iff req now₂ e).mp h
    exact ⟨hlt, hmax⟩
  · intro x e hx h
    obtain ⟨hd, -⟩ := (expiration_ok_iff req now₂ e).mp h
    simp only [SendBeginReq.deadline, hx, Option.some.injEq] at hd
    exact hd.symm
  · intro hdefault e h
    obtain ⟨hall, x, hx, hexact⟩ := expiration_margin req hdefault h
    constructor
    · intro r x hr hrx
      exact hall x ((mem_invoiceExpirations req x).mpr ⟨r, hr, hrx⟩)
    · obtain ⟨r, hr, hrx⟩ := (mem_invoiceExpirations req x).mp hx
      exact ⟨r, x, hr, hrx, hexact⟩
  · intro hdefault hnone
    exact ⟨expiration_no_invoice req hdefault hnone now₁,
      expiration_no_invoice req hdefault hnone now₂⟩
  · intro m hm now
    exact expiration_perm req m hm now

namespace Reference

def recipient (id : String) (expiration : Option Nat) :
    SendRecipient types.WitnessData types.Encryption :=
  { recipientId := id, amount := 1, transportEndpoints := [], encryption := true,
    expirationTimestamp := expiration }

/-- Two recipients with invoices that expire an hour apart, and one without. -/
def send : SendBeginReq deps.WitnessData deps.Encryption where
  recipientMap :=
    { entries := [(assetId, [recipient "later" (some 8200), recipient "none" none]),
        ("rgb:other", [recipient "earlier" (some 4600)])]
      distinct := by decide }

end Reference

/-- Two clock readings five seconds apart, and invoices that are an hour away. -/
theorem send_deadline_reference :
    Reference.send.expiration 1000 = .ok 4000 ∧ Reference.send.expiration 1005 = .ok 4000 ∧
    (1005 : Int) < 4000 ∧ ∃ r x, Reference.send.HasRecipient r ∧ r.expirationTimestamp = some x ∧
      4000 + 600 = x := by
  have hearly : Reference.send.expiration 1000 = .ok 4000 := by decide
  have hlate : Reference.send.expiration 1005 = .ok 4000 := by decide
  obtain ⟨-, -, -, -, hfuture, -, hmargin, -⟩ :=
    send_deadline .new Reference.send 1000 1005 (by decide) (by decide)
  exact ⟨hearly, hlate, (hfuture 4000 hlate).1, (hmargin rfl 4000 hlate).2⟩

end RgbNodeApi

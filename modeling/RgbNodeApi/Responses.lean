import RgbNodeApi.Envelope

/-!
# Responses

What a client gets back: the status and the JSON body of every response, and that
they tell what the loop answered to the commands of that request and nothing else.
-/
namespace RgbNodeApi

open Files Actor Json

variable {D : Deps}

/-! ## Bodies -/

/-- How rgb-lib's types are written. -/
structure RgbOut (D : Deps) where
  btcBalance : D.BtcBalance → Value
  balance : D.Balance → Value
  unspent : D.Unspent → Value
  assets : D.Assets → Value
  transfer : D.Transfer → Value
  transaction : D.Transaction → Value
  assetNIA : D.AssetNIA → Value
  assetIFA : D.AssetIFA → Value
  receiveData : D.ReceiveData → Value

/-- The types of whole answers are structs. -/
structure RgbOut.Structs (S : RgbOut D) : Prop where
  btcBalance : ∀ b, ∃ ms, S.btcBalance b = .obj ms
  balance : ∀ b, ∃ ms, S.balance b = .obj ms
  assets : ∀ a, ∃ ms, S.assets a = .obj ms
  assetNIA : ∀ a, ∃ ms, S.assetNIA a = .obj ms
  assetIFA : ∀ a, ∃ ms, S.assetIFA a = .obj ms
  receiveData : ∀ d, ∃ ms, S.receiveData d = .obj ms

def Body.toJson (S : RgbOut D) : Body D → Value
  | .register res =>
    .obj [("address", .str res.address), ("btc_balance", S.btcBalance res.btcBalance)]
  | .address res => .obj [("address", .str res.address)]
  | .btcBalance res => S.btcBalance res
  | .balance res => S.balance res
  | .unspents res => .arr (res.map S.unspent)
  | .assets res => S.assets res
  | .transfers res => .arr (res.map S.transfer)
  | .transactions res => .arr (res.map S.transaction)
  | .failTransfer res => .obj [("changed", .bool res.changed)]
  | .psbt res => .obj [("psbt", .str res.psbt)]
  | .createUtxos res => .obj [("created", .int res.created)]
  | .nia res => S.assetNIA res
  | .ifa res => S.assetIFA res
  | .send res => .obj [("txid", .str res.txid), ("batch_transfer_idx", .int res.batchTransferIdx)]
  | .consignment res => .obj [("bytes_hex", .str res.bytesHex)]
  | .receiveData res => S.receiveData res
  | .sendBtc res => .obj [("txid", .str res.txid)]
  | .empty _ => .obj []

structure HttpResponse where
  status : Nat
  body : Value

/-- A handler's result as a response. -/
def HttpResponse.of (S : RgbOut D) : Except ApiError (Body D) → HttpResponse
  | .ok b => ⟨200, b.toJson S⟩
  | .error e => ⟨e.httpCode, e.toJson⟩

def Body.isList : Body D → Bool
  | .unspents _ | .transfers _ | .transactions _ => true
  | _ => false

/-- The endpoints that answer with a list. -/
def Endpoint.lists : Endpoint D → Bool
  | .listUnspents | .listTransfers _ | .listTransactions => true
  | _ => false

/-- An array where a list is asked for, else an object. -/
def Shape (lists : Bool) (v : Value) : Prop :=
  if lists then ∃ items, v = .arr items else ∃ ms, v = .obj ms

theorem Body.toJson_shape {S : RgbOut D} (hS : S.Structs) (b : Body D) :
    Shape b.isList (b.toJson S) := by
  cases b with
  | unspents | transfers | transactions => exact ⟨_, rfl⟩
  | btcBalance res => exact hS.btcBalance res
  | balance res => exact hS.balance res
  | assets res => exact hS.assets res
  | nia res => exact hS.assetNIA res
  | ifa res => exact hS.assetIFA res
  | receiveData res => exact hS.receiveData res
  | _ => exact ⟨_, rfl⟩

theorem Endpoint.result_isList {e : Endpoint D} {vs : List (Success D)} {b : Body D}
    (h : e.result vs = some b) : b.isList = e.lists := by
  unfold Endpoint.result at h
  split at h <;> cases h <;> rfl

/-! ## Responses in runs -/

/-- What a client is told about the commands handled for it: with 200 what they came
to, when all of them succeeded, and else an error with another status. -/
inductive Delivered (S : RgbOut D) (req : HttpRequest D) (ts : List (Handled D)) :
    HttpResponse → Prop
  | answered (key : XWalletKey) (vs : List (Success D)) (b : Body D) (hkey : req.key = some key)
      (hts : Succeeded (req.endpoint.requests key) ts) (hvs : successes ts = some vs)
      (hb : req.endpoint.answers vs = some b) (hshape : Shape req.endpoint.lists (b.toJson S)) :
      Delivered S req ts ⟨200, b.toJson S⟩
  | failed (e : ApiError)
      (hts : ∀ key, req.key = some key → ¬ Succeeded (req.endpoint.requests key) ts)
      (hcode : 400 ≤ e.httpCode) (hobj : ∃ ms, e.toJson = .obj ms)
      (hread : ApiError.ofJson e.toJson = some { e with httpCode := 200 }) :
      Delivered S req ts ⟨e.httpCode, e.toJson⟩

theorem status_ge (c : ErrorClass) : 400 ≤ c.status := by cases c <;> decide

theorem Delivered.of_wellFormed {S : RgbOut D} {req : HttpRequest D} {ts : List (Handled D)}
    {e : ApiError} (hts : ∀ key, req.key = some key → ¬ Succeeded (req.endpoint.requests key) ts)
    (h : e.WellFormed) (hcode : 400 ≤ e.httpCode) :
    Delivered S req ts (HttpResponse.of S (.error e)) :=
  .failed e hts hcode ⟨_, rfl⟩ h.ofJson_toJson

/-- In every run every response is JSON. When all commands of the request have been
handled with an `Ok` the status is 200, and the body says what the loop answered to
them, in an array if a list was asked for and else in an object; otherwise the status
is from 400 up, and the body an error that can be read back. -/
theorem responses_delivered {S : RgbOut D} (hS : S.Structs) {wt : WalletThread} {fs : Fs}
    {arrives : Client D → Prop} {s : State (service wt fs arrives)} (h : Reachable s) {i : Nat}
    {req : HttpRequest D} {res : Except ApiError (Body D)}
    (ht : s.tasks[i]? = some ⟨.http req, .running (.ret (.response res))⟩) :
    Delivered S req (turns i (service wt fs arrives).start s.log) (HttpResponse.of S res) := by
  obtain ⟨e, hbad, rfl, -⟩ | ⟨key, hkey, htells⟩ := HttpRequest.tells (ran_response h ht)
  · obtain ⟨hwf, hcode⟩ := fromRequest_error hbad
    refine .of_wellFormed (fun key hkey => ?_) hwf (by rw [hcode]; decide)
    simp [HttpRequest.key, hbad, Except.toOption] at hkey
  · cases res with
    | ok b =>
      obtain ⟨vs, hvs, hb⟩ := htells.made b rfl
      have hshape := b.toJson_shape hS
      rw [Endpoint.result_isList hb] at hshape
      exact .answered key vs b hkey htells.accounts.succeeded hvs hb hshape
    | error e =>
      obtain ⟨err, rfl⟩ := htells.accounts.error_eq
      refine .of_wellFormed (fun key' hkey' => ?_) (wellFormed_toApiError D err) ?_
      · obtain rfl := Option.some.inj (hkey.symm.trans hkey')
        exact htells.accounts.not_succeeded
      · rw [toApiError, mapRgbError_httpCode]
        exact status_ge _

/-- A reference library writes every type as a struct. -/
def Reference.out : RgbOut Reference.deps where
  btcBalance (n : Nat) := .obj [("settled", .int n)]
  balance (n : Nat) := .obj [("settled", .int n)]
  unspent _ := .obj []
  assets ids := .obj [("nia", .arr (ids.map .str))]
  transfer _ := .obj []
  transaction _ := .obj []
  assetNIA id := .obj [("asset_id", .str id)]
  assetIFA id := .obj [("asset_id", .str id)]
  receiveData invoice := .obj [("invoice", .str invoice)]

theorem Reference.out_structs : Reference.out.Structs where
  btcBalance _ := ⟨_, rfl⟩
  balance _ := ⟨_, rfl⟩
  assets _ := ⟨_, rfl⟩
  assetNIA _ := ⟨_, rfl⟩
  assetIFA _ := ⟨_, rfl⟩
  receiveData _ := ⟨_, rfl⟩

/-- The first address of a wallet that the request registers. -/
theorem responses_delivered_address :
    ∃ s : State (Reference.system [Reference.request Reference.key .address]), Reachable s ∧
      Delivered Reference.out (Reference.request Reference.key .address)
        (turns 0 (Reference.system [Reference.request Reference.key .address]).start s.log)
        ⟨200, .obj [("address", .str "xpub-van/0")]⟩ := by
  let req := Reference.request Reference.key .address
  let A := Reference.system [req]
  obtain ⟨s₁, hs₁, hcalm₁, htasks₁, hserver₁, -⟩ :=
    (calm_init A).begin (o := .http req) List.mem_cons_self rfl
  obtain ⟨s₂, hs₂, -, htasks₂, -, -⟩ := hcalm₁.alone capacity_pos (i := 0)
    (by rw [htasks₁]; rfl) hserver₁ Reference.address_alone
  have hdone : s₂.tasks[0]? =
      some ⟨.http req, .running (.ret (.response (.ok (.address ⟨"xpub-van/0"⟩))))⟩ := by
    rw [htasks₂, htasks₁]
    rfl
  exact ⟨s₂, hs₁.trans hs₂, responses_delivered Reference.out_structs (hs₁.trans hs₂) hdone⟩

end RgbNodeApi

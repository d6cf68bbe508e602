import RgbNodeApi.Intake
import RgbNodeApi.Rounds

/-!
# Error bodies

The one JSON envelope of every error that the API returns, as a client reads it.
-/
namespace RgbNodeApi

open Files Actor Json

variable {D : Deps}

def u16Max : Nat := 0xFFFF

/-- What is sent of an `ApiError`. -/
structure ErrorBody where
  code : Nat
  status : String
  message : String
  details : List (String × String)
  deriving DecidableEq, Repr

def ErrorBody.record : Record ErrorBody where
  fields := .cons (.required "code" (.uint u16Max)) <| .cons (.required "status" .str) <|
    .cons (.required "message" .str) <|
    .cons (.defaulted "details" (.dict .str) [] ⟨List.nodup_nil, nofun⟩) .nil
  distinct := by decide
  equiv := ⟨fun t => ⟨t.1, t.2.1, t.2.2.1, t.2.2.2.1⟩,
    fun r => (r.code, r.status, r.message, r.details, ()), fun _ => rfl, fun _ => rfl⟩

def ErrorResponse.record : Record ErrorBody :=
  single (.required "error" ErrorBody.record.codec []) (show ["error"].Nodup by decide)

def ApiError.body (e : ApiError) : ErrorBody := ⟨e.code, e.status, e.message, e.details⟩

/-- The body of the response. -/
def ApiError.toJson (e : ApiError) : Value := ErrorResponse.record.codec.encode e.body

/-- The status is not part of the body and comes back as the default one. -/
def ApiError.ofJson (v : Value) : Option ApiError :=
  (ErrorResponse.record.codec.decode v).map fun b => ⟨200, b.code, b.status, b.message, b.details⟩

structure ApiError.WellFormed (e : ApiError) : Prop where
  code : e.code ≤ u16Max
  details : (e.details.map Prod.fst).Nodup

theorem ApiError.WellFormed.ofJson_toJson {e : ApiError} (h : e.WellFormed) :
    ApiError.ofJson e.toJson = some { e with httpCode := 200 } := by
  have hbody : ErrorBody.record.codec.Valid e.body :=
    ⟨h.code, trivial, trivial, ⟨h.details, fun _ _ => trivial⟩, trivial⟩
  have hread := ErrorResponse.record.codec.decode_encode e.body ⟨hbody, trivial⟩
  rw [ApiError.ofJson, ApiError.toJson, hread]
  rfl

theorem ApiErrorCode.toNat_le (code : ApiErrorCode) : code.toNat ≤ u16Max := by
  cases code <;> decide

theorem wellFormed_errorWith (httpCode : Nat) (code : ApiErrorCode) (message : String) :
    (errorWith httpCode code message).WellFormed :=
  ⟨code.toNat_le, List.nodup_nil⟩

theorem ApiError.WellFormed.withDetail {e : ApiError} (h : e.WellFormed) (key value : String) :
    (e.withDetail key value).WellFormed := by
  refine ⟨h.code, List.nodup_cons.mpr ⟨fun hkey => ?_, ?_⟩⟩
  · obtain ⟨d, hd, hdk⟩ := List.mem_map.mp hkey
    have hne := (List.mem_filter.mp hd).2
    simp [hdk] at hne
  · exact h.details.sublist (List.filter_sublist.map Prod.fst)

theorem wellFormed_toApiError (D : Deps) (err : Error) : (toApiError D err).WellFormed := by
  unfold toApiError mapRgbError
  cases (classify err).response with
  | none => exact (wellFormed_errorWith _ _ _).withDetail _ _
  | some r => exact (wellFormed_errorWith _ _ _).withDetail _ _

theorem details_toApiError (D : Deps) (err : Error) :
    (toApiError D err).details = [("kind", errorKind D.isAlphanumeric D.debug err)] := by
  unfold toApiError mapRgbError
  cases (classify err).response <;> rfl

theorem wellFormed_invalidJson (error : String) : (invalidJson error).WellFormed :=
  (wellFormed_errorWith _ _ _).withDetail _ _

theorem Front.arguments_error {F : Front D} {limit : Nat} {r : Route} {raw : RawRequest}
    {e : ApiError} (h : F.arguments limit r raw = .error e) : ∃ text, e = invalidJson text := by
  unfold Front.arguments at h
  split at h
  · cases h
  · split at h
    · cases h
      exact ⟨_, rfl⟩
    · split at h
      · cases h
        exact ⟨_, rfl⟩
      · cases h

theorem fromRequest_error {headers : Headers} {e : ApiError}
    (h : XWalletKey.fromRequest headers = .error e) :
    e.WellFormed ∧ e.httpCode = StatusCode.unauthorized := by
  unfold XWalletKey.fromRequest at h
  split at h
  · cases h
  · cases h
    exact ⟨wellFormed_errorWith _ _ _, rfl⟩

/-- What the front answers when it refuses a request. -/
theorem Front.receive_refused {F : Front D} {limit : Nat} {raw : RawRequest} {e : ApiError}
    (h : F.receive limit raw = .refused e) :
    e.WellFormed ∧ e.httpCode ∈ [StatusCode.unauthorized, StatusCode.notFound,
      StatusCode.unprocessableEntity] := by
  unfold Front.receive at h
  split at h
  · cases h
    exact ⟨wellFormed_errorWith _ _ _, by decide⟩
  · split at h
    · split at h
      · cases h
      · split at h
        · rename_i hkey
          cases h
          obtain ⟨hwf, hcode⟩ := fromRequest_error hkey
          exact ⟨hwf, by rw [hcode]; decide⟩
        · split at h
          · rename_i hargs
            cases h
            obtain ⟨text, rfl⟩ := Front.arguments_error hargs
            exact ⟨wellFormed_invalidJson text, List.mem_of_getElem? (i := 2) rfl⟩
          · cases h
    · cases h

theorem Accounts.error_eq {β : Type} {rejects : Error → Prop} {rs : List (Request D)}
    {ts : List (Handled D)} {e : ApiError} (h : Accounts rejects rs ts (.error e : Except _ β)) :
    ∃ err, e = toApiError D err := by
  cases h with
  | rejected _ _ _ err => exact ⟨err, rfl⟩
  | failed _ _ _ _ _ err => exact ⟨err, rfl⟩
  | lost => exact ⟨errDeadThread, rfl⟩

variable {F : Front D} {limit : Nat} {wt : WalletThread} {fs : Fs}

/-- Every error that the API answers reads back from its body, all but the status. A
request that is refused has failed by its path, its headers or its body; one that is
received fails with the first failure of its commands, and the body names its kind. -/
theorem error_bodies_read {s : State (service wt fs (Serves (F.Received limit)))}
    (h : Reachable s) :
    (∀ raw e, F.receive limit raw = .refused e →
      ApiError.ofJson e.toJson = some { e with httpCode := 200 } ∧
      e.httpCode ∈ [StatusCode.unauthorized, StatusCode.notFound,
        StatusCode.unprocessableEntity]) ∧
    ∀ (i : Nat) (req : HttpRequest D) (e : ApiError),
      s.tasks[i]? = some ⟨.http req, .running (.ret (.response (.error e)))⟩ →
      ∃ key err, req.key = some key ∧
        Accounts req.endpoint.Rejects (req.endpoint.requests key)
          (turns i (service wt fs (Serves (F.Received limit))).start s.log)
          (.error e : Except ApiError (Body D)) ∧
        e = toApiError D err ∧ e.httpCode = (classify err).status ∧
        ApiError.ofJson e.toJson = some ⟨200, e.code, e.status, e.message,
          [("kind", errorKind D.isAlphanumeric D.debug err)]⟩ := by
  refine ⟨fun raw e he => ?_, fun i req e ht => ?_⟩
  · obtain ⟨hwf, hcode⟩ := Front.receive_refused he
    exact ⟨hwf.ofJson_toJson, hcode⟩
  · obtain ⟨⟨raw, hraw⟩, -⟩ := ((sends_session wt fs _).follows h).task i _ _ ht rfl
    obtain ⟨-, hheaders, ⟨key, hkey⟩, -⟩ := Front.receive_eq_serve_iff.mp hraw
    obtain ⟨e', hbad, -⟩ | ⟨key', hkey', hres⟩ := HttpRequest.tells (ran_response h ht)
    · rw [hheaders, hkey] at hbad
      cases hbad
    · obtain ⟨err, rfl⟩ := hres.accounts.error_eq
      refine ⟨key', err, hkey', hres.accounts, rfl, mapRgbError_httpCode _ _ _ err, ?_⟩
      rw [← details_toApiError D err]
      exact (wellFormed_toApiError D err).ofJson_toJson

/-- A key that the reference library builds no wallet for. -/
def Reference.stranger : XWalletKey := ⟨"xpub-col", "xpub-van", "zz"⟩

/-- Its registration is the only command of the request. -/
theorem Reference.stranger_alone {arrives : Client Reference.deps → Prop} :
    Alone (A := service ⟨Reference.config, Reference.tempDir⟩ (fun _ => absent) arrives)
      Reference.world (0 : Int) (.start fun _ => absent)
      (Client.http (Reference.request Reference.stranger .address)).launch
      [registration Reference.stranger] (.start fun _ => absent)
      (.response (.error (toApiError Reference.deps ⟨.invalidFingerprint, []⟩))) := by
  rw [Reference.launch_request Reference.stranger rfl rfl rfl]
  exact .ask (some (.error ⟨.invalidFingerprint, []⟩)) rfl rfl .ret

/-- The response when the wallet could not be registered. -/
theorem error_bodies_read_stranger :
    ∃ (s : State (service ⟨Reference.config, Reference.tempDir⟩ (fun _ => absent)
        (Serves (Reference.front.Received 100)))) (e : ApiError) (err : Error), Reachable s ∧
      s.tasks[0]? = some ⟨.http (Reference.request Reference.stranger .address),
        .running (.ret (.response (.error e)))⟩ ∧
      ApiError.ofJson e.toJson = some ⟨200, e.code, e.status, e.message,
        [("kind", errorKind Reference.deps.isAlphanumeric Reference.deps.debug err)]⟩ := by
  let req := Reference.request Reference.stranger .address
  let A := service ⟨Reference.config, Reference.tempDir⟩ (fun _ => absent)
    (Serves (Reference.front.Received 100))
  obtain ⟨s₁, hs₁, hcalm₁, htasks₁, hserver₁, -⟩ := (calm_init A).begin (o := .http req)
    (Reference.address_received Reference.stranger rfl rfl rfl) rfl
  obtain ⟨s₂, hs₂, -, htasks₂, -, -⟩ := hcalm₁.alone capacity_pos (i := 0)
    (by rw [htasks₁]; rfl) hserver₁ Reference.stranger_alone
  have hdone : s₂.tasks[0]? = some ⟨.http req, .running (.ret (.response
      (.error (toApiError Reference.deps ⟨.invalidFingerprint, []⟩))))⟩ := by
    rw [htasks₂, htasks₁]
    rfl
  obtain ⟨key, err, -, -, -, -, hread⟩ := (error_bodies_read (hs₁.trans hs₂)).2 0 req _ hdone
  exact ⟨s₂, _, err, hs₁.trans hs₂, hdone, hread⟩

end RgbNodeApi

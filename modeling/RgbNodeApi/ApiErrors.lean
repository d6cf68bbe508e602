import RgbNodeApi.Errors

/-!
# API errors

The error envelope, the code table, and the step from an rgb-lib error to a
response. The texts of an rgb-lib error come from rgb-lib: `debug` is its
`Debug`, `display` its `Display`.
-/
namespace RgbNodeApi

namespace StatusCode

def badRequest : Nat := 400
def unauthorized : Nat := 401
def notFound : Nat := 404
def conflict : Nat := 409
def unprocessableEntity : Nat := 422
def internalServerError : Nat := 500
def serviceUnavailable : Nat := 503

end StatusCode

inductive ApiErrorCode where
  | internalError | serviceUnavailable | accessDenied | forbidden | notFound | badInput
  | invalidAddress | notEnoughBalance | needMoreUtxos | notEnoughAssets | invalidFeeRate
  | invalidPsbt | invalidRecipient | conflict | unsupported
  deriving DecidableEq, Repr

def ApiErrorCode.toNat : ApiErrorCode → Nat
  | .internalError => 500
  | .serviceUnavailable => 503
  | .accessDenied => 401
  | .forbidden => 403
  | .notFound => 1000
  | .badInput => 1001
  | .invalidAddress => 1002
  | .notEnoughBalance => 1003
  | .needMoreUtxos => 1004
  | .notEnoughAssets => 1005
  | .invalidFeeRate => 1006
  | .invalidPsbt => 1007
  | .invalidRecipient => 1008
  | .conflict => 1009
  | .unsupported => 1010

def ApiErrorCode.toString : ApiErrorCode → String
  | .internalError => "internal_error"
  | .serviceUnavailable => "service_unavailable"
  | .accessDenied => "access_denied"
  | .forbidden => "access_forbidden"
  | .notFound => "not_found"
  | .badInput => "bad_input"
  | .invalidAddress => "invalid_address"
  | .notEnoughBalance => "not_enough_balance"
  | .needMoreUtxos => "not_enough_utxos"
  | .notEnoughAssets => "not_enough_assets"
  | .invalidFeeRate => "invalid_fee_rate"
  | .invalidPsbt => "invalid_psbt"
  | .invalidRecipient => "invalid_recipient"
  | .conflict => "conflict"
  | .unsupported => "unsupported"

structure ApiError where
  httpCode : Nat
  code : Nat
  status : String
  message : String
  details : List (String × String)
  deriving DecidableEq, Repr

def errorWith (httpCode : Nat) (code : ApiErrorCode) (message : String) : ApiError :=
  ⟨httpCode, code.toNat, code.toString, message, []⟩

/-- Inserting replaces the entry of the key. -/
def ApiError.withDetail (e : ApiError) (key value : String) : ApiError :=
  { e with details := (key, value) :: e.details.filter fun d => d.1 ≠ key }

def internalServerError : ApiError :=
  errorWith StatusCode.internalServerError .internalError "something went wrong"

def notFound : ApiError := errorWith StatusCode.notFound .notFound ""

/-- The answer to a body that is not read, with what is wrong with it. -/
def invalidJson (error : String) : ApiError :=
  (errorWith StatusCode.unprocessableEntity .badInput "invalid json format").withDetail "body" error

/-- The status and the code of a class; `none` is the opaque answer. -/
def ErrorClass.response : ErrorClass → Option (Nat × ApiErrorCode)
  | .notFound => some (StatusCode.notFound, .notFound)
  | .badInput => some (StatusCode.badRequest, .badInput)
  | .invalidAddress => some (StatusCode.badRequest, .invalidAddress)
  | .notEnoughBalance => some (StatusCode.badRequest, .notEnoughBalance)
  | .needMoreUtxos => some (StatusCode.badRequest, .needMoreUtxos)
  | .notEnoughAssets => some (StatusCode.badRequest, .notEnoughAssets)
  | .invalidFeeRate => some (StatusCode.badRequest, .invalidFeeRate)
  | .invalidPsbt => some (StatusCode.badRequest, .invalidPsbt)
  | .invalidRecipient => some (StatusCode.badRequest, .invalidRecipient)
  | .conflict => some (StatusCode.conflict, .conflict)
  | .unsupported => some (StatusCode.badRequest, .unsupported)
  | .unavailable => some (StatusCode.serviceUnavailable, .serviceUnavailable)
  -- never leak internal details (db paths, stash state) to the client
  | .internal => none

variable (isAlphanumeric : Char → Bool) (debug display : Error → String)

/-- Turn an `rgb_lib::Error` into an API error. -/
def mapRgbError (err : Error) : ApiError :=
  let kind := errorKind isAlphanumeric debug err
  match (classify err).response with
  | none => internalServerError.withDetail "kind" kind
  | some (httpCode, code) => (errorWith httpCode code (display err)).withDetail "kind" kind

/-- The status depends on the class only. -/
def ErrorClass.status (c : ErrorClass) : Nat :=
  (c.response.map Prod.fst).getD StatusCode.internalServerError

theorem mapRgbError_httpCode (err : Error) :
    (mapRgbError isAlphanumeric debug display err).httpCode = (classify err).status := by
  unfold mapRgbError ErrorClass.status
  cases h : (classify err).response <;> rfl

theorem status_clientError (c : ErrorClass) :
    (400 ≤ c.status ∧ c.status < 500) ↔ c.isClientError = true := by
  cases c <;> decide

theorem status_unavailable (c : ErrorClass) : c.status = 503 ↔ c = .unavailable := by
  cases c <;> decide

theorem status_internal (c : ErrorClass) : c.status = 500 ↔ c = .internal := by
  cases c <;> decide

theorem response_none_iff (c : ErrorClass) : c.response = none ↔ c = .internal := by
  cases c <;> decide

/-- An internal failure is answered without looking at the error, its kind apart. -/
theorem mapRgbError_internal (err : Error) (h : classify err = .internal) :
    mapRgbError isAlphanumeric debug display err =
      internalServerError.withDetail "kind" (errorKind isAlphanumeric debug err) := by
  have hr := (response_none_iff (classify err)).mpr h
  simp [mapRgbError, hr]

/-- Every other failure carries the `Display` text and the kind. -/
theorem mapRgbError_message (err : Error) (h : classify err ≠ .internal) :
    (mapRgbError isAlphanumeric debug display err).message = display err ∧
    (mapRgbError isAlphanumeric debug display err).details =
      [("kind", errorKind isAlphanumeric debug err)] := by
  cases hr : (classify err).response with
  | none => exact absurd ((response_none_iff _).mp hr) h
  | some r => simp [mapRgbError, hr, errorWith, ApiError.withDetail]

/-- Server failures stay opaque: the response of an internal error depends on
its variant only, and every other response is the class's status with the text
of the error and its kind. -/
theorem mapRgbError_opaque (hascii : ∀ c : Char, c.isAlphanum = true → isAlphanumeric c = true)
    (hdebug : DerivedDebug isAlphanumeric debug) (err : Error) :
    errorKind isAlphanumeric debug err = err.variant.name ∧
    ((400 ≤ (mapRgbError isAlphanumeric debug display err).httpCode ∧
        (mapRgbError isAlphanumeric debug display err).httpCode < 500) ↔
      (classify err).isClientError = true) ∧
    (logRgbErr err = .warn ↔ (classify err).isClientError = true) ∧
    ((mapRgbError isAlphanumeric debug display err).httpCode = 503 ↔
      classify err = .unavailable) ∧
    ((mapRgbError isAlphanumeric debug display err).httpCode = 500 ↔ classify err = .internal) ∧
    (∀ err' : Error, err'.variant = err.variant → classify err = .internal →
      mapRgbError isAlphanumeric debug display err' =
        mapRgbError isAlphanumeric debug display err) ∧
    (classify err ≠ .internal →
      (mapRgbError isAlphanumeric debug display err).message = display err ∧
      (mapRgbError isAlphanumeric debug display err).details =
        [("kind", err.variant.name)]) := by
  have hkind := errorKind_eq_name isAlphanumeric debug hascii hdebug
  refine ⟨hkind err, ?_, ?_, ?_, ?_, ?_, ?_⟩
  · rw [mapRgbError_httpCode]
    exact status_clientError _
  · cases h : (classify err).isClientError <;> simp [logRgbErr, h]
  · rw [mapRgbError_httpCode]
    exact status_unavailable _
  · rw [mapRgbError_httpCode]
    exact status_internal _
  · intro err' hv hi
    have hi' : classify err' = .internal := by rw [← hi, classify, classify, hv]
    rw [mapRgbError_internal _ _ _ err' hi', mapRgbError_internal _ _ _ err hi, hkind, hkind, hv]
  · intro hi
    rw [← hkind err]
    exact mapRgbError_message isAlphanumeric debug display err hi

/-- For a database failure whose payload names a path. -/
theorem mapRgbError_opaque_database :
    errorKind Char.isAlphanum Error.derivedDebug ⟨.database, [("details", .text "/data/a.db")]⟩ =
      "Database" ∧
    mapRgbError Char.isAlphanum Error.derivedDebug Error.derivedDebug
        ⟨.database, [("details", .text "/data/a.db")]⟩ =
      mapRgbError Char.isAlphanum Error.derivedDebug Error.derivedDebug ⟨.database, []⟩ := by
  have h := mapRgbError_opaque Char.isAlphanum Error.derivedDebug Error.derivedDebug
    (fun _ hc => hc) derivedDebug_derived ⟨.database, [("details", .text "/data/a.db")]⟩
  exact ⟨h.1, (h.2.2.2.2.2.1 ⟨.database, []⟩ rfl rfl).symm⟩

end RgbNodeApi

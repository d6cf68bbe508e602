import RgbNodeApi.Wire
import RgbNodeApi.Reference

/-!
# The HTTP front

Which handler a request reaches, and what the handler takes from it: the three
headers, and for most handlers a JSON body. A request that falls short of this is
answered at once and sends no command.
-/
namespace RgbNodeApi

open Files Json

variable {D : Deps}

/-- The handlers of the wallet endpoints. -/
inductive Route where
  | register | address | btcBalance | assetBalance | listUnspents | listAssets | listTransfers
  | listTransactions | failTransfers | createUtxosBegin | createUtxosEnd | issueNia | issueIfa
  | inflateBegin | inflateEnd | sendBegin | sendEnd | burnBegin | burnEnd | getConsignment
  | blindReceive | witnessReceive | sendBtcBegin | sendBtcEnd | refresh | drop
  deriving DecidableEq, Repr

/-- The handlers that neither read a request nor send a command. -/
inductive Page where
  | healthcheck | version | swaggerUi | swaggerSpec
  deriving DecidableEq, Repr

inductive Handler where
  | page (p : Page)
  | node (r : Route)
  deriving DecidableEq, Repr

inductive Method where
  | get | post
  | other (name : String)
  deriving DecidableEq, Repr

/-- A path with the one method that it answers. -/
structure Resource where
  path : String
  method : Method
  handler : Handler
  deriving DecidableEq, Repr

def WalletSrv.service : List Resource := [
  ⟨"/healthcheck", .get, .page .healthcheck⟩,
  ⟨"/version", .get, .page .version⟩,
  ⟨"/_swagger", .get, .page .swaggerUi⟩,
  ⟨"/_swagger/swagger.yaml", .get, .page .swaggerSpec⟩,
  -- remove this in future
  ⟨"/blindreceive", .post, .node .blindReceive⟩,
  ⟨"/wallet/register", .post, .node .register⟩,
  ⟨"/wallet/listunspents", .post, .node .listUnspents⟩,
  ⟨"/wallet/createutxosbegin", .post, .node .createUtxosBegin⟩,
  ⟨"/wallet/createutxosend", .post, .node .createUtxosEnd⟩,
  ⟨"/wallet/listassets", .post, .node .listAssets⟩,
  ⟨"/wallet/btcbalance", .post, .node .btcBalance⟩,
  ⟨"/wallet/address", .post, .node .address⟩,
  ⟨"/wallet/issueassetnia", .post, .node .issueNia⟩,
  ⟨"/wallet/issueassetifa", .post, .node .issueIfa⟩,
  ⟨"/wallet/inflatebegin", .post, .node .inflateBegin⟩,
  ⟨"/wallet/inflateend", .post, .node .inflateEnd⟩,
  ⟨"/wallet/assetbalance", .post, .node .assetBalance⟩,
  ⟨"/wallet/sendbegin", .post, .node .sendBegin⟩,
  ⟨"/wallet/sendend", .post, .node .sendEnd⟩,
  ⟨"/wallet/burnbegin", .post, .node .burnBegin⟩,
  ⟨"/wallet/burnend", .post, .node .burnEnd⟩,
  ⟨"/wallet/getconsignment", .post, .node .getConsignment⟩,
  ⟨"/wallet/blindreceive", .post, .node .blindReceive⟩,
  ⟨"/wallet/witnessreceive", .post, .node .witnessReceive⟩,
  ⟨"/wallet/sendbtcbegin", .post, .node .sendBtcBegin⟩,
  ⟨"/wallet/sendbtcend", .post, .node .sendBtcEnd⟩,
  ⟨"/wallet/failtransfers", .post, .node .failTransfers⟩,
  ⟨"/wallet/listtransactions", .post, .node .listTransactions⟩,
  ⟨"/wallet/listtransfers", .post, .node .listTransfers⟩,
  ⟨"/wallet/refresh", .post, .node .refresh⟩,
  ⟨"/wallet/drop", .post, .node .drop⟩]

def Endpoint.route : Endpoint D → Route
  | .register => .register
  | .address => .address
  | .btcBalance => .btcBalance
  | .assetBalance _ => .assetBalance
  | .listUnspents => .listUnspents
  | .listAssets => .listAssets
  | .listTransfers _ => .listTransfers
  | .listTransactions => .listTransactions
  | .failTransfers _ => .failTransfers
  | .createUtxosBegin _ => .createUtxosBegin
  | .createUtxosEnd _ => .createUtxosEnd
  | .issueNia _ => .issueNia
  | .issueIfa _ => .issueIfa
  | .inflateBegin _ => .inflateBegin
  | .inflateEnd _ => .inflateEnd
  | .sendBegin _ => .sendBegin
  | .sendEnd _ => .sendEnd
  | .burnBegin _ => .burnBegin
  | .burnEnd _ => .burnEnd
  | .getConsignment _ => .getConsignment
  | .blindReceive _ => .blindReceive
  | .witnessReceive _ => .witnessReceive
  | .sendBtcBegin _ => .sendBtcBegin
  | .sendBtcEnd _ => .sendBtcEnd
  | .refresh => .refresh
  | .drop => .drop

/-- What a handler takes besides the headers. -/
inductive Extract (D : Deps) : Type 1 where
  | nothing (e : Endpoint D)
  | json {ρ : Type} (format : Record ρ) (make : ρ → Endpoint D)

/-- The arguments of the handlers. -/
def Route.extract (W : RgbWire D) : Route → Extract D
  | .register => .nothing .register
  | .address => .nothing .address
  | .btcBalance => .nothing .btcBalance
  | .assetBalance => .json AssetBalanceReq.record .assetBalance
  | .listUnspents => .nothing .listUnspents
  | .listAssets => .nothing .listAssets
  | .listTransfers => .json AssetId.record .listTransfers
  | .listTransactions => .nothing .listTransactions
  | .failTransfers => .json FailTransfer.record .failTransfers
  | .createUtxosBegin => .json CreateUtxoBeginReq.record .createUtxosBegin
  | .createUtxosEnd => .json Psbt.record .createUtxosEnd
  | .issueNia => .json IssueNiaReq.record .issueNia
  | .issueIfa => .json IssueIfaReq.record .issueIfa
  | .inflateBegin => .json InflateBeginReq.record .inflateBegin
  | .inflateEnd => .json Psbt.record .inflateEnd
  | .sendBegin => .json (SendBeginReq.record W) .sendBegin
  | .sendEnd => .json SendAssetEndReq.record .sendEnd
  | .burnBegin => .json BurnBeginReq.record .burnBegin
  | .burnEnd => .json Psbt.record .burnEnd
  | .getConsignment => .json GetConsignmentReq.record .getConsignment
  | .blindReceive => .json ReceiveReq.record .blindReceive
  | .witnessReceive => .json ReceiveReq.record .witnessReceive
  | .sendBtcBegin => .json SendBtcReq.record .sendBtcBegin
  | .sendBtcEnd => .json Psbt.record .sendBtcEnd
  | .refresh => .nothing .refresh
  | .drop => .nothing .drop

/-- The numbers of a request, and what it has of rgb-lib's types, can be read. -/
def Endpoint.InRange (W : RgbWire D) : Endpoint D → Prop
  | .failTransfers req => req.InRange
  | .createUtxosBegin req => req.InRange
  | .issueNia req => req.InRange
  | .issueIfa req => req.InRange
  | .inflateBegin req => req.InRange
  | .sendBegin req => SendBeginReq.InRange W req
  | .burnBegin req => req.InRange
  | .blindReceive req | .witnessReceive req => req.InRange
  | .sendBtcBegin req => req.InRange
  | _ => True

/-! ## Bodies -/

namespace Extract

/-- What the handler is called with for a body. -/
def read : Extract D → Value → Option (Endpoint D)
  | nothing e, _ => some e
  | json format make, v => (format.codec.decode v).map make

/-- What the handler can be called with. -/
def Makes : Extract D → Endpoint D → Prop
  | nothing e, e' => e = e'
  | json format make, e' => ∃ a, format.codec.Valid a ∧ make a = e'

/-- The ways to write a call down: the values in order, or the members of an object
in any order, under any of their names and among others. -/
def Writes : Extract D → Endpoint D → Value → Prop
  | nothing e, e', _ => e = e'
  | json format make, e', v => ∃ a, format.codec.Valid a ∧ make a = e' ∧
    (v = .arr (format.items a) ∨
      ∃ ms, v = .obj ms ∧ format.fields.Respelled ms (format.members a))

/-- Objects that differ in the order of their members, in members that the handler
does not know, in which of its names a field goes by, in values that it reads alike,
and in whether a default is left out. -/
def Respelled : Extract D → List (String × Value) → List (String × Value) → Prop
  | nothing _, _, _ => True
  | json format _, ms, ms' => format.fields.Respelled ms ms'

variable {x : Extract D} {e : Endpoint D}

theorem exists_read_iff : (∃ v, x.read v = some e) ↔ x.Makes e := by
  cases x with
  | nothing e' => exact ⟨fun ⟨_, h⟩ => Option.some.inj h, fun h => ⟨.null, congrArg some h⟩⟩
  | json format make =>
    simp only [read, Makes, Option.map_eq_some_iff, Codec.valid_iff]
    constructor
    · rintro ⟨v, a, ha, he⟩
      exact ⟨a, ⟨v, ha⟩, he⟩
    · rintro ⟨a, ⟨v, ha⟩, he⟩
      exact ⟨v, a, ha, he⟩

theorem read_of_writes {v : Value} (h : x.Writes e v) : x.read v = some e := by
  cases x with
  | nothing e' => exact congrArg some h
  | json format make =>
    obtain ⟨a, ha, rfl, rfl | ⟨ms, rfl, hms⟩⟩ := h
    · simp [read, format.decode_items ha]
    · simp [read, format.decode_obj_congr hms, format.decode_members ha]

theorem read_respelled {ms ms' : List (String × Value)} (h : x.Respelled ms ms') :
    x.read (.obj ms) = x.read (.obj ms') := by
  cases x with
  | nothing e' => rfl
  | json format make => exact congrArg (Option.map make) (format.decode_obj_congr h)

end Extract

/-- A handler is called with the requests of its endpoint that are in range. -/
theorem Route.makes_iff (W : RgbWire D) (r : Route) (e : Endpoint D) :
    (r.extract W).Makes e ↔ e.route = r ∧ e.InRange W := by
  constructor
  · intro h
    cases r with
    | register | address | btcBalance | listUnspents | listAssets | listTransactions | refresh
    | drop =>
      cases h
      exact ⟨rfl, trivial⟩
    | assetBalance | listTransfers | createUtxosEnd | inflateEnd | sendEnd | burnEnd
    | getConsignment | sendBtcEnd =>
      obtain ⟨a, -, rfl⟩ := h
      exact ⟨rfl, trivial⟩
    | failTransfers | createUtxosBegin | issueNia | issueIfa | inflateBegin | sendBegin | burnBegin
    | blindReceive | witnessReceive | sendBtcBegin =>
      obtain ⟨a, ha, rfl⟩ := h
      exact ⟨rfl, by simpa [Endpoint.InRange] using ha⟩
  · rintro ⟨rfl, h⟩
    cases e with
    | register | address | btcBalance | listUnspents | listAssets | listTransactions | refresh
    | drop => rfl
    | assetBalance a | listTransfers a | createUtxosEnd a | inflateEnd a | sendEnd a | burnEnd a
    | sendBtcEnd a => exact ⟨a, ⟨trivial, trivial⟩, rfl⟩
    | getConsignment a => exact ⟨a, ⟨trivial, trivial, trivial⟩, rfl⟩
    | failTransfers a | createUtxosBegin a | issueNia a | issueIfa a | inflateBegin a | sendBegin a
    | burnBegin a | blindReceive a | witnessReceive a | sendBtcBegin a =>
      exact ⟨a, by simpa [Endpoint.InRange] using h, rfl⟩

/-- Any JSON body is either refused or read as a request of the route in which every
number fits its type, and every such request can be read from some body. -/
theorem received_iff (W : RgbWire D) (r : Route) (e : Endpoint D) :
    (∃ v, (r.extract W).read v = some e) ↔ e.route = r ∧ e.InRange W :=
  Extract.exists_read_iff.trans (r.makes_iff W e)

theorem exists_writes {W : RgbWire D} {e : Endpoint D} (h : e.InRange W) :
    ∃ v, (e.route.extract W).Writes e v := by
  have hmakes := (e.route.makes_iff W e).mpr ⟨rfl, h⟩
  cases hx : e.route.extract W with
  | nothing e' =>
    rw [hx] at hmakes
    exact ⟨.null, hmakes⟩
  | json format make =>
    rw [hx] at hmakes
    obtain ⟨a, ha, he⟩ := hmakes
    exact ⟨.arr (format.items a), a, ha, he, .inl rfl⟩

/-! ## Requests -/

structure RawRequest where
  method : Method
  /-- What the router matches, with the percent-encoding of the target undone. -/
  path : String
  headers : Headers
  contentType : Option Bytes
  contentLength : Option Nat
  payload : Bytes
  /-- What broke the payload off. -/
  failure : Option String

/-- Why a body could not be read as JSON. -/
inductive JsonPayloadError where
  | contentType
  | overflowKnownLength (length limit : Nat)
  | overflow (limit : Nat)
  | payload (err : String)
  | deserialize (err : String)

/-- The server's part of reading a request, and the texts of its errors. -/
structure Front (D : Deps) extends RgbWire D where
  /-- The content type is JSON. -/
  canParseJson : Option Bytes → Bool
  parse : Bytes → Option Value
  deserializeError : Route → Bytes → String
  display : JsonPayloadError → String

/-- What becomes of a request before a handler runs. -/
inductive Reception (D : Deps) where
  | page (p : Page)
  | methodNotAllowed
  | refused (e : ApiError)
  | serve (req : HttpRequest D)

def defaultJsonSize : Nat := 1024 * 1024 * 5

/-- A limit of 0 stands for the default. -/
def maxJsonSize (configured : Nat) : Nat := if 0 < configured then configured else defaultJsonSize

theorem find?_key {α κ : Type} [DecidableEq κ] {f : α → κ} {l : List α} (h : (l.map f).Nodup)
    {k : κ} {a : α} : l.find? (f · = k) = some a ↔ a ∈ l ∧ f a = k := by
  induction l with
  | nil => simp
  | cons b l ih =>
    obtain ⟨hb, hl⟩ := List.nodup_cons.mp h
    by_cases hk : f b = k
    · have hnot : ∀ c ∈ l, f c ≠ k := fun c hc he =>
        hb (List.mem_map.mpr ⟨c, hc, he.trans hk.symm⟩)
      constructor
      · intro hfind
        rw [List.find?_cons_of_pos (by simpa using hk)] at hfind
        cases hfind
        exact ⟨List.mem_cons_self, hk⟩
      · rintro ⟨ha, hka⟩
        obtain rfl | ha := List.mem_cons.mp ha
        · exact List.find?_cons_of_pos (by simpa using hk)
        · exact absurd hka (hnot a ha)
    · rw [List.find?_cons_of_neg (by simpa using hk), ih hl, List.mem_cons]
      refine and_congr_left fun hka => ⟨.inr, fun ha => ha.resolve_left ?_⟩
      rintro rfl
      exact hk hka

namespace Front

variable (F : Front D) (limit : Nat)

/-- The documented behaviour of actix's JSON extractor: the announced length is checked
before the payload is read. -/
def body (raw : RawRequest) : Except JsonPayloadError Bytes :=
  if F.canParseJson raw.contentType then
    match raw.contentLength.filter (limit < ·) with
    | some length => .error (.overflowKnownLength length limit)
    | none =>
      if limit < raw.payload.length then .error (.overflow limit)
      else
        match raw.failure with
        | some err => .error (.payload err)
        | none => .ok raw.payload
  else .error .contentType

def arguments (r : Route) (raw : RawRequest) : Except ApiError (Endpoint D) :=
  match r.extract F.toRgbWire with
  | .nothing e => .ok e
  | .json format make =>
    match F.body limit raw with
    | .error err => .error (invalidJson (F.display err))
    | .ok bytes =>
      match (F.parse bytes).bind format.codec.decode with
      | none => .error (invalidJson (F.display (.deserialize (F.deserializeError r bytes))))
      | some a => .ok (make a)

def receive (raw : RawRequest) : Reception D :=
  match WalletSrv.service.find? (·.path = raw.path) with
  | none => .refused notFound
  | some resource =>
    if resource.method = raw.method then
      match resource.handler with
      | .page p => .page p
      | .node r =>
        -- the headers are looked at before the body
        match XWalletKey.fromRequest raw.headers with
        | .error e => .refused e
        | .ok _ =>
          match F.arguments limit r raw with
          | .error e => .refused e
          | .ok endpoint => .serve ⟨raw.headers, endpoint⟩
    else .methodNotAllowed

/-- The payload is JSON by its type and arrives whole, within the limit. -/
structure Arrives (raw : RawRequest) : Prop where
  contentType : F.canParseJson raw.contentType = true
  contentLength : ∀ n ∈ raw.contentLength, n ≤ limit
  length : raw.payload.length ≤ limit
  failure : raw.failure = none

variable {F limit} {raw : RawRequest}

theorem body_eq_ok_iff {bytes : Bytes} :
    F.body limit raw = .ok bytes ↔ F.Arrives limit raw ∧ raw.payload = bytes := by
  have hknown : raw.contentLength.filter (limit < ·) = none ↔
      ∀ n ∈ raw.contentLength, n ≤ limit := by
    simp [Option.filter_eq_none_iff]
  unfold body
  constructor
  · intro h
    split at h
    · rename_i hct
      split at h
      · cases h
      · rename_i hlen
        split at h
        · cases h
        · rename_i hsize
          split at h
          · cases h
          · rename_i hfail
            cases h
            exact ⟨⟨hct, hknown.mp hlen, Nat.le_of_not_lt hsize, hfail⟩, rfl⟩
    · cases h
  · rintro ⟨h, rfl⟩
    simp [h.contentType, hknown.mpr h.contentLength, Nat.not_lt.mpr h.length, h.failure]

/-- A handler runs on what it can read of a body that arrives. -/
theorem arguments_eq_ok_iff {r : Route} {e : Endpoint D} :
    F.arguments limit r raw = .ok e ↔ r.extract F.toRgbWire = .nothing e ∨
      ∃ v, F.Arrives limit raw ∧ F.parse raw.payload = some v ∧
        (r.extract F.toRgbWire).read v = some e := by
  unfold arguments
  cases r.extract F.toRgbWire with
  | nothing e' => simp [Extract.read]
  | json format make =>
    simp only [reduceCtorEq, false_or, Extract.read]
    cases hbody : F.body limit raw with
    | error err =>
      have hnot : ¬ F.Arrives limit raw := fun h => by
        rw [body_eq_ok_iff.mpr ⟨h, rfl⟩] at hbody
        cases hbody
      simp [hnot]
    | ok bytes =>
      obtain ⟨harr, rfl⟩ := body_eq_ok_iff.mp hbody
      have hread : (∃ v, F.parse raw.payload = some v ∧
          (format.codec.decode v).map make = some e) ↔
          ∃ a, (F.parse raw.payload).bind format.codec.decode = some a ∧ make a = e := by
        simp only [Option.map_eq_some_iff, Option.bind_eq_some_iff]
        exact ⟨fun ⟨v, hv, a, ha, he⟩ => ⟨a, ⟨v, hv, ha⟩, he⟩,
          fun ⟨a, ⟨v, hv, ha⟩, he⟩ => ⟨v, hv, a, ha, he⟩⟩
      simp only [harr, true_and, hread]
      cases (F.parse raw.payload).bind format.codec.decode <;> simp

theorem arguments_inRange {r : Route} {e : Endpoint D} (h : F.arguments limit r raw = .ok e) :
    e.route = r ∧ e.InRange F.toRgbWire := by
  obtain hx | ⟨v, -, -, hv⟩ := arguments_eq_ok_iff.mp h
  · exact (r.makes_iff _ e).mp (by rw [hx]; rfl)
  · exact (r.makes_iff _ e).mp (Extract.exists_read_iff.mp ⟨v, hv⟩)

theorem service_paths : (WalletSrv.service.map Resource.path).Nodup := by decide

theorem service_posts {r : Route} : ∀ resource ∈ WalletSrv.service, resource.handler = .node r →
    resource.method = .post := by
  cases r <;> decide

theorem find?_service {p : String} {resource : Resource} :
    WalletSrv.service.find? (·.path = p) = some resource ↔
      resource ∈ WalletSrv.service ∧ resource.path = p :=
  find?_key service_paths

/-- A handler runs for a post to one of its paths, with a readable key and the
arguments that it takes. -/
theorem receive_eq_serve_iff {req : HttpRequest D} :
    F.receive limit raw = .serve req ↔ raw.method = .post ∧ req.headers = raw.headers ∧
      (∃ key, XWalletKey.fromRequest raw.headers = .ok key) ∧
      ∃ r, ⟨raw.path, .post, .node r⟩ ∈ WalletSrv.service ∧
        F.arguments limit r raw = .ok req.endpoint := by
  constructor
  · intro h
    unfold receive at h
    split at h
    · cases h
    · rename_i resource hfind
      obtain ⟨hmem, hpath⟩ := find?_service.mp hfind
      split at h
      · rename_i hmethod
        split at h
        · cases h
        · rename_i r hhandler
          split at h
          · cases h
          · rename_i key hkey
            split at h
            · cases h
            · rename_i endpoint hargs
              cases h
              have hpost := service_posts resource hmem hhandler
              obtain ⟨path, method, handler⟩ := resource
              cases hpath
              cases hhandler
              cases hpost
              exact ⟨hmethod.symm, rfl, ⟨key, hkey⟩, r, hmem, hargs⟩
      · cases h
  · obtain ⟨headers, endpoint⟩ := req
    rintro ⟨hmethod, rfl, ⟨key, hkey⟩, r, hmem, hargs⟩
    unfold receive
    rw [find?_service.mpr ⟨hmem, rfl⟩]
    simp [hmethod, hkey, hargs]

/-- Every request in range can be written down, and however it is written it is the
request that is received: its numbers and its options arrive as they were sent. -/
theorem every_spelling_received {e : Endpoint D} (h : e.InRange F.toRgbWire) :
    (∃ v, (e.route.extract F.toRgbWire).Writes e v) ∧
    ∀ (v : Value) (raw : RawRequest) (key : XWalletKey),
      (e.route.extract F.toRgbWire).Writes e v → F.Arrives limit raw →
      F.parse raw.payload = some v → raw.method = .post →
      ⟨raw.path, .post, .node e.route⟩ ∈ WalletSrv.service →
      XWalletKey.fromRequest raw.headers = .ok key →
      F.receive limit raw = .serve ⟨raw.headers, e⟩ := by
  refine ⟨exists_writes h, fun v raw key hv harr hparse hmethod hpath hkey => ?_⟩
  exact receive_eq_serve_iff.mpr ⟨hmethod, rfl, ⟨key, hkey⟩, _, hpath,
    arguments_eq_ok_iff.mpr (.inr ⟨v, harr, hparse, Extract.read_of_writes hv⟩)⟩

end Front

namespace Reference

/-- The asset in a body, under the old name and under the new one. -/
def oldBody : String := "\x7b\"assetId\":\"rgb:asset\"\x7d"
def newBody : String := "\x7b\"asset_id\":\"rgb:asset\"\x7d"

/-- A payment. -/
def payBody : String := "\x7b\"address\":\"bcrt1q\",\"amount\":1000,\"fee_rate\":2\x7d"

def payValue : Value :=
  .obj [("address", .str "bcrt1q"), ("amount", .int 1000), ("fee_rate", .int 2)]

def witnessData : Codec Unit where
  decode
    | .obj [] => some ()
    | _ => none
  encode _ := .obj []
  Valid _ := True
  decode_encode _ _ := rfl
  valid _ _ _ := trivial

/-- A server that reads these bodies. -/
def front : Front Reference.deps where
  witnessData := witnessData
  witnessData_null := rfl
  encryption := Codec.bool
  required := true
  required_valid := trivial
  canParseJson contentType := contentType = some (headerValue "application/json")
  parse bytes :=
    if bytes = headerValue oldBody then some (.obj [("assetId", .str assetId)])
    else if bytes = headerValue newBody then some (.obj [("asset_id", .str assetId)])
    else if bytes = headerValue payBody then some payValue
    else none
  deserializeError _ _ := "invalid value"
  display _ := "Json deserialize error"

def balanceRequest (body : String) : RawRequest where
  method := .post
  path := "/wallet/assetbalance"
  headers := key.headers
  contentType := some (headerValue "application/json")
  contentLength := none
  payload := headerValue body
  failure := none

theorem parse_old :
    front.parse (headerValue oldBody) = some (.obj [("assetId", .str assetId)]) := by
  simp [front]

theorem parse_pay : front.parse (headerValue payBody) = some payValue := by
  have hold : headerValue payBody ≠ headerValue oldBody := by decide
  have hnew : headerValue payBody ≠ headerValue newBody := by decide
  simp [front, hold, hnew]

theorem parse_new :
    front.parse (headerValue newBody) = some (.obj [("asset_id", .str assetId)]) := by
  have hne : headerValue newBody ≠ headerValue oldBody := by decide
  simp [front, hne]

theorem arrives (body : String) (h : body.toList.length ≤ 100) :
    front.Arrives 100 (balanceRequest body) where
  contentType := by simp [front, balanceRequest]
  contentLength := by simp [balanceRequest]
  length := by simpa [balanceRequest, headerValue] using h
  failure := rfl

theorem readable : XWalletKey.fromRequest key.headers = .ok key := fromRequest_headers rfl rfl rfl

theorem respelled : AssetBalanceReq.record.fields.Respelled [("assetId", .str assetId)]
    [("asset_id", .str assetId)] :=
  .rename _ _ (.inl ⟨by decide, by decide⟩)

end Reference

/-- A body in the old spelling. -/
theorem Front.every_spelling_received_old :
    Reference.front.receive 100 (Reference.balanceRequest Reference.oldBody) =
      .serve ⟨Reference.key.headers, .assetBalance Reference.assetId⟩ :=
  (Front.every_spelling_received (F := Reference.front) (e := .assetBalance Reference.assetId)
    trivial).2 _ _ Reference.key
    ⟨Reference.assetId, ⟨trivial, trivial⟩, rfl, .inr ⟨_, rfl, Reference.respelled⟩⟩
    (Reference.arrives _ (by decide)) Reference.parse_old rfl (by decide) Reference.readable

namespace Front

variable {F : Front D} {limit : Nat}

theorem arguments_respelled {r : Route} {raw raw' : RawRequest} {ms ms' : List (String × Value)}
    (harr : F.Arrives limit raw) (harr' : F.Arrives limit raw')
    (hparse : F.parse raw.payload = some (.obj ms))
    (hparse' : F.parse raw'.payload = some (.obj ms'))
    (hms : (r.extract F.toRgbWire).Respelled ms ms') {e : Endpoint D} :
    F.arguments limit r raw = .ok e ↔ F.arguments limit r raw' = .ok e := by
  simp [arguments_eq_ok_iff, harr, harr', hparse, hparse', Extract.read_respelled hms]

/-- Requests that spell their bodies differently are received as the same request, or
neither is received. -/
theorem respelled_received {raw raw' : RawRequest} {ms ms' : List (String × Value)}
    (hmethod : raw'.method = raw.method) (hpath : raw'.path = raw.path)
    (hheaders : raw'.headers = raw.headers) (harr : F.Arrives limit raw)
    (harr' : F.Arrives limit raw') (hparse : F.parse raw.payload = some (.obj ms))
    (hparse' : F.parse raw'.payload = some (.obj ms'))
    (hms : ∀ r, ⟨raw.path, .post, .node r⟩ ∈ WalletSrv.service →
      (r.extract F.toRgbWire).Respelled ms ms') (req : HttpRequest D) :
    F.receive limit raw = .serve req ↔ F.receive limit raw' = .serve req := by
  rw [receive_eq_serve_iff, receive_eq_serve_iff, hmethod, hpath, hheaders]
  refine and_congr_right fun _ => and_congr_right fun _ => and_congr_right fun _ =>
    exists_congr fun r => and_congr_right fun hr => ?_
  exact arguments_respelled harr harr' hparse hparse' (hms r hr)

end Front

/-- The body in both spellings. -/
theorem Front.respelled_received_names :
    Reference.front.receive 100 (Reference.balanceRequest Reference.oldBody) =
        .serve ⟨Reference.key.headers, .assetBalance Reference.assetId⟩ ↔
      Reference.front.receive 100 (Reference.balanceRequest Reference.newBody) =
        .serve ⟨Reference.key.headers, .assetBalance Reference.assetId⟩ := by
  have hold : Reference.front.Arrives 100 (Reference.balanceRequest Reference.oldBody) :=
    Reference.arrives _ (by decide)
  have hnew : Reference.front.Arrives 100 (Reference.balanceRequest Reference.newBody) :=
    Reference.arrives _ (by decide)
  apply Front.respelled_received _ _ _ hold hnew Reference.parse_old Reference.parse_new
  · intro r hr
    have hroute : r = .assetBalance := by
      revert hr
      cases r <;> decide
    rw [hroute]
    exact Reference.respelled
  · rfl
  · rfl
  · rfl

end RgbNodeApi

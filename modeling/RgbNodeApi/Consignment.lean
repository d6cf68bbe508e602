import RgbNodeApi.WalletCmd
import RgbNodeApi.Reference

/-!
# Consignment lookups

A lookup names a file with two strings the client chose. The validator leaves
only strings of 64 hex digits for the first one, the wallet only assets it knows
for the second one, so the file lies where the wallet keeps that transfer.
-/
namespace RgbNodeApi

open Files

variable {D : Deps}

/-- 64 ASCII hex digits. -/
def IsTxid (s : String) : Prop := s.toList.length = 64 ∧ ∀ c ∈ s.toList, Hex.isDigit c = true

theorem isAsciiHexdigit_lt (b : UInt8) (h : isAsciiHexdigit b = true) : b < 128 := by
  simp only [isAsciiHexdigit, Bool.or_eq_true, Bool.and_eq_true, decide_eq_true_eq,
    UInt8.le_iff_toNat_le, UInt8.lt_iff_toNat_lt, UInt8.reduceToNat] at *
  omega

theorem isDigit_lt (c : Char) (h : Hex.isDigit c = true) : c.toNat < 128 := by
  simp only [Hex.isDigit, Bool.or_eq_true, Bool.and_eq_true, decide_eq_true_eq] at h
  omega

theorem isAsciiHexdigit_val (c : Char) (h : c.utf8Size = 1) :
    isAsciiHexdigit c.val.toUInt8 = Hex.isDigit c := by
  rw [Char.utf8Size_eq_one_iff, UInt32.le_iff_toNat_le] at h
  have hval : c.val.toUInt8.toNat = c.toNat := by
    rw [UInt32.toNat_toUInt8]
    exact Nat.mod_eq_of_lt (Nat.lt_of_le_of_lt h (by decide))
  simp only [isAsciiHexdigit, Hex.isDigit, UInt8.le_iff_toNat_le, UInt8.reduceToNat, hval]

/-- The byte-wise validator accepts exactly the strings of 64 hex digits. -/
theorem validateTxid_ok_iff (req : GetConsignmentReq) :
    req.validateTxid = .ok () ↔ IsTxid req.txid := by
  have hok : req.validateTxid = .ok () ↔
      (Text.bytes req.txid).length = 64 ∧ ∀ b ∈ Text.bytes req.txid, isAsciiHexdigit b = true := by
    unfold GetConsignmentReq.validateTxid
    rw [← List.all_eq_true]
    split
    · rename_i h
      simp only [reduceCtorEq, false_iff, not_and_or]
      exact h
    · rename_i h
      simpa [not_or] using h
  rw [hok]
  constructor
  · rintro ⟨hlen, hall⟩
    have hsize : ∀ c ∈ req.txid.toList, c.utf8Size = 1 := fun c hc =>
      Text.utf8Size_of_ascii (fun b hb => isAsciiHexdigit_lt b (hall b hb)) hc
    rw [Text.bytes_of_utf8Size _ hsize] at hlen hall
    refine ⟨by simpa using hlen, fun c hc => ?_⟩
    rw [← isAsciiHexdigit_val c (hsize c hc)]
    exact hall _ (List.mem_map_of_mem hc)
  · rintro ⟨hlen, hall⟩
    have hsize : ∀ c ∈ req.txid.toList, c.utf8Size = 1 := fun c hc =>
      Text.utf8Size_of_lt (isDigit_lt c (hall c hc))
    rw [Text.bytes_of_utf8Size _ hsize]
    refine ⟨by simpa using hlen, fun b hb => ?_⟩
    obtain ⟨c, hc, rfl⟩ := List.mem_map.mp hb
    rw [isAsciiHexdigit_val c (hsize c hc)]
    exact hall c hc

theorem validateTxid_of_not (req : GetConsignmentReq) (h : ¬ IsTxid req.txid) :
    req.validateTxid = .error .invalidTxid := by
  rw [← validateTxid_ok_iff] at h
  unfold GetConsignmentReq.validateTxid at *
  split at h
  · rw [if_pos ‹_›]
  · exact absurd rfl h

/-- A txid cannot leave the directory it is joined to. -/
theorem IsTxid.safe {s : String} (h : IsTxid s) : SafeComponent s where
  nonempty := by
    rintro rfl
    simp [IsTxid] at h
  notDot := by
    rintro rfl
    simp [IsTxid] at h
  notDotDot := by
    rintro rfl
    simp [IsTxid] at h
  noSeparator hs := (Hex.isDigit_ne (h.2 '/' hs)).2 rfl

section Lookup

variable (req : GetConsignmentReq) (w : D.Wallet) (fs : Fs)

theorem lookupConsignment_invalid (h : ¬ IsTxid req.txid) :
    lookupConsignment req w fs = ⟨.error .invalidTxid, []⟩ := by
  simp [lookupConsignment, validateTxid_of_not req h]

theorem lookupConsignment_unknown (h : IsTxid req.txid) (err : Error)
    (hm : D.getAssetMetadata w req.assetId = .error err) :
    lookupConsignment req w fs = ⟨.error err, []⟩ := by
  simp [lookupConsignment, (validateTxid_ok_iff req).mpr h, hm]

theorem lookupConsignment_known (h : IsTxid req.txid) (m : D.Metadata)
    (hm : D.getAssetMetadata w req.assetId = .ok m) :
    lookupConsignment req w fs =
      match fs (D.getSendConsignmentPath w req.assetId req.txid) with
      | .ok bytes => ⟨.ok ⟨D.hexEncode bytes⟩, [D.getSendConsignmentPath w req.assetId req.txid]⟩
      | .error e =>
        ⟨.error (if e.kind = .notFound then .noConsignment else D.ofIoError e),
          [D.getSendConsignmentPath w req.assetId req.txid]⟩ := by
  simp only [lookupConsignment, (validateTxid_ok_iff req).mpr h, hm, Files.read]
  cases fs (D.getSendConsignmentPath w req.assetId req.txid) with
  | ok bytes => rfl
  | error e => by_cases he : e.kind = .notFound <;> simp [he]

/-- A file is read only for a txid and a known asset, and it is the only one. -/
theorem lookupConsignment_reads (p : Path) (hp : p ∈ (lookupConsignment req w fs).reads) :
    IsTxid req.txid ∧ (∃ m, D.getAssetMetadata w req.assetId = .ok m) ∧
      p = D.getSendConsignmentPath w req.assetId req.txid ∧
      (lookupConsignment req w fs).reads = [p] := by
  by_cases h : IsTxid req.txid
  · cases hm : D.getAssetMetadata w req.assetId with
    | error err => simp [lookupConsignment_unknown req w fs h err hm] at hp
    | ok m =>
      rw [lookupConsignment_known req w fs h m hm] at hp ⊢
      refine ⟨h, ⟨m, rfl⟩, ?_⟩
      cases hf : fs (D.getSendConsignmentPath w req.assetId req.txid) with
      | ok bytes => simp_all
      | error e => simp_all
  · simp [lookupConsignment_invalid req w fs h] at hp

/-- The result depends on the file that is read and on no other. -/
theorem lookupConsignment_congr (gs : Fs)
    (h : ∀ p ∈ (lookupConsignment req w fs).reads, gs p = fs p) :
    lookupConsignment req w gs = lookupConsignment req w fs := by
  by_cases ht : IsTxid req.txid
  · cases hm : D.getAssetMetadata w req.assetId with
    | error err =>
      rw [lookupConsignment_unknown req w gs ht err hm,
        lookupConsignment_unknown req w fs ht err hm]
    | ok m =>
      have hread : D.getSendConsignmentPath w req.assetId req.txid ∈
          (lookupConsignment req w fs).reads := by
        rw [lookupConsignment_known req w fs ht m hm]
        cases fs (D.getSendConsignmentPath w req.assetId req.txid) <;> simp
      rw [lookupConsignment_known req w gs ht m hm, lookupConsignment_known req w fs ht m hm,
        h _ hread]
  · rw [lookupConsignment_invalid req w gs ht, lookupConsignment_invalid req w fs ht]

theorem lookupConsignment_atMostOne : (lookupConsignment req w fs).reads.length ≤ 1 := by
  cases hr : (lookupConsignment req w fs).reads with
  | nil => simp
  | cons p rest =>
    have hp : p ∈ (lookupConsignment req w fs).reads := hr ▸ List.mem_cons_self
    obtain ⟨-, -, -, hone⟩ := lookupConsignment_reads req w fs p hp
    rw [← hr, hone]
    exact Nat.le_refl 1

/-- A success comes from the bytes of the file that was read. -/
theorem lookupConsignment_ok {res : GetConsignmentRes}
    (hres : (lookupConsignment req w fs).res = .ok res) :
    ∃ p bytes, (lookupConsignment req w fs).reads = [p] ∧ fs p = .ok bytes ∧
      res.bytesHex = D.hexEncode bytes := by
  by_cases ht : IsTxid req.txid
  · cases hm : D.getAssetMetadata w req.assetId with
    | error err => simp [lookupConsignment_unknown req w fs ht err hm] at hres
    | ok m =>
      rw [lookupConsignment_known req w fs ht m hm] at hres ⊢
      cases hf : fs (D.getSendConsignmentPath w req.assetId req.txid) with
      | error e => simp [hf] at hres
      | ok bytes =>
        simp only [hf, Except.ok.injEq] at hres
        subst hres
        exact ⟨_, bytes, rfl, hf, rfl⟩
  · simp [lookupConsignment_invalid req w fs ht] at hres

end Lookup

/-- What the lookup relies on: where a wallet keeps the consignments it sends,
that only well-named assets are known, and what the two crates' functions do. -/
structure ConsignmentDeps (D : Deps) (walletDir : D.Wallet → Path) (assetDir : String → String)
    (file : String) : Prop where
  path : ∀ w assetId txid, D.getSendConsignmentPath w assetId txid =
    (((walletDir w).join txid).join (assetDir assetId)).join file
  asset : ∀ w assetId m, D.getAssetMetadata w assetId = .ok m → SafeComponent (assetDir assetId)
  file : SafeComponent file
  io : ∀ e, (D.ofIoError e).variant = .io
  hex : ∀ bytes, (D.hexEncode bytes).toList = bytes.flatMap Hex.byteDigits

theorem Reference.consignmentDeps :
    ConsignmentDeps Reference.deps Reference.walletDir Reference.assetDir
      Reference.consignmentFile where
  path _ _ _ := rfl
  asset _ id _ _ := Reference.assetDir_safe id
  file := Reference.consignmentFile_safe
  io _ := rfl
  hex bytes := Hex.toList_encode bytes

theorem ConsignmentDeps.components {walletDir : D.Wallet → Path} {assetDir : String → String}
    {file : String} (hd : ConsignmentDeps D walletDir assetDir file) {w : D.Wallet}
    {req : GetConsignmentReq} {m : D.Metadata} (ht : IsTxid req.txid)
    (hm : D.getAssetMetadata w req.assetId = .ok m) :
    D.getSendConsignmentPath w req.assetId req.txid =
      ⟨(walletDir w).absolute,
        (walletDir w).components ++ [req.txid, assetDir req.assetId, file]⟩ := by
  rw [hd.path, join_safe _ _ ht.safe, join_safe _ _ (hd.asset w req.assetId m hm),
    join_safe _ _ hd.file]
  simp

/-- A consignment lookup reads at most one file, in the directory of its txid
under the wallet's own, and only for 64 hex digits and a known asset; it returns
exactly the bytes of the file, tells its failures apart and changes nothing. -/
theorem lookupConsignment_exact (walletDir : D.Wallet → Path) (assetDir : String → String)
    (file : String) (hd : ConsignmentDeps D walletDir assetDir file) (tempDir : Path) (env : Env D)
    (id : String) (req : GetConsignmentReq) (s : RgbWalletState D) (fs : Fs) :
    let look := lookupConsignment req s.wallet fs
    let path := D.getSendConsignmentPath s.wallet req.assetId req.txid
    (handleWalletCmd tempDir env id (.getConsignment req)).run (s, fs) = (some look.res, s, fs) ∧
    look.reads.length ≤ 1 ∧
    (∀ p ∈ look.reads, IsTxid req.txid ∧ SafeComponent req.txid ∧
      (∃ m, D.getAssetMetadata s.wallet req.assetId = .ok m) ∧
      p = ⟨(walletDir s.wallet).absolute,
        (walletDir s.wallet).components ++ [req.txid, assetDir req.assetId, file]⟩) ∧
    (∀ gs : Fs, (∀ p ∈ look.reads, gs p = fs p) → lookupConsignment req s.wallet gs = look) ∧
    (∀ res, look.res = .ok res →
      ∃ p bytes, look.reads = [p] ∧ fs p = .ok bytes ∧ Hex.decode res.bytesHex = some bytes) ∧
    (¬ IsTxid req.txid →
      ∀ w gs, lookupConsignment (D := D) req w gs = ⟨.error .invalidTxid, []⟩) ∧
    (IsTxid req.txid → ∀ err, D.getAssetMetadata s.wallet req.assetId = .error err →
      ∀ gs, lookupConsignment req s.wallet gs = ⟨.error err, []⟩) ∧
    (IsTxid req.txid → ∀ m, D.getAssetMetadata s.wallet req.assetId = .ok m →
      (∀ bytes, fs path = .ok bytes → ∃ res, look.res = .ok res) ∧
      (∀ e, fs path = .error e → e.kind = .notFound → look.res = .error .noConsignment) ∧
      ∀ e, fs path = .error e → e.kind ≠ .notFound →
        ∃ err, look.res = .error err ∧ err.variant ≠ .noConsignment) := by
  intro look path
  refine ⟨rfl, ?_, ?_, ?_, ?_, ?_, ?_, ?_⟩
  · exact lookupConsignment_atMostOne req s.wallet fs
  · intro p hp
    obtain ⟨ht, ⟨m, hm⟩, rfl, -⟩ := lookupConsignment_reads req s.wallet fs p hp
    exact ⟨ht, ht.safe, ⟨m, hm⟩, hd.components ht hm⟩
  · intro gs h
    exact lookupConsignment_congr req s.wallet fs gs h
  · intro res hres
    obtain ⟨p, bytes, hreads, hf, hhex⟩ := lookupConsignment_ok req s.wallet fs hres
    refine ⟨p, bytes, hreads, hf, ?_⟩
    rw [hhex]
    exact Hex.decode_of_digits (hd.hex bytes)
  · intro ht w gs
    exact lookupConsignment_invalid req w gs ht
  · intro ht err hm gs
    exact lookupConsignment_unknown req s.wallet gs ht err hm
  · intro ht m hm
    simp only [look, lookupConsignment_known req s.wallet fs ht m hm]
    refine ⟨?_, ?_, ?_⟩
    · intro bytes hf
      exact ⟨⟨D.hexEncode bytes⟩, by simp only [path] at hf; simp [hf]⟩
    · intro e hf he
      simp only [path] at hf
      simp [hf, he]
    · intro e hf he
      simp only [path] at hf
      exact ⟨D.ofIoError e, by simp [hf, he], by simp [hd.io e]⟩

/-- A lookup of an asset the wallet knows, where every file holds one byte. -/
theorem lookupConsignment_exact_reference :
    let req : GetConsignmentReq := ⟨Reference.assetId, String.ofList (List.replicate 64 'a')⟩
    let w : RgbWalletState Reference.deps := ⟨"a1b2c3d4", "",
      ⟨⟨"col", "van", none, "a1b2c3d4", none⟩, 0⟩, ⟨.electrum "", false, 20, 604800, [], []⟩, ∅,
      none⟩
    ∃ res p bytes, (lookupConsignment req w.wallet fun _ => .ok [0xab]).res = .ok res ∧
      (lookupConsignment req w.wallet fun _ => .ok [0xab]).reads = [p] ∧
      Hex.decode res.bytesHex = some bytes ∧ SafeComponent req.txid := by
  intro req w
  have ht : IsTxid req.txid := by
    constructor
    · simp [req]
    · intro c hc
      simp only [req, String.toList_ofList] at hc
      rw [List.eq_of_mem_replicate hc]
      decide
  obtain ⟨-, -, hconfined, -, hbytes, -, -, hknown⟩ :=
    lookupConsignment_exact Reference.walletDir Reference.assetDir Reference.consignmentFile
      Reference.consignmentDeps Reference.tempDir Reference.world "a1b2c3d4" req w
      fun _ => .ok [0xab]
  obtain ⟨res, hres⟩ := (hknown ht "asset" rfl).1 [0xab] rfl
  obtain ⟨p, bytes, hreads, -, hdecode⟩ := hbytes res hres
  have hsafe := (hconfined p (hreads ▸ List.mem_singleton.mpr rfl)).2.1
  exact ⟨res, p, bytes, hres, hreads, hdecode, hsafe⟩

end RgbNodeApi
